import PasskeyCeremony.Binary64.Basic
import PasskeyCeremony.Json.Members

/-!
# JSON values

The documents that server, platform and page exchange. An integer that fits 64 bits, signed or
unsigned, stays an integer; every other number is a binary floating-point number, and the two never
compare equal, because they are written differently. Objects hold their members in key order.
-/

namespace PasskeyCeremony

/-- A number of a document. -/
inductive Json.Number where
  /-- A whole number, from `-2 ^ 63` to `2 ^ 64 - 1`. -/
  | integer (n : Int)
  /-- Any other number. -/
  | double (x : Binary64)
  deriving DecidableEq, Repr

/-- A JSON value. -/
inductive Json where
  | null
  | bool (b : Bool)
  | number (n : Json.Number)
  | string (s : String)
  | array (items : List Json)
  | object (members : List (String × Json))
  deriving Inhabited, Repr

namespace Json

/-! ## Equality is decidable -/

mutual

def decEq : (a b : Json) → Decidable (a = b)
  | null, null => isTrue rfl
  | bool a, bool b => decidable_of_iff (a = b) ⟨congrArg bool, Json.bool.inj⟩
  | number a, number b => decidable_of_iff (a = b) ⟨congrArg number, Json.number.inj⟩
  | string a, string b => decidable_of_iff (a = b) ⟨congrArg string, Json.string.inj⟩
  | array a, array b =>
    match decEqItems a b with
    | isTrue h => isTrue (congrArg array h)
    | isFalse h => isFalse fun e ↦ h (Json.array.inj e)
  | object a, object b =>
    match decEqMembers a b with
    | isTrue h => isTrue (congrArg object h)
    | isFalse h => isFalse fun e ↦ h (Json.object.inj e)
  | null, bool _ | null, number _ | null, string _ | null, array _ | null, object _
  | bool _, null | bool _, number _ | bool _, string _ | bool _, array _ | bool _, object _
  | number _, null | number _, bool _ | number _, string _ | number _, array _
  | number _, object _
  | string _, null | string _, bool _ | string _, number _ | string _, array _
  | string _, object _
  | array _, null | array _, bool _ | array _, number _ | array _, string _ | array _, object _
  | object _, null | object _, bool _ | object _, number _ | object _, string _
  | object _, array _ => isFalse nofun

def decEqItems : (a b : List Json) → Decidable (a = b)
  | [], [] => isTrue rfl
  | a :: as, b :: bs =>
    match decEq a b, decEqItems as bs with
    | isTrue h, isTrue h' => isTrue (h ▸ h' ▸ rfl)
    | isFalse h, _ => isFalse fun e ↦ h (List.cons.inj e).1
    | _, isFalse h => isFalse fun e ↦ h (List.cons.inj e).2
  | [], _ :: _ | _ :: _, [] => isFalse nofun

def decEqMembers : (a b : List (String × Json)) → Decidable (a = b)
  | [], [] => isTrue rfl
  | (k, a) :: as, (l, b) :: bs =>
    match decEq a b, decEqMembers as bs with
    | isTrue h, isTrue h' =>
      if hk : k = l then isTrue (hk ▸ h ▸ h' ▸ rfl)
      else isFalse fun e ↦ hk (Prod.mk.inj (List.cons.inj e).1).1
    | isFalse h, _ => isFalse fun e ↦ h (Prod.mk.inj (List.cons.inj e).1).2
    | _, isFalse h => isFalse fun e ↦ h (List.cons.inj e).2
  | [], _ :: _ | _ :: _, [] => isFalse nofun

end

instance : DecidableEq Json := decEq

/-! ## Looking into a value -/

/-- The member of an object under a key; nothing for any other value. -/
def get? : Json → String → Option Json
  | object ms, key => Members.get? ms key
  | _, _ => none

def asString? : Json → Option String
  | string s => some s
  | _ => none

def getString? (v : Json) (key : String) : Option String := (v.get? key).bind asString?

/-- Change the member of an object under a key; any other value is left as it is. -/
def modify (v : Json) (key : String) (f : Json → Json) : Json :=
  match v with
  | object ms => object (Members.modify ms key f)
  | v => v

mutual

/-- The members of the value and of every object inside it are sorted. This is what the reader
guarantees of every document. -/
def Ordered : Json → Prop
  | array items => OrderedItems items
  | object ms => Members.Sorted ms ∧ OrderedMembers ms
  | _ => True

/-- Every value of the list is ordered. -/
def OrderedItems : List Json → Prop
  | [] => True
  | v :: rest => v.Ordered ∧ OrderedItems rest

/-- Every value of the members is ordered. -/
def OrderedMembers : List (String × Json) → Prop
  | [] => True
  | (_, v) :: rest => v.Ordered ∧ OrderedMembers rest

end

end Json

end PasskeyCeremony
