import PasskeyCeremony.Json.Reader

/-!
# Request options

The bundle with which a server asks for a credential to be retrieved. It goes to the platform as it
is. Only the list of allowed credentials is looked at here: when it is empty, null or missing, the
user has no passkey registered. The list is therefore split off, and every other member is carried
along unread.
-/

namespace PasskeyCeremony

/-- Options for retrieving a credential. -/
structure RequestOptions where
  /-- The credentials the server allows, if it sent a list. -/
  allowList : Option (List Json)
  /-- The other members of the bundle. -/
  rest : List (String × Json)
  /-- The other members stand in key order. -/
  sorted : Members.Sorted rest
  /-- The list is not among the other members. -/
  allow_not_mem : "allowCredentials" ∉ rest.map Prod.fst
  deriving DecidableEq

namespace RequestOptions

/-- The key of the list that is split off. -/
def allowKey : String := "allowCredentials"

/-- The list that the members written under its key stand for: a list, or nothing where the member
is null or missing. A value of another kind, or a second member under the key, is no bundle. -/
def allowListOf? (written : List (String × Json)) : Option (Option (List Json)) :=
  match written.filter fun m ↦ m.1 = allowKey with
  | [] => some none
  | [(_, .null)] => some none
  | [(_, .array items)] => some (some items)
  | _ => none

theorem allowKey_not_mem_ofList (written : List (String × Json)) :
    allowKey ∉ (Members.ofList (written.filter fun m ↦ m.1 ≠ allowKey)).map Prod.fst := by
  suffices ∀ (ms acc : List (String × Json)), (∀ m ∈ ms, m.1 ≠ allowKey) →
      allowKey ∉ acc.map Prod.fst →
      allowKey ∉ (ms.foldl (fun acc m ↦ Members.insert acc m.1 m.2) acc).map Prod.fst from
    this _ [] (fun m hm ↦ by simpa using (List.mem_filter.1 hm).2) (by simp)
  intro ms
  induction ms with
  | nil => exact fun _ _ h ↦ h
  | cons m rest ih =>
    intro acc hms hacc
    refine ih _ (fun m' hm' ↦ hms m' (List.mem_cons_of_mem _ hm')) fun h ↦ ?_
    rcases Members.mem_keys_insert h with h | h
    · exact hms m List.mem_cons_self h.symm
    · exact hacc h

/-- The bundle with the members of an object, in the order in which they were written. -/
def ofMembers? (written : List (String × Json)) : Option RequestOptions :=
  (allowListOf? written).map fun allow ↦
    { allowList := allow
      rest := Members.ofList (written.filter fun m ↦ m.1 ≠ allowKey)
      sorted := Members.sorted_ofList _
      allow_not_mem := allowKey_not_mem_ofList written }

def parse? (text : List Char) : Option RequestOptions :=
  (Json.parseMembers? text).bind ofMembers?

/-- The allowed credentials, none where there is no list. -/
def allowed (o : RequestOptions) : List Json := o.allowList.getD []

def hasRegistered (o : RequestOptions) : Bool := !o.allowed.isEmpty

/-- Any other member of the bundle. -/
def get? (o : RequestOptions) (key : String) : Option Json := Members.get? o.rest key

def toJson (o : RequestOptions) : Json :=
  match o.allowList with
  | none => .object o.rest
  | some items => .object (Members.insert o.rest allowKey (.array items))

end RequestOptions

end PasskeyCeremony
