import PasskeyCeremony.Json.Basic
import PasskeyCeremony.Log
import PasskeyCeremony.Text.Numeral

/-!
# Transports as a list

A credential names the transports of its authenticator in a list at `response.transports`. Some
integrations hand that list over as an object keyed by the indices; its values are put back into a
list. Keys that read as an index below `2 ^ 32` come first, in the order of the index, and keys that
read as the same index keep the order of the object; the other keys follow in the order of the
object.
-/

namespace PasskeyCeremony.Credential

/-- Indices are below this bound. -/
def indexBound : Nat := Nat.pow 2 32

/-- The index that a key reads as. -/
def index? (key : String) : Option Nat := Text.unsignedBelow? indexBound key.toList

/-- The members whose key reads as an index, with the index in place of the key. -/
def indexedMembers (ms : List (String × Json)) : List (Nat × Json) :=
  ms.filterMap fun m ↦ (index? m.1).map fun n ↦ (n, m.2)

/-- The members whose key is no index. -/
def namedMembers (ms : List (String × Json)) : List (String × Json) :=
  ms.filter fun m ↦ (index? m.1).isNone

/-- The values of an object as a list: those of the indices in their order, then the others. -/
def listedValues (ms : List (String × Json)) : List Json :=
  ((indexedMembers ms).mergeSort fun a b ↦ a.1 ≤ b.1).map Prod.snd ++
    (namedMembers ms).map Prod.snd

/-- An object becomes the list of its values; any other value is left as it is. -/
def toList : Json → Json
  | .object ms => .array (listedValues ms)
  | v => v

/-- The transports of the credential are an object. -/
def hasKeyedTransports (v : Json) : Bool :=
  match (v.get? "response").bind (·.get? "transports") with
  | some (.object _) => true
  | _ => false

/-- Put the transports of a credential into a list where they are an object. -/
def listTransports (v : Json) : Logged Json where
  value := v.modify "response" fun r ↦ r.modify "transports" toList
  log :=
    if hasKeyedTransports v then [⟨.debug, "Converting response.transports from object to array"⟩]
    else []

end PasskeyCeremony.Credential
