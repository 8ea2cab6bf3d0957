import PasskeyCeremony.Base64.Repair
import PasskeyCeremony.Json.Basic
import PasskeyCeremony.Log

/-!
# The encoding of a credential's binary fields

The JSON form of a credential requires seven fields to be unpadded URL-safe Base64. Some
integrations write standard Base64 there, so wherever a string stands under one of the seven names,
at any depth, it is repaired. The repair is logged when it changes the text, and a text that is
no encoding even then is kept and warned about. Nothing else in the document is touched.

The document is walked depth first, the members of an object in key order, and the log lines come in
the order of the walk.
-/

namespace PasskeyCeremony.Credential

/-- The fields whose strings have to be unpadded URL-safe Base64. -/
def base64UrlFields : List String :=
  ["id", "rawId", "clientDataJSON", "attestationObject", "authenticatorData", "signature",
    "userHandle"]

def repairText (s : String) : String := String.ofList (Base64.repair s.toList)

def repairLog (key s : String) : List Log.Line :=
  (if repairText s = s then []
    else [⟨.debug, s!"Converted {key} from Base64 to Base64URL"⟩]) ++
  (if Base64.isUrlEncoding (Base64.repair s.toList) then []
    else [⟨.warn, s!"Field {key} is not valid Base64URL after repair"⟩])

/-- The text of one field, repaired, with its log. -/
def repairField (key s : String) : Logged Json := ⟨.string (repairText s), repairLog key s⟩

mutual

/-- Repair the Base64 fields everywhere in a value. -/
def repairEncoding : Json → Logged Json
  | .object ms => (repairMembers ms).map .object
  | .array items => (repairItems items).map .array
  | v => .quiet v

def repairItems : List Json → Logged (List Json)
  | [] => .quiet []
  | v :: rest => .zipWith List.cons (repairEncoding v) (repairItems rest)

/-- Repair the members of an object: a string under one of the seven names, and what is inside any
other value. -/
def repairMembers : List (String × Json) → Logged (List (String × Json))
  | [] => .quiet []
  | (key, .string s) :: rest =>
    let v := if key ∈ base64UrlFields then repairField key s else .quiet (.string s)
    .zipWith (fun v ms ↦ (key, v) :: ms) v (repairMembers rest)
  | (key, v) :: rest => .zipWith (fun v ms ↦ (key, v) :: ms) (repairEncoding v) (repairMembers rest)

end

end PasskeyCeremony.Credential
