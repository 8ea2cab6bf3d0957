import PasskeyCeremony.Credential.Encoding
import PasskeyCeremony.Credential.Transports
import PasskeyCeremony.Json.Writer

/-!
# Credentials

What the platform hands back after a creation or a retrieval. The credential is kept as the platform
serialised it; what leaves for the server is its normal form: the Base64 fields repaired first, the
transports put into a list afterwards.
-/

namespace PasskeyCeremony

/-- A public-key credential as the platform serialised it. -/
structure Credential where
  /-- The document of the platform. -/
  json : Json
  deriving DecidableEq

namespace Credential

/-- Bring a credential into the form the server expects. -/
def normalize (v : Json) : Logged Json := (repairEncoding v).andThen listTransports

def id? (c : Credential) : Option String := c.json.getString? "id"

/-- The credential in the form the server expects. -/
def normalized (c : Credential) : Json := (normalize c.json).value

def normalizedText (c : Credential) : String := c.normalized.toText

end Credential

end PasskeyCeremony
