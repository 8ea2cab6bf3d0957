import PasskeyCeremony.Failure.Platform
import PasskeyCeremony.Url.Fault

/-!
# Failures

Why a ceremony, or one of the requests it makes, did not come to its end. A failure of the transport
says what was being done; a refusal of the server carries its status and what the server said.
-/

namespace PasskeyCeremony

/-- Why a step of a ceremony failed. -/
inductive Failure where
  /-- There was no answer, or none that could be read, while something was being done. -/
  | network (context : String) (detail : String)
  /-- The server refused. -/
  | server (status : Nat) (message : String)
  /-- There are no options for a retrieval, for a reason other than missing passkeys. -/
  | requestOptionsUnavailable (status : Nat)
  /-- The user has no passkey registered. -/
  | noRegisteredPasskeys
  /-- The platform failed. -/
  | platform (failure : PlatformFailure)
  /-- The platform ended without handing back a credential. -/
  | missingCredential
  /-- A prompt could not be shown. -/
  | promptUnavailable (prompt : String)
  /-- A text is no document of the expected form. -/
  | json (detail : String)
  /-- A text is no address. -/
  | url (fault : Url.Fault)
  /-- Markup could not be made. -/
  | markup (detail : String)
  deriving DecidableEq, Repr

namespace Failure

def fallbackMessage (status : Nat) : String := "Server returned status " ++ toString status

/-- The refusal with what the server said, if it said anything. -/
def refusal (status : Nat) (message : Option String) : Failure :=
  .server status (message.getD (fallbackMessage status))

def message : Failure → String
  | network context detail => "Network error while " ++ context ++ ": " ++ detail
  | server _ m => m
  | requestOptionsUnavailable status =>
    "Authentication options unavailable (status " ++ toString status ++ ")"
  | noRegisteredPasskeys => "No registered passkeys"
  | platform f => "Platform error: " ++ f.message
  | missingCredential => "No credential was returned by the authenticator"
  | promptUnavailable prompt => "Prompt unavailable: " ++ prompt
  | json detail => "Json conversion(Serde) error: " ++ detail
  | url fault => "Invalid URL: " ++ fault.message
  | markup detail => "Utils error: Render error: " ++ detail

end Failure

end PasskeyCeremony
