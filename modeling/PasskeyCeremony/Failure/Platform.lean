/-!
# Failures of the platform

An exception of the platform's credential interface has a name that carries the meaning and a
message for diagnosis. Three names are recognised. A request that was aborted or not allowed is a
normal part of using passkeys and counts as benign.
-/

namespace PasskeyCeremony

/-- An exception as the platform reports it. -/
structure Exception where
  /-- The name, which carries the meaning. -/
  name : String
  /-- Text for diagnosis. -/
  message : String
  deriving DecidableEq, Repr

/-- A failure of the platform, by its meaning. -/
inductive PlatformFailure where
  /-- The request was aborted or superseded. -/
  | aborted (detail : String)
  /-- The user dismissed the request, or the platform refused it. -/
  | notAllowed (detail : String)
  /-- The credential is registered on this authenticator already. -/
  | invalidState (detail : String)
  /-- Anything else. -/
  | other (name : String) (detail : String)
  deriving DecidableEq, Repr

def Exception.text (e : Exception) : String := e.name ++ ": " ++ e.message

/-- The meaning of an exception. -/
def Exception.classify (e : Exception) : PlatformFailure :=
  if e.name = "AbortError" then .aborted e.message
  else if e.name = "NotAllowedError" then .notAllowed e.message
  else if e.name = "InvalidStateError" then .invalidState e.message
  else .other e.name e.message

namespace PlatformFailure

/-- Aborted and dismissed requests are a normal part of using passkeys. -/
def isBenign : PlatformFailure → Bool
  | aborted _ | notAllowed _ => true
  | invalidState _ | other _ _ => false

def detail : PlatformFailure → String
  | aborted d | notAllowed d | invalidState d | other _ d => d

def message : PlatformFailure → String
  | aborted d => "Operation aborted: " ++ d
  | notAllowed d => "Operation not allowed: " ++ d
  | invalidState d => "Invalid state: " ++ d
  | other name d => name ++ ": " ++ d

end PlatformFailure

end PasskeyCeremony
