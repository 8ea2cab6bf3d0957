import PasskeyCeremony.Ceremony.Outcome
import PasskeyCeremony.Ceremony.Retrieval

/-!
# Registration

A signed-in user registers a new passkey. Users who have one already must first confirm that they
will use it, and then do so; only after that are options for the creation fetched, the credential
created, a name chosen and the form submitted. The form carries the new credential and, where the
user had to use an old passkey, also what that came to.
-/

namespace PasskeyCeremony

namespace Registration

/-- What the user is asked before using a passkey they have. -/
def stepUpQuestion : Question where
  heading := "Authenticate with existing passkey"
  message := "Before you register a new passkey, use a passkey you have already registered to " ++
    "authenticate your request."
  action := "authenticate"

/-- What the user is told after that; the answer does not matter. -/
def registerQuestion : Question where
  heading := "Register new passkey"
  message := "Authentication successful! Now register your new passkey."
  action := "register"

/-- What the user is told when they would not use the passkey they have. -/
def declined : Toast := .of "Passkey registration cancelled" .info

def form (c : Client) (created : Credential) (csrfToken name : String)
    (existing : Option Credential) : Form where
  action := c.settings.endpoint "register"
  fields :=
    [("passkey", created.normalizedText), ("csrfToken", csrfToken), ("passkeyName", name)] ++
    (existing.map fun e ↦ ("credentials", e.normalizedText)).toList

/-- Have the user confirm with a passkey they have, and say what comes next. Nothing is the result
where the user declines. -/
def stepUp (options : RequestOptions) : Attempt (Option Credential) := do
  if ← Attempt.confirm stepUpQuestion then
    let credential ← Attempt.retrieve options
    let _ ← Attempt.confirm registerQuestion
    return some credential
  else
    Attempt.notify declined
    return none

/-- Create a credential, have it named and submit it. -/
def createAndSubmit (c : Client) (csrfToken : String) (inUse : List String)
    (existing : Option Credential) : Attempt Outcome := do
  let options ← Attempt.creationOptions c csrfToken
  let created ← Attempt.create options
  match ← Attempt.chooseName inUse with
  | none => return .cancelled
  | some name =>
    Attempt.submit (form c created csrfToken name existing)
    return .submitted

/-- The registration, with its failures. -/
def attempt (c : Client) (csrfToken : String) (inUse : List String) : Attempt Outcome := do
  let options ← Attempt.stepUpOptions c csrfToken
  if options.hasRegistered then
    match ← stepUp options with
    | none => return .cancelled
    | some existing => createAndSubmit c csrfToken inUse (some existing)
  else createAndSubmit c csrfToken inUse none

end Registration

def register (c : Client) (csrfToken : String) (inUse : List String) : Program Outcome := do
  match ← (Registration.attempt c csrfToken inUse).run with
  | .ok outcome => return outcome
  | .error f =>
    Program.report .registration f
    return .failed

end PasskeyCeremony
