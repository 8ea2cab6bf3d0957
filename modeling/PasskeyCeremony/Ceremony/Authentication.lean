import PasskeyCeremony.Ceremony.Outcome
import PasskeyCeremony.Ceremony.Retrieval

/-!
# Authentication

A user signs in with a passkey: options are fetched, a credential is retrieved, and a form with it
is submitted to the place that the page names. A user without a passkey is sent to the page where
one can be set up. A user who dismisses the platform's dialog has changed their mind, which is no
failure.
-/

namespace PasskeyCeremony

namespace Authentication

def form (target : String) (credential : Credential) (csrfToken : String) : Form :=
  ⟨target, [("credentials", credential.normalizedText), ("csrfToken", csrfToken)]⟩

/-- Have a credential retrieved the way the settings want it. -/
def retrieve (settings : Settings) (options : RequestOptions) : Attempt Credential :=
  if settings.conditionalMediation then
    Attempt.retrieveWithin settings.conditionalWindow options
  else Attempt.retrieve options

/-- The authentication, with its failures. -/
def attempt (c : Client) (target csrfToken : String) : Attempt Outcome := do
  match ← Attempt.requestOptions? c csrfToken with
  | none =>
    Attempt.redirectToSetup c
    return .redirected
  | some options =>
    let credential ← retrieve c.settings options
    Attempt.submit (form target credential csrfToken)
    return .submitted

end Authentication

def authenticate (c : Client) (target csrfToken : String) : Program Outcome := do
  match ← (Authentication.attempt c target csrfToken).run with
  | .ok outcome => return outcome
  | .error f =>
    match f with
    | .platform p =>
      if p.isBenign then return .cancelled
      else
        Program.report .authentication f
        return .failed
    | _ =>
      Program.report .authentication f
      return .failed

end PasskeyCeremony
