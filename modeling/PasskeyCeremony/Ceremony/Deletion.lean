import PasskeyCeremony.Ceremony.Outcome
import PasskeyCeremony.Ceremony.Retrieval

/-!
# Deletion

A user deletes one of their passkeys. They use a passkey first, whatever the settings say about
conditional retrieval, and what that comes to is the body of the request. A user without a passkey
is sent to the page where one can be set up, and the deletion fails. Failures are handed to the
caller, who decides how to tell the user.
-/

namespace PasskeyCeremony

/-- Delete the passkey with an identifier; the result is what the server answers. -/
def delete (c : Client) (id csrfToken : String) : Attempt Json := do
  match ← Attempt.requestOptions? c csrfToken with
  | none =>
    Attempt.redirectToSetup c
    throw .noRegisteredPasskeys
  | some options =>
    let credential ← Attempt.retrieve options
    Attempt.deletePasskey c id csrfToken credential.normalizedText

end PasskeyCeremony
