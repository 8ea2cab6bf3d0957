import PasskeyCeremony.Ceremony.Program

/-!
# Creating and retrieving a credential

The platform is asked for a credential. When it ends without one, or with an exception, the ceremony
fails. A retrieval may begin with a conditional one, where the platform offers that; the platform
then has a window of time. When the window has passed the conditional retrieval is abandoned, its
signal is raised, and only then the other one begins, so the user never sees two dialogs.
-/

namespace PasskeyCeremony

/-- The credential in a reply of the platform. -/
def credentialOf : PlatformReply → Except Failure Credential
  | .ok (some c) => .ok c
  | .ok none => .error .missingCredential
  | .error e => .error (.platform e.classify)

namespace Attempt

def create (options : CreationOptions) : Attempt Credential :=
  ExceptT.mk (.ask (.create options) fun reply ↦ .done (credentialOf reply))

/-- Have a credential retrieved, by a dialog of the platform. -/
def retrieve (options : RequestOptions) : Attempt Credential :=
  ExceptT.mk <|
    .ask (.retrieve ⟨options, .optional, false⟩) fun _ ↦
    .ask .await fun reply ↦ .done (credentialOf reply)

/-- Have a credential retrieved conditionally, if that ends within a window, and otherwise by a
dialog of the platform. -/
def retrieveWithin (window : Nat) (options : RequestOptions) : Attempt Credential :=
  ExceptT.mk <|
    .ask .askConditional fun (available : Bool) ↦
      if available then
        .ask (.retrieve ⟨options, .conditional, true⟩) fun _ ↦
        .ask (.awaitWithin window) fun
          | some reply => .done (credentialOf reply)
          | none => .ask .abandon fun _ ↦ .ask .abort fun _ ↦ (retrieve options).run
      else (retrieve options).run

end Attempt

end PasskeyCeremony
