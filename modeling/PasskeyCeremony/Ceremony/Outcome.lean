import PasskeyCeremony.Ceremony.Endpoints
import PasskeyCeremony.Failure.Report

/-!
# Outcomes

How a ceremony ends for the page that started it. A failure is not handed on: the user is told, and
the outcome says that it happened.
-/

namespace PasskeyCeremony

/-- How a registration or an authentication ended. -/
inductive Outcome where
  /-- A form was submitted. -/
  | submitted
  /-- The user did not go through with it. -/
  | cancelled
  /-- The user was sent to the page where a passkey can be set up. -/
  | redirected
  /-- Something failed, and the user was told. -/
  | failed
  deriving DecidableEq, Repr

/-- The word for an outcome. -/
def Outcome.name : Outcome → String
  | submitted => "Submitted"
  | cancelled => "Cancelled"
  | redirected => "Redirected"
  | failed => "Failed"

namespace Program

def report (op : Operation) (f : Failure) : Program Unit :=
  match (f.report op).toast with
  | some toast => perform (.notify toast)
  | none => .done ()

end Program

namespace Attempt

def confirm (q : Question) : Attempt Bool := .ofProgram (.perform (.confirm q))

def chooseName (inUse : List String) : Attempt (Option String) :=
  ExceptT.mk (.perform (.chooseName inUse))

def submit (form : Form) : Attempt Unit := ExceptT.mk (.perform (.submit form))

def redirect (path : String) : Attempt Unit := ExceptT.mk (.perform (.redirect path))

def notify (toast : Toast) : Attempt Unit := .ofProgram (.perform (.notify toast))

/-- Go to the page where a first passkey can be set up. -/
def redirectToSetup (c : Client) : Attempt Unit := redirect c.settings.accountSetupPath

/-- Fetch options for signing in, or learn that the user has no passkey. -/
def requestOptions? (c : Client) (csrfToken : String) : Attempt (Option RequestOptions) :=
  ExceptT.mk do
    match ← (requestOptions c csrfToken).run with
    | .ok options => .done (.ok (some options))
    | .error .noRegisteredPasskeys => .done (.ok none)
    | .error f => .done (.error f)

end Attempt

end PasskeyCeremony
