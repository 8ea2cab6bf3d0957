import PasskeyCeremony.Failure.Basic
import PasskeyCeremony.Page.Toast

/-!
# Reporting a failure

What the user and the log are told about a failed ceremony. The detail of a failure goes to the log
only; the user gets one toast, worded by the ceremony, unless there are no passkeys, where the page
has moved on already and nothing is shown. The exception is the message of a server, which is meant
for the user.
-/

namespace PasskeyCeremony

/-- The ceremonies, as reports name them. -/
inductive Operation where
  | registration
  | authentication
  | deletion
  deriving DecidableEq, Repr

def Operation.name : Operation → String
  | registration => "registration"
  | authentication => "authentication"
  | deletion => "deletion"

/-- A line for the log and, for the user, a toast or nothing. -/
structure Report where
  /-- The line for the log. -/
  line : Log.Line
  /-- The toast for the user. -/
  toast : Option Toast
  deriving DecidableEq

def PlatformFailure.report (op : Operation) : PlatformFailure → Report
  | aborted detail =>
    ⟨⟨.warn, s!"Passkey {op.name} aborted: {detail}"⟩,
      some (.of s!"Passkey {op.name} was aborted" .warning)⟩
  | notAllowed detail =>
    ⟨⟨.warn, s!"Passkey {op.name} not allowed: {detail}"⟩,
      some (.of s!"Passkey {op.name} was cancelled or not allowed" .warning)⟩
  | invalidState detail =>
    ⟨⟨.warn, s!"Passkey already registered: {detail}"⟩,
      some (.of "This passkey has already been registered." .warning)⟩
  | other name detail =>
    ⟨⟨.error, s!"Error during passkey {op.name}: {name}: {detail}"⟩,
      some (.of s!"Passkey {op.name} failed" .error)⟩

namespace Failure

def refusalToast (op : Operation) (message : String) : Toast :=
  match op with
  | .deletion => .of s!"Error deleting passkey: {message}" .error
  | _ => .of message .error

def plainReport (op : Operation) (f : Failure) : Report :=
  ⟨⟨.error, s!"Error during passkey {op.name}: {f.message}"⟩,
    some (.of s!"Passkey {op.name} failed" .error)⟩

def report (op : Operation) : Failure → Report
  | noRegisteredPasskeys =>
    ⟨⟨.debug, "No registered passkeys, user was sent to account setup"⟩, none⟩
  | network context detail =>
    ⟨⟨.error, s!"Network error while {context}: {detail}"⟩,
      some (.of s!"Network error while {context}" .error)⟩
  | server status message =>
    ⟨⟨.error, s!"Passkey {op.name} rejected by server ({status}): {message}"⟩,
      some (refusalToast op message)⟩
  | requestOptionsUnavailable status =>
    ⟨⟨.error, s!"Authentication options request failed with status {status}"⟩,
      some (.of "Failed to get authentication options from server. Please try again." .warning)⟩
  | platform f => f.report op
  | f => plainReport op f

end Failure

end PasskeyCeremony
