import PasskeyCeremony.Credential.Basic
import PasskeyCeremony.Failure.Basic
import PasskeyCeremony.Http.Message
import PasskeyCeremony.Options.Creation
import PasskeyCeremony.Options.Request
import PasskeyCeremony.Page.Form
import PasskeyCeremony.Page.Modal
import PasskeyCeremony.Page.Toast

/-!
# Actions

Everything that a ceremony does to its surroundings, one action at a time, and what it is told in
answer. The surroundings are the server, the platform with its authenticators, and the page.

A retrieval of a credential is three actions and not one: it begins, it is waited for, and it may be
abandoned before it has ended. So it can be said of a ceremony that it never has two of them
outstanding.
-/

namespace PasskeyCeremony

/-- How the platform involves the user in a retrieval. -/
inductive Mediation where
  /-- By a dialog of its own. -/
  | optional
  /-- By offering credentials where the user types, without a dialog. -/
  | conditional
  deriving DecidableEq, Repr

/-- What the platform is asked to retrieve. -/
structure Retrieval where
  /-- The bundle of the server. -/
  options : RequestOptions
  /-- How the user is involved. -/
  mediation : Mediation
  /-- The platform is given a signal by which the retrieval can be aborted. -/
  abortable : Bool
  deriving DecidableEq

/-- How the platform ends a creation or a retrieval: with an exception, or with a credential or
without one. -/
abbrev PlatformReply := Except Exception (Option Credential)

/-- What a ceremony does to its surroundings. -/
inductive Action where
  /-- Send a request to the server and wait for the answer. -/
  | send (request : Http.Request)
  /-- Ask the platform whether it can involve the user conditionally. -/
  | askConditional
  /-- Have the platform create a credential. -/
  | create (options : CreationOptions)
  /-- Begin a retrieval. -/
  | retrieve (request : Retrieval)
  /-- Wait for the retrieval that has begun. -/
  | await
  /-- Wait for the retrieval that has begun, but no longer than a number of milliseconds. -/
  | awaitWithin (window : Nat)
  /-- Take no notice any more of the retrieval that has begun. -/
  | abandon
  /-- Tell the platform, by its signal, that the retrieval is aborted. -/
  | abort
  /-- Ask the user to confirm something. -/
  | confirm (question : Question)
  /-- Have the user choose a name that is not in use. -/
  | chooseName (inUse : List String)
  /-- Submit a form, leaving the page. -/
  | submit (form : Form)
  /-- Go to another page. -/
  | redirect (path : String)
  /-- Show a toast. -/
  | notify (toast : Toast)
  deriving DecidableEq

/-- What an action is answered with. -/
def Action.Answer : Action → Type
  | send _ => Except Http.Lost Http.Response
  | askConditional => Bool
  | create _ => PlatformReply
  | await => PlatformReply
  | awaitWithin _ => Option PlatformReply
  | confirm _ => Bool
  | chooseName _ => Except Failure (Option String)
  | submit _ | redirect _ => Except Failure Unit
  | retrieve _ | abandon | abort | notify _ => Unit

end PasskeyCeremony
