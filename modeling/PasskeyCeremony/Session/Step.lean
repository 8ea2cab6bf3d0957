import PasskeyCeremony.Ceremony.Authentication
import PasskeyCeremony.Ceremony.Deletion
import PasskeyCeremony.Ceremony.Registration
import PasskeyCeremony.Session.Surroundings

/-!
# Sessions

A session is a sequence of steps of one client in the same surroundings: ceremonies, single requests
to the server, and navigations. Each step has a result and leaves records.
-/

namespace PasskeyCeremony.Session

/-- What a client does next. -/
inductive Step where
  /-- Register a passkey. -/
  | register (csrfToken : String) (inUse : List String)
  /-- Sign in. -/
  | authenticate (csrfToken target : String)
  /-- Delete a passkey, and tell the user about a failure or not. -/
  | delete (csrfToken id : String) (report : Bool)
  /-- Fetch options for a creation. -/
  | creationOptions (csrfToken : String)
  /-- Fetch options for the retrieval that a registration needs first. -/
  | stepUpOptions (csrfToken : String)
  /-- Fetch options for signing in. -/
  | requestOptions (csrfToken : String)
  /-- Send the request to delete a passkey. -/
  | deletePasskey (csrfToken id credential : String)
  /-- Submit a form. -/
  | submit (form : Form)
  /-- Go to another page. -/
  | redirect (path : String)

/-- What a step came to. -/
inductive Result where
  /-- The outcome of a ceremony. -/
  | outcome (o : Outcome)
  /-- A document. -/
  | value (v : Json)
  /-- A failure. -/
  | failure (f : Failure)

def Result.ofExcept : Except Failure Json → Result
  | .ok v => value v
  | .error f => failure f

/-- The program of an attempt, its value as a document. -/
def attempted {α : Type} (toJson : α → Json) (a : Attempt α) : Program Result :=
  (fun x ↦ .ofExcept (x.map toJson)) <$> a.run

def deletion (c : Client) (csrfToken id : String) (report : Bool) : Program Result := do
  match ← (delete c id csrfToken).run with
  | .ok v => return .value v
  | .error f =>
    if report then Program.report .deletion f
    return .failure f

/-- The program of a step. -/
def Step.program (c : Client) : Step → Program Result
  | register csrfToken inUse => .outcome <$> PasskeyCeremony.register c csrfToken inUse
  | authenticate csrfToken target => .outcome <$> PasskeyCeremony.authenticate c target csrfToken
  | delete csrfToken id report => deletion c csrfToken id report
  | creationOptions csrfToken => attempted (·.toJson) (Attempt.creationOptions c csrfToken)
  | stepUpOptions csrfToken => attempted (·.toJson) (Attempt.stepUpOptions c csrfToken)
  | requestOptions csrfToken => attempted (·.toJson) (Attempt.requestOptions c csrfToken)
  | deletePasskey csrfToken passkey credential =>
    attempted id (Attempt.deletePasskey c passkey csrfToken credential)
  | submit form => attempted (fun _ ↦ .null) (Attempt.submit form)
  | redirect path => attempted (fun _ ↦ .null) (Attempt.redirect path)

/-- What can be seen of a step. -/
structure Report where
  /-- The result, if the step came to its end. -/
  result : Option Result
  /-- What reached the surroundings. -/
  records : List Record
  /-- For every signal so far, whether it has been raised. -/
  signals : List Bool

/-- Carry out one step. -/
def perform (c : Client) (s : State) (step : Step) : Report × State :=
  let run := (step.program c).run surroundings { s with records := [] }
  (⟨run.result, run.state.records, run.state.signals⟩, run.state)

/-- Carry out steps one after the other. -/
def performAll (c : Client) (s : State) : List Step → List Report
  | [] => []
  | step :: rest =>
    let (report, s) := perform c s step
    report :: performAll c s rest

end PasskeyCeremony.Session
