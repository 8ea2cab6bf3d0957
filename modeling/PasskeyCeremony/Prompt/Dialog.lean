import PasskeyCeremony.Page.Markup
import PasskeyCeremony.Page.Toast
import PasskeyCeremony.Prompt.NameRule

/-!
# The naming dialog

The user types a name and submits it. While typing goes on the field is not judged; 150 milliseconds
after the last change the text is checked and the outcome shown: an error and a disabled button, or
no error and an enabled one. A click on the button, or the enter key, first checks a text that has
not been checked yet, so the state of the button is up to date when it decides whether the click
counts; a click that counts checks the text once more and ends the dialog with the name.

The dialog is given by what it does at the end of a quiet period (`settle`) and when the view hands
over an event (`handle`). Times are milliseconds and appear as data only.
-/

namespace PasskeyCeremony

/-- What the user did in the naming dialog. -/
inductive NameEvent where
  /-- The text in the field changed. -/
  | input (text : String)
  /-- A click on the button that submits. -/
  | submit
  /-- A click on the button that cancels. -/
  | cancel
  /-- A key was pressed. -/
  | key (name : String)
  /-- The dialog was closed from outside. -/
  | closed
  deriving DecidableEq, Repr

/-- What the dialog shows about the field. -/
structure FieldState where
  /-- The error under the field, if there is one. -/
  error : Option String
  /-- The button that submits can be clicked. -/
  submitEnabled : Bool
  deriving DecidableEq, Repr

namespace FieldState

/-- Before anything has been typed there is no error, and nothing to submit. -/
def initial : FieldState := ⟨none, false⟩

/-- The outcome of a check. -/
def ofCheck : Except NameFault String → FieldState
  | .ok _ => ⟨none, true⟩
  | .error f => ⟨some f.message, false⟩

end FieldState

/-- The state of an open dialog. -/
structure Dialog where
  /-- The latest text. -/
  text : String
  /-- The button can be clicked, as last shown. -/
  submitEnabled : Bool
  /-- When the text will be checked, if it has not been since it changed. -/
  checkAt : Option Nat
  deriving DecidableEq, Repr

namespace Dialog

def initial : Dialog := ⟨"", false, none⟩

/-- How long the text has to stay the same before it is checked. -/
def quietPeriod : Nat := 150

/-- The length at which the field stops taking characters: one more than a name may have, so that
the error about the length can be seen. -/
def fieldLength : Nat := maxNameLength + 1

/-- How a dialog ends. -/
inductive Ending where
  /-- With a name. -/
  | named (name : String)
  /-- The user cancelled. -/
  | cancelled
  /-- It was closed from outside. -/
  | closed
  deriving DecidableEq, Repr

/-- What a dialog does in response to an event. -/
structure Reaction where
  /-- What it shows, in order. -/
  shown : List FieldState
  /-- The dialog afterwards, or how it ended. -/
  next : Dialog ⊕ Ending
  deriving DecidableEq, Repr

/-- Check the text and show the outcome. -/
def check (inUse : List String) (d : Dialog) : FieldState :=
  .ofCheck (validateName inUse d.text)

/-- What happens at the end of a quiet period. -/
def settle (inUse : List String) (d : Dialog) : FieldState × Dialog :=
  let shown := d.check inUse
  (shown, { d with submitEnabled := shown.submitEnabled, checkAt := none })

/-- What happens at a click on the button that submits, when the button is up to date. -/
def submitChecked (inUse : List String) (d : Dialog) : Reaction :=
  if d.submitEnabled then
    let shown := d.check inUse
    match validateName inUse d.text with
    | .ok name => ⟨[shown], .inr (.named (Page.Markup.escapeText name))⟩
    | .error _ => ⟨[shown], .inl { d with submitEnabled := shown.submitEnabled }⟩
  else ⟨[], .inl d⟩

/-- What happens at a click on the button that submits: an unchecked text is checked first. -/
def submit (inUse : List String) (d : Dialog) : Reaction :=
  match d.checkAt with
  | none => d.submitChecked inUse
  | some _ =>
    let (shown, d) := d.settle inUse
    let r := d.submitChecked inUse
    ⟨shown :: r.shown, r.next⟩

/-- What happens when the view hands over an event. -/
def handle (inUse : List String) (now : Nat) (d : Dialog) : NameEvent → Reaction
  | .input text => ⟨[], .inl { d with text := text, checkAt := some (now + quietPeriod) }⟩
  | .submit => d.submit inUse
  | .key name => if name = "Enter" then d.submit inUse else ⟨[], .inl d⟩
  | .cancel => ⟨[], .inr .cancelled⟩
  | .closed => ⟨[], .inr .closed⟩

def Ending.name? : Ending → Option String
  | named name => some name
  | cancelled | closed => none

def Ending.toast? : Ending → Option Toast
  | cancelled => some (.of "Passkey registration cancelled" .info)
  | named _ | closed => none

end Dialog

end PasskeyCeremony
