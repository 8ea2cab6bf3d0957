import PasskeyCeremony.Failure.Basic
import PasskeyCeremony.Prompt.Dialog
import PasskeyCeremony.Prompt.Machine

/-!
# The naming prompt

Calls that ask for a name share one view and take it in turn, in the order in which they began. A
call with the view in hand opens the dialog, unless the view does not find its elements, and closes
it again when the dialog has ended or its caller drops the call.
-/

namespace PasskeyCeremony

/-- What the view of the naming prompt is told, and what it hands over. -/
inductive NamingCall where
  /-- Show the dialog with an empty field that takes so many characters. -/
  | show (fieldLength : Nat)
  | attach
  | render (shown : FieldState)
  /-- The view hands over an event. -/
  | event (e : NameEvent)
  | close
  | reset
  | detach
  /-- The user is told something; this goes to the page and not to the dialog. -/
  | toast (t : Toast)
  deriving DecidableEq, Repr

namespace Naming

/-- A call that has not ended. -/
structure Call where
  /-- The number of the call. -/
  number : Nat
  /-- The names in use. -/
  inUse : List String
  /-- Its dialog, if it has the view. -/
  dialog : Option Dialog
  deriving DecidableEq, Repr

/-- The state of the prompt: the calls that have not ended, in the order in which they began. -/
structure State where
  /-- The number of the next call. -/
  nextNumber : Nat
  /-- The calls that have not ended. -/
  calls : List Call
  deriving DecidableEq, Repr

def State.initial : State := ⟨0, []⟩

/-- How a call ends. -/
inductive Result where
  /-- With the ending of its dialog. -/
  | ended (e : Dialog.Ending)
  /-- The dialog could not be shown. -/
  | unavailable
  deriving DecidableEq, Repr

/-- What its caller gets: a name, or nothing, or the failure to show the dialog. -/
def Result.answer : Result → Except Failure (Option String)
  | ended e => .ok e.name?
  | unavailable => .error (.promptUnavailable "passkey name modal")

/-- One piece of one call. -/
inductive Move where
  /-- A call begins and queues for the view. -/
  | start (inUse : List String)
  /-- It gets hold of the view, which may not find its elements. -/
  | show (number : Nat) (found : Bool)
  /-- The quiet period after the last change ends, at a time. -/
  | settle (number : Nat) (now : Nat)
  /-- The view hands over an event at a time. A check that was due earlier comes first. -/
  | event (number : Nat) (now : Nat) (e : NameEvent)
  /-- Its caller drops it. -/
  | drop (number : Nat)
  deriving DecidableEq, Repr

/-- The call that makes a move. -/
def Move.caller? : Move → Option Nat
  | .start _ => none
  | .show n _ | .settle n _ | .event n _ _ | .drop n => some n

/-- What a move leads to. -/
abbrev Progress := Machine.Progress State NamingCall Result

/-- What came of a sequence of moves. -/
abbrev History := Machine.History State NamingCall Result

namespace State

def call? (s : State) (number : Nat) : Option Call := s.calls.find? (·.number == number)

def remove (s : State) (number : Nat) : State :=
  { s with calls := s.calls.filter fun c ↦ c.number ≠ number }

/-- Give a call its dialog, or the next state of it. -/
def setDialog (s : State) (number : Nat) (d : Dialog) : State :=
  { s with
    calls := s.calls.map fun c ↦ if c.number = number then { c with dialog := some d } else c }

/-- The number of the call whose turn it is. -/
def turn? (s : State) : Option Nat := s.calls.head?.map (·.number)

end State

/-- What the view is told when the dialog is shown. -/
def setup (found : Bool) : List NamingCall :=
  .show Dialog.fieldLength :: if found then [.attach, .render .initial] else []

/-- What the view is told when the dialog goes away. -/
def teardown : List NamingCall := [.close, .reset, .detach]

/-- Make a move, if the call is at a point where it can. -/
def step (s : State) : Move → Option Progress
  | .start inUse =>
    some ⟨⟨s.nextNumber + 1, s.calls ++ [⟨s.nextNumber, inUse, none⟩]⟩, [], none⟩
  | .show n found => do
    let c ← s.call? n
    guard (s.turn? = some n ∧ c.dialog = none)
    if found then return ⟨s.setDialog n .initial, setup true, none⟩
    else return ⟨s.remove n, setup false, some .unavailable⟩
  | .settle n now => do
    let c ← s.call? n
    let d ← c.dialog
    guard (d.checkAt = some now)
    let (shown, d) := d.settle c.inUse
    return ⟨s.setDialog n d, [.render shown], none⟩
  | .event n now e => do
    let c ← s.call? n
    let d ← c.dialog
    guard (d.checkAt.all (now ≤ ·))
    let r := d.handle c.inUse now e
    let told := .event e :: r.shown.map .render
    match r.next with
    | .inl d => return ⟨s.setDialog n d, told, none⟩
    | .inr ending =>
      return ⟨s.remove n, told ++ ending.toast?.toList.map .toast ++ teardown, some (.ended ending)⟩
  | .drop n => do
    let c ← s.call? n
    return ⟨s.remove n, if c.dialog.isSome then teardown else [], none⟩

/-- The naming prompt. -/
def machine : Machine State Move NamingCall Result where
  initial := .initial
  nextNumber := State.nextNumber
  IsIdle s := s.calls = []
  caller? := Move.caller?
  step := step

/-- Make moves one after the other, if each of them can be made. -/
abbrev run (s : State) (moves : List Move) : Option History := machine.run s moves

end Naming

end PasskeyCeremony
