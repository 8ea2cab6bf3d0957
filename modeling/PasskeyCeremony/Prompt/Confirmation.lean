import PasskeyCeremony.Page.Modal
import PasskeyCeremony.Prompt.Machine

/-!
# The confirmation prompt

Any number of calls may ask for a confirmation at the same time, but there is one view. A call takes
a number, registers itself as the active one, which cancels the call that was active before, and
queues for the view. With the view in hand it mounts its modal, opens it and waits for the decision
of the user. It ends with that decision, or without one when it has been cancelled, and then leaves
the view to another call and the active slot to nobody, unless a newer call has taken the slot over
in the meantime.

The order in which the waiting calls get the view is not part of the prompt.
-/

namespace PasskeyCeremony

/-- What the user did with a modal. -/
inductive Decision where
  | confirm
  | cancel
  /-- The modal went away without a choice. -/
  | dismissed
  deriving DecidableEq, Repr

/-- What the view of the confirmation prompt is told, and what it hands over. -/
inductive ModalCall where
  /-- Remove a modal that is still in the document. -/
  | removeExisting
  /-- Insert the markup of a modal. -/
  | mount (number : Nat) (html : String)
  | attach (number : Nat)
  | show (number : Nat)
  /-- The view hands over a decision. -/
  | decided (number : Nat) (d : Decision)
  | detach (number : Nat)
  | destroy (number : Nat)
  deriving DecidableEq, Repr

namespace Confirmation

/-- How far a call has come. -/
inductive Stage where
  /-- It has a number. -/
  | numbered
  /-- It is registered and waits for the view. -/
  | queued
  /-- Its modal is open. -/
  | shown
  /-- It has its answer and is about to leave the active slot. -/
  | leaving (answer : Bool)
  deriving DecidableEq, Repr

/-- A call that has not ended. -/
structure Call where
  /-- The number, which is also that of its modal. -/
  number : Nat
  /-- What it asks. -/
  question : Question
  /-- How far it has come. -/
  stage : Stage
  /-- A newer call has cancelled it. -/
  cancelled : Bool
  deriving DecidableEq, Repr

/-- The state of the prompt. Registered calls stand in the order of registration, so the first of
the queued ones is the one whose turn it is, where the view goes round in turn. -/
structure State where
  /-- The number of the next call. That a counter of 64 bits wraps in the end is left out. -/
  nextNumber : Nat
  /-- The number of the call that registered last, unless it has ended since. -/
  active : Option Nat
  /-- The calls that have not ended. -/
  calls : List Call
  deriving DecidableEq, Repr

def State.initial : State := ⟨0, none, []⟩

/-- One piece of one call. -/
inductive Move where
  /-- A call begins and takes the next number. -/
  | start (q : Question)
  /-- It takes over the active slot, cancels its predecessor there, and queues for the view. -/
  | register (number : Nat)
  /-- It gets hold of the view and mounts its modal; the view may not find it afterwards. -/
  | mount (number : Nat) (found : Bool)
  /-- It takes notice, in the queue, that it has been cancelled. -/
  | giveUp (number : Nat)
  /-- The view hands over a decision. -/
  | decide (number : Nat) (d : Decision)
  /-- It takes notice, with its modal open, that it has been cancelled. -/
  | yield (number : Nat)
  /-- It leaves the active slot, if the slot is still its own, and ends. -/
  | finish (number : Nat)
  /-- Its caller drops it. -/
  | drop (number : Nat)
  deriving DecidableEq, Repr

/-- The call that makes a move. -/
def Move.caller? : Move → Option Nat
  | .start _ => none
  | .register n | .mount n _ | .giveUp n | .decide n _ | .yield n | .finish n | .drop n => some n

/-- What a move leads to. A call ends with an answer. -/
abbrev Progress := Machine.Progress State ModalCall Bool

/-- What came of a sequence of moves. -/
abbrev History := Machine.History State ModalCall Bool

namespace State

def call? (s : State) (number : Nat) : Option Call := s.calls.find? (·.number == number)

def update (s : State) (number : Nat) (f : Call → Call) : State :=
  { s with calls := s.calls.map fun c ↦ if c.number = number then f c else c }

def remove (s : State) (number : Nat) : State :=
  { s with calls := s.calls.filter fun c ↦ c.number ≠ number }

def advance (s : State) (number : Nat) (stage : Stage) : State :=
  s.update number fun c ↦ { c with stage := stage }

def cancelActive (s : State) : State :=
  match s.active with
  | some n => s.update n fun c ↦ { c with cancelled := true }
  | none => s

def viewIsFree (s : State) : Bool := s.calls.all fun c ↦ c.stage ≠ .shown

def firstQueued? (s : State) : Option Nat :=
  (s.calls.find? fun c ↦ c.stage = .queued).map (·.number)

/-- Leave the active slot, if it is held by the call with a number. -/
def clearSlot (s : State) (number : Nat) : State :=
  if s.active = some number then { s with active := none } else s

end State

/-- What the view is told when a modal is torn down. -/
def teardown (number : Nat) : List ModalCall := [.detach number, .destroy number]

/-- What the view is told when a call gets hold of it. -/
def setup (c : Call) (found : Bool) : List ModalCall :=
  [.removeExisting, .mount c.number (Page.Modal.html c.number c.question)] ++
    if found then [.attach c.number, .show c.number] else []

/-- Make a move, if the call is at a point where it can. -/
def step (s : State) : Move → Option Progress
  | .start q =>
    some ⟨{ s with
      nextNumber := s.nextNumber + 1
      calls := s.calls ++ [⟨s.nextNumber, q, .numbered, false⟩] }, [], none⟩
  | .register n => do
    let c ← s.call? n
    guard (c.stage = .numbered)
    let r := (s.remove n).cancelActive
    return ⟨{ r with
      active := some n
      calls := r.calls ++ [{ c with stage := .queued }] }, [], none⟩
  | .mount n found => do
    let c ← s.call? n
    guard (c.stage = .queued ∧ s.viewIsFree)
    return ⟨s.advance n (if found then .shown else .leaving false), setup c found, none⟩
  | .giveUp n => do
    let c ← s.call? n
    guard (c.stage = .queued ∧ c.cancelled)
    return ⟨s.advance n (.leaving false), [], none⟩
  | .decide n d => do
    let c ← s.call? n
    guard (c.stage = .shown)
    return ⟨s.advance n (.leaving (d = .confirm)), .decided n d :: teardown n, none⟩
  | .yield n => do
    let c ← s.call? n
    guard (c.stage = .shown ∧ c.cancelled)
    return ⟨s.advance n (.leaving false), teardown n, none⟩
  | .finish n => do
    let c ← s.call? n
    match c.stage with
    | .leaving answer => return ⟨(s.remove n).clearSlot n, [], some answer⟩
    | _ => none
  | .drop n => do
    let c ← s.call? n
    return ⟨s.remove n, if c.stage = .shown then teardown n else [], none⟩

/-- The confirmation prompt. -/
def machine : Machine State Move ModalCall Bool where
  initial := .initial
  nextNumber := State.nextNumber
  IsIdle s := s.calls = []
  caller? := Move.caller?
  step := step

/-- Make moves one after the other, if each of them can be made. -/
abbrev run (s : State) (moves : List Move) : Option History := machine.run s moves

end Confirmation

end PasskeyCeremony
