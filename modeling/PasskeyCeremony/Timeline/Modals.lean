import PasskeyCeremony.Prompt.Confirmation
import PasskeyCeremony.Timeline.Basic

/-!
# Confirmations over a scripted view

The view of a confirmation prompt follows a script: for every modal that is mounted, whether the
view finds it, and which decision comes how long after it was shown, if any. When the script runs
out a modal is found and dismissed at once.

A waiting call takes the decision that is due before it takes notice of being cancelled, and takes
notice of being cancelled before it takes the view. The view goes round in turn, in the order in
which the calls registered.
-/

namespace PasskeyCeremony.Timeline

open Confirmation (Move Progress step)

/-- What the view does with one modal. -/
structure ModalScript where
  /-- The modal is found after it has been mounted. -/
  found : Bool
  /-- The decision, if there ever is one. -/
  decision : Option Decision
  /-- How long after the modal was shown. -/
  after : Nat
  deriving DecidableEq, Repr

/-- A modal that is found and dismissed at once. -/
def ModalScript.dismissed : ModalScript := ⟨true, some .dismissed, 0⟩

/-- A confirmation prompt, its view, and the jobs that use them. -/
structure Modals where
  /-- The prompt. -/
  prompt : Confirmation.State
  /-- What the view will do with the modals to come. -/
  scripts : List ModalScript
  /-- The decision about the open modal, and its time. -/
  coming : Option (Nat × Decision)
  /-- The numbers of the calls that jobs made. -/
  numbers : List (Nat × Nat)

namespace Modals

/-- An unused prompt over a view with a script. -/
def ofScripts (scripts : List ModalScript) : Modals := ⟨.initial, scripts, none, []⟩

/-- The script of the next modal. -/
def nextScript (m : Modals) : ModalScript := m.scripts.head?.getD .dismissed

def move? (m : Modals) (mv : Move) : Option (Modals × List ModalCall × Option Bool) :=
  (step m.prompt mv).map fun p ↦ ({ m with prompt := p.state }, p.calls, p.result)

/-- Take the view and mount the modal of a call, when it is its turn. -/
def mount? (m : Modals) (now n : Nat) : Option (Modals × List ModalCall × Option Bool) :=
  let s := m.nextScript
  if m.prompt.firstQueued? = some n then
    (m.move? (.mount n s.found)).map fun r ↦
      ({ r.1 with
        scripts := m.scripts.tail
        coming := if s.found then s.decision.map fun d ↦ (now + s.after, d) else none }, r.2)
  else none

/-- Take the decision about the open modal, if it is due. -/
def decide? (m : Modals) (now n : Nat) : Option (Modals × List ModalCall × Option Bool) :=
  match m.coming with
  | some (t, d) => if t ≤ now then m.move? (.decide n d) else none
  | none => none

/-- A call goes on, if it does not have to wait. -/
def advance (m : Modals) (now n : Nat) : Option (Modals × List ModalCall × Option Bool) :=
  match (m.prompt.call? n).map Confirmation.Call.stage with
  | some .numbered => m.move? (.register n)
  | some .queued => (m.move? (.giveUp n)).orElse fun _ ↦ m.mount? now n
  | some .shown => (m.decide? now n).orElse fun _ ↦ m.move? (.yield n)
  | some (.leaving _) => m.move? (.finish n)
  | none => none

def numberOf (m : Modals) (job : Nat) : Nat := (m.numbers.lookup job).getD 0

/-- The time of the decision that a call waits for. -/
def due (m : Modals) (n : Nat) : Option Nat :=
  if (m.prompt.call? n).map Confirmation.Call.stage = some .shown then m.coming.map (·.1) else none

def begin (m : Modals) (q : Question) : Modals :=
  match m.move? (.start q) with
  | some (m, _) => m
  | none => m

def drop (m : Modals) (n : Nat) : Modals × List ModalCall :=
  match m.move? (.drop n) with
  | some (m, calls, _) => (m, calls)
  | none => (m, [])

def work (questions : List Question) : Work Modals ModalCall Bool where
  start m _ job :=
    match questions[job]? with
    | none => (m, [])
    | some q =>
      let m' := m.begin q
      ({ m' with numbers := (job, m.prompt.nextNumber) :: m'.numbers }, [])
  advance m now job := m.advance now (m.numberOf job)
  due m job := m.due (m.numberOf job)
  drop m job := m.drop (m.numberOf job)

def bound (questions : List Question) : Nat := 8 * questions.length + 8

end Modals

end PasskeyCeremony.Timeline
