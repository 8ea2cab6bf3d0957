import PasskeyCeremony.Prompt.Naming
import PasskeyCeremony.Timeline.Basic

/-!
# Namings over a scripted view

The view of a naming prompt follows a script: for every dialog that is to be shown, whether the view
finds its elements, and the events of the user. An event has a time, counted from the moment at
which the dialog was shown, or none; without a time, or with one that has passed, it is there at
once. The script may also block, after which there are no more events. When the events run out the
dialog is closed, and when the scripts run out there are no events.
-/

namespace PasskeyCeremony.Timeline

open Naming (Move Progress step)

/-- One entry of the script of a dialog. -/
inductive DialogEntry where
  /-- An event, at a time if one is given. -/
  | event (at? : Option Nat) (e : NameEvent)
  /-- No more events. -/
  | block
  deriving DecidableEq, Repr

/-- What the view does with one dialog. -/
structure DialogScript where
  /-- The elements of the dialog are found. -/
  found : Bool
  /-- What the user does. -/
  entries : List DialogEntry
  deriving DecidableEq, Repr

def DialogScript.quiet : DialogScript := ⟨true, []⟩

/-- A naming prompt, its view, and the jobs that use them. -/
structure Dialogs where
  /-- The prompt. -/
  prompt : Naming.State
  /-- What the view will do with the dialogs to come. -/
  scripts : List DialogScript
  /-- When the open dialog was shown. -/
  shownAt : Nat
  /-- What is still to come in the open dialog. -/
  coming : List DialogEntry
  /-- The numbers of the calls that jobs made. -/
  numbers : List (Nat × Nat)

namespace Dialogs

/-- An unused prompt over a view with a script. -/
def ofScripts (scripts : List DialogScript) : Dialogs := ⟨.initial, scripts, 0, [], []⟩

/-- The script of the next dialog. -/
def nextScript (m : Dialogs) : DialogScript := m.scripts.head?.getD .quiet

/-- The next event of the open dialog and its time, nothing where the script blocks. -/
def nextEvent? (m : Dialogs) : Option (Option Nat × NameEvent) :=
  match m.coming with
  | [] => some (none, .closed)
  | .event at? e :: _ => some (at?.map (m.shownAt + ·), e)
  | .block :: _ => none

/-- Make a move of the prompt, if it can be made. -/
def move? (m : Dialogs) (mv : Move) : Option (Dialogs × List NamingCall × Option Naming.Result) :=
  (step m.prompt mv).map fun p ↦ ({ m with prompt := p.state }, p.calls, p.result)

/-- Take the view and show the dialog of a call. -/
def show? (m : Dialogs) (now n : Nat) : Option (Dialogs × List NamingCall × Option Naming.Result) :=
  let s := m.nextScript
  (m.move? (.show n s.found)).map fun r ↦
    ({ r.1 with scripts := m.scripts.tail, shownAt := now, coming := s.entries }, r.2)

/-- Take the next event, if it is there. -/
def event? (m : Dialogs) (now n : Nat) :
    Option (Dialogs × List NamingCall × Option Naming.Result) :=
  match m.nextEvent? with
  | some (at?, e) =>
    if at?.all (· ≤ now) then
      (m.move? (.event n now e)).map fun r ↦ ({ r.1 with coming := m.coming.tail }, r.2)
    else none
  | none => none

/-- A call goes on, if it does not have to wait. -/
def advance (m : Dialogs) (now n : Nat) :
    Option (Dialogs × List NamingCall × Option Naming.Result) :=
  match m.prompt.call? n with
  | none => none
  | some c =>
    match c.dialog with
    | none => m.show? now n
    | some _ => (m.event? now n).orElse fun _ ↦ m.move? (.settle n now)

def numberOf (m : Dialogs) (job : Nat) : Nat := (m.numbers.lookup job).getD 0

/-- The time that a call waits for: that of the next event, or that of the next check. -/
def due (m : Dialogs) (n : Nat) : Option Nat :=
  match (m.prompt.call? n).bind (·.dialog) with
  | none => none
  | some d => (d.checkAt.toList ++ (m.nextEvent?.bind (·.1)).toList).min?

def begin (m : Dialogs) (inUse : List String) : Dialogs :=
  match m.move? (.start inUse) with
  | some (m, _) => m
  | none => m

def drop (m : Dialogs) (n : Nat) : Dialogs × List NamingCall :=
  match m.move? (.drop n) with
  | some (m, calls, _) => (m, calls)
  | none => (m, [])

def work (inUse : List (List String)) : Work Dialogs NamingCall Naming.Result where
  start m _ job :=
    match inUse[job]? with
    | none => (m, [])
    | some names =>
      let m' := m.begin names
      ({ m' with numbers := (job, m.prompt.nextNumber) :: m'.numbers }, [])
  advance m now job := m.advance now (m.numberOf job)
  due m job := m.due (m.numberOf job)
  drop m job := m.drop (m.numberOf job)

def bound (inUse : List (List String)) (scripts : List DialogScript) : Nat :=
  4 * (scripts.flatMap fun s ↦ s.entries).length + 8 * inUse.length + 8

end Dialogs

end PasskeyCeremony.Timeline
