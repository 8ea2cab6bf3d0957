import PasskeyCeremony.Prompt.Confirmation
import PasskeyCeremony.Proofs.Prompt.Calls
import PasskeyCeremony.Proofs.Prompt.Machine

/-!
# What a move of the confirmation prompt can do

Everything that is proved about the prompt rests on two facts. The first one is the list of what a
move can do (`Steps`), with the four moves that only bring a call to its next stage as one rule
(`Advances`); no later proof opens `step`. The second one is the induction on the moves made so far
(`run_induction`), in which a run grows at its end, as it does in time.

A state is looked at through `State.call?`, which gives the pending call with a number. The lemmas
`call?_…` say what each change of the list of calls means for it.
-/

namespace PasskeyCeremony.Confirmation

variable {s : State} {n k : Nat}

/-! ## Pending calls -/

namespace State

theorem number_of_call? {c : Call} (h : s.call? n = some c) : c.number = n :=
  Calls.number_of_find? h

theorem call?_eq_none_iff : s.call? n = none ↔ ∀ c ∈ s.calls, c.number ≠ n := by
  simp [call?]

theorem call?_update (f : Call → Call) (hf : ∀ c, (f c).number = c.number) :
    (s.update n f).call? k = (s.call? k).map fun c ↦ if k = n then f c else c :=
  Calls.find?_update f hf

@[simp] theorem call?_remove : (s.remove n).call? k = if k = n then none else s.call? k :=
  Calls.find?_remove

theorem call?_append {c : Call} (hnew : s.call? c.number = none) (next : Nat)
    (active : Option Nat) :
    (State.mk next active (s.calls ++ [c])).call? k =
      if k = c.number then some c else s.call? k :=
  Calls.find?_append hnew

@[simp] theorem call?_advance (stage : Stage) :
    (s.advance n stage).call? k =
      (s.call? k).map fun c ↦ if k = n then { c with stage := stage } else c :=
  call?_update _ fun _ ↦ rfl

@[simp] theorem call?_cancelActive :
    s.cancelActive.call? k =
      (s.call? k).map fun c ↦ if s.active = some k then { c with cancelled := true } else c := by
  rw [cancelActive]
  cases hactive : s.active with
  | none => simp
  | some n =>
    simp only [Option.some.injEq, eq_comm (a := n)]
    exact call?_update _ fun _ ↦ rfl

@[simp] theorem call?_clearSlot : (s.clearSlot n).call? k = s.call? k := by
  rw [clearSlot]
  split <;> rfl

@[simp] theorem active_clearSlot :
    (s.clearSlot n).active = if s.active = some n then none else s.active := by
  rw [clearSlot]
  split <;> rfl

@[simp] theorem nextNumber_cancelActive : s.cancelActive.nextNumber = s.nextNumber := by
  rw [cancelActive]
  split <;> rfl

@[simp] theorem nextNumber_clearSlot : (s.clearSlot n).nextNumber = s.nextNumber := by
  rw [clearSlot]
  split <;> rfl

/-- The modal of a call is open. -/
def Shown (s : State) (n : Nat) : Prop := ∃ c, s.call? n = some c ∧ c.stage = .shown

theorem not_shown_of_viewIsFree (hfree : s.viewIsFree = true) : ¬s.Shown n := by
  rintro ⟨c, hc, hstage⟩
  have hnot := List.all_eq_true.mp hfree c (List.mem_of_find?_eq_some hc)
  simp [hstage] at hnot

end State

/-! ## One move -/

/-- A call that is brought to its next stage by a move, and what the view is told then. -/
inductive Advances (s : State) (c : Call) : Move → Stage → List ModalCall → Prop where
  /-- A waiting call gets the view, when no modal is open. -/
  | mount (found : Bool) (hstage : c.stage = .queued) (hfree : s.viewIsFree = true) :
      Advances s c (.mount c.number found) (if found then .shown else .leaving false)
        (setup c found)
  | giveUp (hstage : c.stage = .queued) (hcancelled : c.cancelled = true) :
      Advances s c (.giveUp c.number) (.leaving false) []
  | decide (d : Decision) (hstage : c.stage = .shown) :
      Advances s c (.decide c.number d) (.leaving (d = .confirm))
        (.decided c.number d :: teardown c.number)
  | yield (hstage : c.stage = .shown) (hcancelled : c.cancelled = true) :
      Advances s c (.yield c.number) (.leaving false) (teardown c.number)

/-- All that a move can do. -/
inductive Steps (s : State) : Move → Progress → Prop where
  | start (q : Question) :
      Steps s (.start q) ⟨⟨s.nextNumber + 1, s.active,
        s.calls ++ [⟨s.nextNumber, q, .numbered, false⟩]⟩, [], none⟩
  | register {c : Call} (hc : s.call? c.number = some c) (hstage : c.stage = .numbered) :
      Steps s (.register c.number) ⟨⟨(s.remove c.number).cancelActive.nextNumber, some c.number,
        (s.remove c.number).cancelActive.calls ++ [{ c with stage := .queued }]⟩, [], none⟩
  | advance {c : Call} {m : Move} {stage : Stage} {calls : List ModalCall}
      (hc : s.call? c.number = some c) (hadvances : Advances s c m stage calls) :
      Steps s m ⟨s.advance c.number stage, calls, none⟩
  | finish {c : Call} {answer : Bool} (hc : s.call? c.number = some c)
      (hstage : c.stage = .leaving answer) :
      Steps s (.finish c.number) ⟨(s.remove c.number).clearSlot c.number, [], some answer⟩
  | drop {c : Call} (hc : s.call? c.number = some c) :
      Steps s (.drop c.number)
        ⟨s.remove c.number, if c.stage = .shown then teardown c.number else [], none⟩

theorem steps_of_step {m : Move} {p : Progress} (h : step s m = some p) : Steps s m p := by
  cases m with
  | start q =>
    obtain rfl := Option.some.inj h
    exact .start q
  | register n =>
    obtain ⟨c, hc, hstage, rfl⟩ := by
      simpa [step, Option.bind_eq_some_iff, guard, -State.nextNumber_cancelActive] using h
    obtain rfl := State.number_of_call? hc
    exact .register hc hstage
  | mount n found =>
    obtain ⟨c, hc, ⟨hstage, hfree⟩, rfl⟩ := by
      simpa [step, Option.bind_eq_some_iff, guard] using h
    obtain rfl := State.number_of_call? hc
    exact .advance hc (.mount found hstage hfree)
  | giveUp n =>
    obtain ⟨c, hc, ⟨hstage, hcancelled⟩, rfl⟩ := by
      simpa [step, Option.bind_eq_some_iff, guard] using h
    obtain rfl := State.number_of_call? hc
    exact .advance hc (.giveUp hstage hcancelled)
  | decide n d =>
    obtain ⟨c, hc, hstage, rfl⟩ := by simpa [step, Option.bind_eq_some_iff, guard] using h
    obtain rfl := State.number_of_call? hc
    exact .advance hc (.decide d hstage)
  | yield n =>
    obtain ⟨c, hc, ⟨hstage, hcancelled⟩, rfl⟩ := by
      simpa [step, Option.bind_eq_some_iff, guard] using h
    obtain rfl := State.number_of_call? hc
    exact .advance hc (.yield hstage hcancelled)
  | finish n =>
    obtain ⟨c, hc, h⟩ := Option.bind_eq_some_iff.mp h
    obtain rfl := State.number_of_call? hc
    split at h
    · rename_i answer hstage
      obtain rfl := Option.some.inj h
      exact .finish hc hstage
    · cases h
  | drop n =>
    obtain ⟨c, hc, rfl⟩ := by simpa [step, Option.bind_eq_some_iff, guard] using h
    obtain rfl := State.number_of_call? hc
    exact .drop hc

theorem Advances.caller? {c : Call} {m : Move} {stage : Stage} {calls : List ModalCall}
    (h : Advances s c m stage calls) : m.caller? = some c.number := by
  cases h <;> rfl

theorem call?_start (q : Question) (hnew : s.call? s.nextNumber = none) :
    (State.mk (s.nextNumber + 1) s.active
        (s.calls ++ [⟨s.nextNumber, q, .numbered, false⟩])).call? k =
      if k = s.nextNumber then some ⟨s.nextNumber, q, .numbered, false⟩ else s.call? k :=
  State.call?_append hnew _ _

theorem call?_register (c : Call) :
    (State.mk (s.remove c.number).cancelActive.nextNumber (some c.number)
        ((s.remove c.number).cancelActive.calls ++ [{ c with stage := .queued }])).call? k =
      if k = c.number then some { c with stage := .queued }
      else (s.call? k).map fun c' ↦
        if s.active = some k then { c' with cancelled := true } else c' := by
  have hgone : (s.remove c.number).cancelActive.call? c.number = none := by
    simp
  rw [State.call?_append (c := { c with stage := .queued }) hgone]
  split
  · rfl
  · rename_i hk
    rw [State.call?_cancelActive, State.call?_remove, if_neg hk]
    rfl

theorem call?_advance_self {c : Call} (hc : s.call? c.number = some c) (stage : Stage) :
    (s.advance c.number stage).call? c.number = some { c with stage := stage } := by
  simp [hc]

theorem call?_advance_of_ne (stage : Stage) (hk : k ≠ n) :
    (s.advance n stage).call? k = s.call? k := by
  simp [hk]

/-- **A move leaves the other calls alone**, unless a call begins or registers. -/
theorem Steps.undisturbed {m : Move} {p : Progress} (h : Steps s m p) (hm : m.caller? = some n)
    (hregister : m ≠ .register n) (hk : k ≠ n) :
    p.state.call? k = s.call? k ∧ (s.active = some k → p.state.active = some k) := by
  cases h with
  | start q => cases hm
  | register hc hstage =>
    obtain rfl := Option.some.inj hm
    exact absurd rfl hregister
  | advance hc hadvances =>
    obtain rfl := Option.some.inj (hadvances.caller?.symm.trans hm)
    exact ⟨call?_advance_of_ne _ hk, id⟩
  | finish hc hstage =>
    obtain rfl := Option.some.inj hm
    refine ⟨by simp [hk], fun hactive ↦ ?_⟩
    rw [State.active_clearSlot, if_neg]
    · exact hactive
    · rintro hother
      exact hk (Option.some.inj (hactive.symm.trans hother))
  | drop hc =>
    obtain rfl := Option.some.inj hm
    exact ⟨by simp [hk], id⟩

/-! ## Any number of moves -/

/-- **Induction on the moves** made on a prompt that had not been used. -/
theorem run_induction {motive : List Move → History → Prop}
    (nil : motive [] ⟨.initial, [], []⟩)
    (snoc : ∀ moves h m p, run .initial moves = some h → motive moves h → Steps h.state m p →
      motive (moves ++ [m]) (machine.extend h m p))
    {moves : List Move} {h : History} (hrun : run .initial moves = some h) : motive moves h :=
  Machine.run_induction (M := machine) nil
    (fun moves h m p hrun hmoves hp ↦ snoc moves h m p hrun hmoves (steps_of_step hp)) hrun

end PasskeyCeremony.Confirmation
