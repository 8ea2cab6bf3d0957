import Mathlib.Data.List.Nodup
import PasskeyCeremony.Proofs.Confirmation.Lives

/-!
# One modal at a time

What the view of a confirmation prompt is told comes in blocks, one for each call that got hold of
the view (`Visit`). A block begins with the removal of what is left in the document and with a
modal; if the view finds the modal, it is opened and, with a decision or without one, torn down
again. Blocks do not overlap: only the last one can be without its end, and only as long as its call
is pending with its modal open (`Disciplined`).

The invariant behind it (`Visits`) says that the last block is the open one exactly while there is a
call with its modal open. It is preserved because a move does one of three things to the view
(`Views`), whatever else it does. That at most one modal exists is then a fact about lists of
blocks.
-/

namespace PasskeyCeremony.Confirmation

variable {s : State} {n k : Nat} {moves : List Move} {h : History} {m : Move} {p : Progress}

/-! ## Blocks -/

/-- What became of the view in the hands of a call. -/
inductive Hold where
  /-- The view did not find the modal. -/
  | unfound
  /-- The modal is open. -/
  | standing
  /-- The modal was torn down, after a decision or without one. -/
  | closed (decision : Option Decision)
  deriving DecidableEq, Repr

/-- A call that got hold of the view. -/
structure Visit where
  /-- The number of the call, and of its modal. -/
  number : Nat
  /-- What it asks. -/
  question : Question
  /-- What became of it. -/
  hold : Hold
  deriving DecidableEq, Repr

namespace Visit

/-- The view found the modal. -/
def found (v : Visit) : Bool := v.hold ≠ .unfound

/-- What the view is told by the call, and what it hands over to it. -/
def calls (v : Visit) : List ModalCall :=
  [.removeExisting, .mount v.number (Page.Modal.html v.number v.question)] ++
    match v.hold with
    | .unfound => []
    | .standing => [.attach v.number, .show v.number]
    | .closed decision =>
      [.attach v.number, .show v.number] ++ (decision.map (.decided v.number)).toList ++
        [.detach v.number, .destroy v.number]

/-- The block of the call. -/
def trace (v : Visit) : List (Nat × ModalCall) := v.calls.map (v.number, ·)

theorem trace_of_setup (c : Call) (found : Bool) :
    (⟨c.number, c.question, if found then .standing else .unfound⟩ : Visit).trace =
      (setup c found).map (c.number, ·) := by
  cases found <;> rfl

theorem trace_closed {v : Visit} (hstanding : v.hold = .standing) (d : Option Decision) :
    ({ v with hold := .closed d } : Visit).trace =
      v.trace ++ ((d.map (ModalCall.decided v.number)).toList ++ teardown v.number).map
        (v.number, ·) := by
  rw [trace, trace, ← List.map_append, calls, calls, hstanding]
  simp [teardown]

end Visit

/-! ## What a move does to the view -/

/-- The call that gets hold of the view with a move, and whether its modal is found. -/
def Move.visit? : Move → Option (Nat × Bool)
  | .mount n found => some (n, found)
  | _ => none

/-- The calls that got hold of the view, in order, and whether their modals were found. -/
def mounts (moves : List Move) : List (Nat × Bool) := moves.filterMap Move.visit?

theorem mem_mounts_iff {found : Bool} : (n, found) ∈ mounts moves ↔ .mount n found ∈ moves := by
  rw [mounts, List.mem_filterMap]
  constructor
  · rintro ⟨m, hm, hvisit⟩
    cases m with
    | mount k found' =>
      obtain ⟨rfl, rfl⟩ := Prod.mk.inj (Option.some.inj hvisit)
      exact hm
    | _ => cases hvisit
  · intro hm
    exact ⟨_, hm, rfl⟩

@[simp] theorem mounts_append : mounts (moves ++ [m]) = mounts moves ++ m.visit?.toList := by
  rw [mounts, List.filterMap_append]
  rfl

theorem State.shown_iff {c : Call} (hc : s.call? n = some c) : s.Shown n ↔ c.stage = .shown := by
  simp [Shown, hc]

theorem State.not_shown_of_none (hnone : s.call? n = none) : ¬s.Shown n := by
  simp [Shown, hnone]

theorem State.shown_iff_map :
    s.Shown n ↔ ∃ q, (s.call? n).map (fun c ↦ (c.question, c.stage)) = some (q, .shown) := by
  simp [Shown]

theorem Steps.shown_of_ne (hsteps : Steps s m p) (hm : m.caller? = some n) (hk : k ≠ n) :
    p.state.Shown k ↔ s.Shown k := by
  rw [State.shown_iff_map, hsteps.call?_of_ne hm hk, ← State.shown_iff_map]

/-- What a move means for the view: nothing, a modal, or the end of one. -/
inductive Views (s : State) (m : Move) (p : Progress) : Prop where
  | quiet (hvisit : m.visit? = none) (hcalls : p.calls = [])
      (hshown : ∀ k, p.state.Shown k ↔ s.Shown k)
  | mount (c : Call) (found : Bool) (hm : m = .mount c.number found)
      (hc : s.call? c.number = some c) (hstage : c.stage = .queued) (hfree : ∀ k, ¬s.Shown k)
      (hcalls : p.calls = setup c found)
      (hshown : ∀ k, p.state.Shown k ↔ found = true ∧ k = c.number)
  | close (n : Nat) (d : Option Decision) (hvisit : m.visit? = none) (hm : m.caller? = some n)
      (hopen : s.Shown n) (hcalls : p.calls = (d.map (.decided n)).toList ++ teardown n)
      (hshown : ∀ k, p.state.Shown k ↔ s.Shown k ∧ k ≠ n)

private theorem Steps.shown_of_self (hsteps : Steps s m p) (hm : m.caller? = some n)
    (hself : p.state.Shown n ↔ s.Shown n) (k : Nat) : p.state.Shown k ↔ s.Shown k := by
  by_cases hk : k = n
  · subst hk
    exact hself
  · exact hsteps.shown_of_ne hm hk

private theorem Steps.shown_of_not_self (hsteps : Steps s m p) (hm : m.caller? = some n)
    (hself : ¬p.state.Shown n) (k : Nat) : p.state.Shown k ↔ s.Shown k ∧ k ≠ n := by
  by_cases hk : k = n
  · subst hk
    simp [hself]
  · simp [hsteps.shown_of_ne hm hk, hk]

/-- A call that is brought to its next stage gets its modal, loses it, or had none. -/
private theorem Advances.views {c : Call} {stage : Stage} {calls : List ModalCall}
    (hadvances : Advances s c m stage calls) (hc : s.call? c.number = some c) :
    Views s m ⟨s.advance c.number stage, calls, none⟩ := by
  have hsteps := Steps.advance hc hadvances
  have hself : (s.advance c.number stage).Shown c.number ↔ stage = .shown :=
    State.shown_iff (call?_advance_self hc stage)
  cases hadvances with
  | mount found hstage hfree =>
    have hnone : ∀ k, ¬s.Shown k := fun k ↦ State.not_shown_of_viewIsFree hfree
    refine .mount c found rfl hc hstage hnone rfl fun k ↦ ?_
    by_cases hk : k = c.number
    · subst hk
      refine hself.trans ?_
      cases found <;> simp
    · simp [hsteps.shown_of_ne rfl hk, hnone, hk]
  | giveUp hstage hcancelled =>
    refine .quiet rfl rfl (hsteps.shown_of_self rfl ?_)
    rw [hself, State.shown_iff hc, hstage]
    simp
  | decide d hstage =>
    have hopen := (State.shown_iff hc).mpr hstage
    exact .close c.number (some d) rfl rfl hopen rfl
      (hsteps.shown_of_not_self rfl (by simp [hself]))
  | yield hstage hcancelled =>
    have hopen := (State.shown_iff hc).mpr hstage
    exact .close c.number none rfl rfl hopen rfl (hsteps.shown_of_not_self rfl (by simp [hself]))

theorem Steps.views (hsteps : Steps s m p) (hnew : s.call? s.nextNumber = none) : Views s m p := by
  have hsteps' := hsteps
  cases hsteps with
  | start q =>
    refine .quiet rfl rfl fun k ↦ ?_
    rw [State.Shown, call?_start q hnew, State.Shown]
    split
    · rename_i hk
      subst hk
      simp [hnew]
    · rfl
  | @register c hc hstage =>
    refine .quiet rfl rfl (hsteps'.shown_of_self rfl ?_)
    rw [State.shown_iff hc, hstage, State.shown_iff (by rw [call?_register, if_pos rfl])]
    simp
  | advance hc hadvances => exact hadvances.views hc
  | @finish c answer hc hstage =>
    have hgone : ((s.remove c.number).clearSlot c.number).call? c.number = none := by simp
    refine .quiet rfl rfl (hsteps'.shown_of_self rfl ?_)
    simp [State.shown_iff hc, hstage, State.not_shown_of_none hgone]
  | @drop c hc =>
    have hgone : ¬(s.remove c.number).Shown c.number :=
      State.not_shown_of_none (by simp)
    by_cases hstage : c.stage = .shown
    · have hopen := (State.shown_iff hc).mpr hstage
      refine .close c.number none rfl rfl hopen ?_ (hsteps'.shown_of_not_self rfl hgone)
      simp [hstage]
    · refine .quiet rfl ?_ (hsteps'.shown_of_self rfl ?_)
      · simp [hstage]
      · simp [State.shown_iff hc, hstage, hgone]

/-! ## The blocks of a run -/

/-- The calls that got hold of the view. Those before the last are done with it, and the last one is
not as long as its modal is open. -/
structure Visits (moves : List Move) (h : History) (visits : List Visit) : Prop where
  calls : h.calls = visits.flatMap Visit.trace
  mounts : visits.map (fun v ↦ (v.number, v.found)) = mounts moves
  distinct : (visits.map Visit.number).Nodup
  question : ∀ v ∈ visits, (questions moves)[v.number]? = some v.question
  closed : ∀ v ∈ visits.dropLast, v.hold ≠ .standing
  shown : ∀ k, h.state.Shown k ↔ ∃ v ∈ visits.getLast?, v.hold = .standing ∧ v.number = k

theorem getElem?_questions_append {i : Nat} {q : Question} (hq : (questions moves)[i]? = some q) :
    (questions (moves ++ [m]))[i]? = some q := by
  have hlt := (List.getElem?_eq_some_iff.mp hq).1
  rw [questions, List.filterMap_append, ← questions, List.getElem?_append_left hlt]
  exact hq

theorem extend_calls_of_caller (hm : m.caller? = some n) :
    (machine.extend h m p).calls = h.calls ++ p.calls.map (n, ·) := by
  rw [Machine.extend, machine.number_of_caller? hm]

namespace Visits

variable {visits : List Visit}

theorem mem_moves (hvisits : Visits moves h visits) (v : Visit) (hv : v ∈ visits) :
    .mount v.number v.found ∈ moves := by
  rw [← mem_mounts_iff, ← hvisits.mounts]
  exact List.mem_map_of_mem hv

theorem mem_own (hvisits : Visits moves h visits) (v : Visit) (hv : v ∈ visits) :
    .mount v.number v.found ∈ own v.number moves :=
  mem_own_iff.mpr ⟨hvisits.mem_moves v hv, rfl⟩

theorem eq_of_number (hvisits : Visits moves h visits) {v w : Visit} (hv : v ∈ visits)
    (hw : w ∈ visits) (hnumber : v.number = w.number) : v = w :=
  List.inj_on_of_nodup_map hvisits.distinct hv hw hnumber

theorem closed_of_not_shown (hvisits : Visits moves h visits) (hfree : ∀ k, ¬h.state.Shown k)
    (v : Visit) (hv : v ∈ visits) : v.hold ≠ .standing := by
  obtain rfl | ⟨earlier, last, rfl⟩ := List.eq_nil_or_concat' visits
  · cases hv
  · rw [List.mem_append, List.mem_singleton] at hv
    rcases hv with hv | rfl
    · exact hvisits.closed v (by simpa using hv)
    · intro hstanding
      exact hfree v.number ((hvisits.shown v.number).mpr ⟨v, by simp, hstanding, rfl⟩)

theorem initial : Visits [] ⟨.initial, [], []⟩ [] where
  calls := rfl
  mounts := rfl
  distinct := List.nodup_nil
  question _ hv := absurd hv List.not_mem_nil
  closed _ hv := absurd hv List.not_mem_nil
  shown k := by simp [State.not_shown_of_none (s := .initial) (n := k) rfl]

private theorem quiet (hvisits : Visits moves h visits) (hvisit : m.visit? = none)
    (hcalls : p.calls = []) (hshown : ∀ k, p.state.Shown k ↔ h.state.Shown k) :
    Visits (moves ++ [m]) (machine.extend h m p) visits where
  calls := by
    rw [Machine.extend, hcalls, List.map_nil, List.append_nil]
    exact hvisits.calls
  mounts := by
    simpa [hvisit] using hvisits.mounts
  distinct := hvisits.distinct
  question v hv := getElem?_questions_append (hvisits.question v hv)
  closed := hvisits.closed
  shown k := (hshown k).trans (hvisits.shown k)

private theorem mount (hvisits : Visits moves h visits) (htracks : Tracks moves h) {c : Call}
    {found : Bool} (hc : h.state.call? c.number = some c) (hstage : c.stage = .queued)
    (hfree : ∀ k, ¬h.state.Shown k)
    (hcalls : p.calls = setup c found)
    (hshown : ∀ k, p.state.Shown k ↔ found = true ∧ k = c.number) :
    Visits (moves ++ [.mount c.number found]) (machine.extend h (.mount c.number found) p)
      (visits ++ [⟨c.number, c.question, if found then .standing else .unfound⟩]) where
  calls := by
    rw [extend_calls_of_caller (n := c.number) rfl, hvisits.calls, hcalls, ← Visit.trace_of_setup,
      List.flatMap_append, List.flatMap_singleton]
  mounts := by
    rw [mounts_append, ← hvisits.mounts, List.map_append]
    cases found <;> rfl
  distinct := by
    rw [List.map_append, List.map_singleton, List.nodup_append]
    refine ⟨hvisits.distinct, List.nodup_singleton _, ?_⟩
    rintro a ha b hb rfl
    obtain rfl := List.mem_singleton.mp hb
    obtain ⟨v, hv, hnumber⟩ := List.mem_map.mp ha
    -- a call that waits for the view has not mounted anything before
    have hlife := ((htracks.call c.number).pending c hc).2
    have hmounted := hvisits.mem_own v hv
    rw [hstage] at hlife
    rw [hnumber, hlife.eq_of_queued] at hmounted
    simp at hmounted
  question v hv := by
    rw [List.mem_append, List.mem_singleton] at hv
    rcases hv with hv | rfl
    · exact getElem?_questions_append (hvisits.question v hv)
    · exact getElem?_questions_append ((htracks.call c.number).pending c hc).1
  closed v hv := by
    rw [List.dropLast_concat] at hv
    exact hvisits.closed_of_not_shown hfree v hv
  shown k := by
    refine (hshown k).trans ?_
    cases found <;> simp [eq_comm]

private theorem close (hvisits : Visits moves h visits) {d : Option Decision}
    (hvisit : m.visit? = none) (hm : m.caller? = some n) (hopen : h.state.Shown n)
    (hcalls : p.calls = (d.map (.decided n)).toList ++ teardown n)
    (hshown : ∀ k, p.state.Shown k ↔ h.state.Shown k ∧ k ≠ n) :
    ∃ visits', Visits (moves ++ [m]) (machine.extend h m p) visits' := by
  obtain ⟨v, hv, hstanding, rfl⟩ := (hvisits.shown n).mp hopen
  obtain ⟨earlier, rfl⟩ := List.getLast?_eq_some_iff.mp hv
  refine ⟨earlier ++ [{ v with hold := .closed d }], ?_, ?_, ?_, ?_, ?_, ?_⟩
  · rw [extend_calls_of_caller hm, hvisits.calls, hcalls]
    simp [Visit.trace_closed hstanding]
  · rw [mounts_append, hvisit, ← hvisits.mounts]
    simp [Visit.found, hstanding]
  · simpa using hvisits.distinct
  · intro w hw
    rw [List.mem_append, List.mem_singleton] at hw
    rcases hw with hw | rfl
    · exact getElem?_questions_append (hvisits.question w (List.mem_append_left _ hw))
    · exact getElem?_questions_append (hvisits.question v (by simp))
  · intro w hw
    rw [List.dropLast_concat] at hw
    exact hvisits.closed w (by simpa using hw)
  · intro k
    refine (hshown k).trans ?_
    simp [hvisits.shown, hstanding, eq_comm]

/-- One more move adds a block, completes the last one, or leaves the blocks as they are. -/
theorem extend (hvisits : Visits moves h visits) (htracks : Tracks moves h)
    (hviews : Views h.state m p) :
    ∃ visits', Visits (moves ++ [m]) (machine.extend h m p) visits' := by
  cases hviews with
  | quiet hvisit hcalls hshown => exact ⟨visits, hvisits.quiet hvisit hcalls hshown⟩
  | mount c found hm hc hstage hfree hcalls hshown =>
    subst hm
    exact ⟨_, hvisits.mount htracks hc hstage hfree hcalls hshown⟩
  | close n d hvisit hm hopen hcalls hshown =>
    exact hvisits.close hvisit hm hopen hcalls hshown

end Visits

theorem visits_run (hrun : run .initial moves = some h) : ∃ visits, Visits moves h visits := by
  refine run_induction (motive := fun moves h ↦ ∃ visits, Visits moves h visits)
    ⟨[], Visits.initial⟩ ?_ hrun
  rintro moves h m p hrun ⟨visits, hvisits⟩ hsteps
  have htracks := tracks_run hrun
  exact hvisits.extend htracks (hsteps.views htracks.call?_nextNumber)

/-! ## The modals that exist -/

/-- The modals that exist after one more call of the view. A modal that is mounted exists if the
view finds it, and until it is destroyed. -/
def existingAfter (moves : List Move) (modals : List Nat) : ModalCall → List Nat
  | .mount n _ => if .mount n true ∈ moves then n :: modals else modals
  | .destroy n => modals.erase n
  | _ => modals

/-- The modals that exist after calls of the view, where there were none. -/
def existing (moves : List Move) (calls : List (Nat × ModalCall)) : List Nat :=
  calls.foldl (fun modals call ↦ existingAfter moves modals call.2) []

/-- Where there are some modals at first, the calls lead to no more than one at any time, and mount
one only when there is none. -/
def KeepsToOne (moves : List Move) : List Nat → List (Nat × ModalCall) → Prop
  | modals, [] => modals.length ≤ 1
  | modals, call :: calls => modals.length ≤ 1 ∧ (∀ n html, call.2 = .mount n html → modals = []) ∧
      KeepsToOne moves (existingAfter moves modals call.2) calls

theorem KeepsToOne.length_le {modals : List Nat} {calls : List (Nat × ModalCall)}
    (hone : KeepsToOne moves modals calls) : modals.length ≤ 1 := by
  cases calls with
  | nil => exact hone
  | cons call calls => exact hone.1

theorem keepsToOne_append {modals : List Nat} {calls calls' : List (Nat × ModalCall)} :
    KeepsToOne moves modals (calls ++ calls') ↔ KeepsToOne moves modals calls ∧
      KeepsToOne moves
        (calls.foldl (fun modals call ↦ existingAfter moves modals call.2) modals) calls' := by
  induction calls generalizing modals with
  | nil =>
    rw [List.nil_append, List.foldl_nil]
    exact ⟨fun hone ↦ ⟨hone.length_le, hone⟩, And.right⟩
  | cons call calls ih => simp [KeepsToOne, ih, and_assoc]

/-- At every moment there is at most one modal. -/
theorem KeepsToOne.existing_length_le {calls before : List (Nat × ModalCall)}
    (hone : KeepsToOne moves [] calls) (hbefore : before <+: calls) :
    (existing moves before).length ≤ 1 := by
  obtain ⟨after, rfl⟩ := hbefore
  exact (keepsToOne_append.mp hone).2.length_le

theorem KeepsToOne.existing_eq_nil {calls before : List (Nat × ModalCall)} {html : String}
    (hone : KeepsToOne moves [] calls) (hbefore : before ++ [(n, .mount k html)] <+: calls) :
    existing moves before = [] := by
  obtain ⟨after, rfl⟩ := hbefore
  rw [List.append_assoc] at hone
  exact (keepsToOne_append.mp hone).2.2.1 k html rfl

namespace Visit

theorem keepsToOne (v : Visit) (hfound : .mount v.number true ∈ moves ↔ v.found = true) :
    KeepsToOne moves [] v.trace ∧ (v.hold ≠ .standing → existing moves v.trace = []) := by
  obtain ⟨number, question, hold⟩ := v
  cases hold with
  | unfound =>
    have hmount : .mount number true ∉ moves := by simpa [found] using hfound
    simp [trace, calls, existing, KeepsToOne, existingAfter, hmount]
  | standing =>
    have hmount : .mount number true ∈ moves := by simpa [found] using hfound
    simp [trace, calls, KeepsToOne, existingAfter, hmount]
  | closed d =>
    have hmount : .mount number true ∈ moves := by simpa [found] using hfound
    cases d <;> simp [trace, calls, existing, KeepsToOne, existingAfter, hmount]

theorem keepsToOne_flatMap {visits : List Visit}
    (hfound : ∀ v ∈ visits, .mount v.number true ∈ moves ↔ v.found = true)
    (hclosed : ∀ v ∈ visits.dropLast, v.hold ≠ .standing) :
    KeepsToOne moves [] (visits.flatMap trace) := by
  induction visits with
  | nil => exact Nat.zero_le 1
  | cons v rest ih =>
    obtain ⟨hone, hnone⟩ := v.keepsToOne (hfound v List.mem_cons_self)
    rw [List.flatMap_cons]
    cases rest with
    | nil => simpa using hone
    | cons w rest =>
      rw [List.dropLast_cons_cons, List.forall_mem_cons] at hclosed
      have hrest := ih (fun w hw ↦ hfound w (List.mem_cons_of_mem v hw)) hclosed.2
      refine keepsToOne_append.mpr ⟨hone, ?_⟩
      rw [← existing, hnone hclosed.1]
      exact hrest

end Visit

/-! ## The discipline -/

/-- What a run of the prompt tells the view, given the calls that got hold of it. -/
structure Disciplined (moves : List Move) (h : History) (visits : List Visit) : Prop where
  /-- The view sees a concatenation of blocks, one for each call that got hold of it. -/
  calls : h.calls = visits.flatMap Visit.trace
  /-- The blocks are those of the modals that were mounted, in their order, and a modal is opened if
  the view found it, and not otherwise. -/
  mounts : visits.map (fun v ↦ (v.number, v.found)) = mounts moves
  /-- The number is that of the call with which the question came. -/
  question : ∀ v ∈ visits, (questions moves)[v.number]? = some v.question
  /-- No identifier is mounted twice. -/
  distinct : (visits.map fun v ↦ Page.Modal.identifier v.number).Nodup
  /-- Only the last block can be incomplete. -/
  closed : ∀ v ∈ visits.dropLast, v.hold ≠ .standing
  /-- A modal stands as long as its call is pending with the modal open. -/
  standing : ∀ v ∈ visits, v.hold = .standing ↔ h.state.Shown v.number
  /-- No modal stands of a call that has ended or has been dropped. -/
  ended : ∀ v ∈ visits, .finish v.number ∈ moves ∨ .drop v.number ∈ moves → v.hold ≠ .standing
  /-- At most one modal exists at any time. -/
  alone : ∀ before, before <+: h.calls → (existing moves before).length ≤ 1
  /-- A modal is mounted after all that were mounted before have been destroyed. -/
  clear : ∀ before n k html, before ++ [(n, .mount k html)] <+: h.calls → existing moves before = []

theorem identifier_injective : Function.Injective Page.Modal.identifier := by
  intro m n hidentifier
  have hnumeral : m.repr = n.repr := (String.append_right_inj _).mp hidentifier
  have hdigits : Nat.toDigits 10 m = Nat.toDigits 10 n := by
    simpa using congrArg String.toList hnumeral
  simpa using congrArg (Nat.ofDigitChars 10 · 0) hdigits

theorem Tracks.not_ended_of_shown (htracks : Tracks moves h) (hshown : h.state.Shown n) :
    ¬(.finish n ∈ moves ∨ .drop n ∈ moves) := by
  obtain ⟨c, hc, -⟩ := hshown
  have hlife := ((htracks.call n).pending c hc).2
  rintro (hfinish | hdrop)
  · exact hlife.not_mem_finish (mem_own_iff.mpr ⟨hfinish, rfl⟩)
  · exact hlife.not_mem_drop (mem_own_iff.mpr ⟨hdrop, rfl⟩)

namespace Visits

variable {visits : List Visit}

theorem standing_iff (hvisits : Visits moves h visits) {v : Visit} (hv : v ∈ visits) :
    v.hold = .standing ↔ h.state.Shown v.number := by
  rw [hvisits.shown]
  constructor
  · intro hstanding
    obtain rfl | ⟨earlier, last, rfl⟩ := List.eq_nil_or_concat' visits
    · cases hv
    · rcases List.mem_append.mp hv with hearlier | hlast
      · exact absurd hstanding (hvisits.closed v (by simpa using hearlier))
      · obtain rfl := List.mem_singleton.mp hlast
        exact ⟨v, by simp, hstanding, rfl⟩
  · rintro ⟨w, hw, hstanding, hnumber⟩
    obtain rfl := hvisits.eq_of_number (List.mem_of_getLast? hw) hv hnumber
    exact hstanding

theorem mount_mem_iff (hvisits : Visits moves h visits) {v : Visit} (hv : v ∈ visits) :
    .mount v.number true ∈ moves ↔ v.found = true := by
  constructor
  · intro hmount
    rw [← mem_mounts_iff, ← hvisits.mounts, List.mem_map] at hmount
    obtain ⟨w, hw, heq⟩ := hmount
    obtain ⟨hnumber, hfound⟩ := Prod.mk.inj heq
    obtain rfl := hvisits.eq_of_number hw hv hnumber
    exact hfound
  · intro hfound
    have hmount := hvisits.mem_moves v hv
    rwa [hfound] at hmount

theorem disciplined (hvisits : Visits moves h visits) (htracks : Tracks moves h) :
    Disciplined moves h visits := by
  have hone : KeepsToOne moves [] h.calls := by
    rw [hvisits.calls]
    exact Visit.keepsToOne_flatMap (fun v hv ↦ hvisits.mount_mem_iff hv) hvisits.closed
  constructor
  · exact hvisits.calls
  · exact hvisits.mounts
  · exact hvisits.question
  · have hidentifiers := hvisits.distinct.map identifier_injective
    rwa [List.map_map] at hidentifiers
  · exact hvisits.closed
  · intro v hv
    exact hvisits.standing_iff hv
  · intro v hv hended hstanding
    exact htracks.not_ended_of_shown ((hvisits.standing_iff hv).mp hstanding) hended
  · intro before hbefore
    exact hone.existing_length_le hbefore
  · intro before n k html hbefore
    exact hone.existing_eq_nil hbefore

end Visits

/-- **One modal at a time**: whatever calls do, and whenever they are dropped, the view sees one
complete block after the other, and perhaps one that goes on. -/
theorem run_disciplined (hrun : run .initial moves = some h) :
    ∃ visits, Disciplined moves h visits := by
  obtain ⟨visits, hvisits⟩ := visits_run hrun
  exact ⟨visits, hvisits.disciplined (tracks_run hrun)⟩

/-- A call that is superseded with its modal open yields to the next one, which is dropped. -/
theorem run_disciplined_superseded :
    ∃ moves h visits, run .initial moves = some h ∧ mounts moves = [(0, true), (1, true)] ∧
      Disciplined moves h visits := by
  have hrun : run .initial [.start ⟨"a", "b", "c"⟩, .register 0, .start ⟨"d", "e", "f"⟩,
      .mount 0 true, .register 1, .yield 0, .mount 1 true, .finish 0, .drop 1] = some _ := rfl
  obtain ⟨visits, hvisits⟩ := run_disciplined hrun
  exact ⟨_, _, visits, hrun, rfl, hvisits⟩

end PasskeyCeremony.Confirmation
