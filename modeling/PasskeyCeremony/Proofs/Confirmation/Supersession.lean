import PasskeyCeremony.Proofs.Confirmation.Visits

/-!
# Supersession, and the answers of the confirmation prompt

The active slot belongs to the call that registered last. A call that registers takes the slot over
and cancels the call that it finds there, so every registered call but the newest has been
cancelled; a call that ends leaves the slot only if it is still its own. `Slot` says so of every
state of every run, also when calls were dropped with the slot in their hands.

The answers need no invariant of their own. A call that ends with an answer has lived one of the
lives of `Life`, and its answer can be read off the list.
-/

namespace PasskeyCeremony.Confirmation

variable {s : State} {n k : Nat} {moves : List Move} {h : History} {m : Move} {p : Progress}

/-! ## The active slot -/

def Move.registered? : Move → Option Nat
  | .register n => some n
  | _ => none

def registered (moves : List Move) : List Nat := moves.filterMap Move.registered?

theorem mem_registered_iff : n ∈ registered moves ↔ .register n ∈ moves := by
  rw [registered, List.mem_filterMap]
  constructor
  · rintro ⟨m, hm, hregistered⟩
    cases m with
    | register k =>
      obtain rfl := Option.some.inj hregistered
      exact hm
    | _ => cases hregistered
  · intro hm
    exact ⟨_, hm, rfl⟩

@[simp] theorem registered_append :
    registered (moves ++ [m]) = registered moves ++ m.registered?.toList := by
  rw [registered, List.filterMap_append]
  rfl

theorem registered_append_of_none (hm : m.registered? = none) :
    registered (moves ++ [m]) = registered moves := by
  simp [hm]

/-- Who holds the active slot, and who has been cancelled. -/
structure Slot (moves : List Move) (s : State) : Prop where
  /-- The slot is held by the call that registered last. -/
  last : ∀ n, s.active = some n → (registered moves).getLast? = some n
  /-- The call that holds the slot is pending, if it has not been dropped. -/
  pending : ∀ n, s.active = some n → s.call? n ≠ none ∨ .drop n ∈ moves
  /-- As long as the call that registered last is pending, it holds the slot. -/
  active : ∀ n, s.call? n ≠ none → (registered moves).getLast? = some n → s.active = some n
  /-- The calls that registered before it have been cancelled, and no others. -/
  cancelled : ∀ n c, s.call? n = some c →
    (c.cancelled = true ↔ n ∈ registered moves ∧ (registered moves).getLast? ≠ some n)

theorem slot_initial : Slot [] .initial where
  last _ hactive := by cases hactive
  pending _ hactive := by cases hactive
  active _ hpending := absurd rfl hpending
  cancelled _ _ hc := by cases hc

namespace Slot

/-- A move with which nobody registers keeps the slot in order if it hands the slot to nobody, takes
it from nobody who is pending, and cancels nobody. -/
private theorem of_unregistered {s' : State} (hslot : Slot moves s) (hm : m.registered? = none)
    (hactive : ∀ k, s'.active = some k →
      s.active = some k ∧ (s.call? k ≠ none → s'.call? k ≠ none ∨ m = .drop k))
    (hcall : ∀ k c', s'.call? k = some c' → (s.active = some k → s'.active = some k) ∧
      ((∃ c, s.call? k = some c ∧ c'.cancelled = c.cancelled) ∨
        (c'.cancelled = false ∧ k ∉ registered moves))) :
    Slot (moves ++ [m]) s' := by
  have hregistered : registered (moves ++ [m]) = registered moves := registered_append_of_none hm
  constructor
  · intro k hk
    rw [hregistered]
    exact hslot.last k (hactive k hk).1
  · intro k hk
    obtain ⟨hbefore, hkept⟩ := hactive k hk
    rcases hslot.pending k hbefore with hpending | hdropped
    · refine (hkept hpending).imp_right fun hdrop ↦ ?_
      rw [hdrop]
      exact List.mem_append_right _ List.mem_cons_self
    · exact Or.inr (List.mem_append_left _ hdropped)
  · intro k hpending hlast
    rw [hregistered] at hlast
    obtain ⟨c', hc'⟩ := Option.ne_none_iff_exists'.mp hpending
    obtain ⟨hkept, ⟨c, hc, -⟩ | ⟨-, hunregistered⟩⟩ := hcall k c' hc'
    · exact hkept (hslot.active k (by rw [hc]; nofun) hlast)
    · exact absurd (List.mem_of_getLast? hlast) hunregistered
  · intro k c' hc'
    rw [hregistered]
    obtain ⟨-, ⟨c, hc, hsame⟩ | ⟨hfresh, hunregistered⟩⟩ := hcall k c' hc'
    · rw [hsame]
      exact hslot.cancelled k c hc
    · simp [hfresh, hunregistered]

private theorem register (hslot : Slot moves s) {c : Call} (hc : s.call? c.number = some c)
    (hunregistered : c.number ∉ registered moves) :
    Slot (moves ++ [.register c.number])
      ⟨(s.remove c.number).cancelActive.nextNumber, some c.number,
        (s.remove c.number).cancelActive.calls ++ [{ c with stage := .queued }]⟩ := by
  have hregistered : registered (moves ++ [.register c.number]) = registered moves ++ [c.number] :=
    registered_append
  have hlast : (registered (moves ++ [.register c.number])).getLast? = some c.number := by
    rw [hregistered, List.getLast?_concat]
  constructor
  · intro k hactive
    obtain rfl := Option.some.inj hactive
    exact hlast
  · intro k hactive
    obtain rfl := Option.some.inj hactive
    rw [call?_register, if_pos rfl]
    exact Or.inl nofun
  · intro k _ hk
    exact hlast.symm.trans hk
  · intro k c' hc'
    rw [hlast, hregistered]
    rw [call?_register] at hc'
    split at hc'
    · rename_i hk
      subst hk
      obtain rfl := Option.some.inj hc'
      have hfresh := hslot.cancelled _ c hc
      simp [hfresh, hunregistered]
    · rename_i hk
      obtain ⟨c'', hc'', rfl⟩ := Option.map_eq_some_iff.mp hc'
      have hpending : s.call? k ≠ none := by
        rw [hc'']
        nofun
      have hbefore := hslot.cancelled k c'' hc''
      by_cases hactive : s.active = some k
      · have hmem := List.mem_of_getLast? (hslot.last k hactive)
        simp [hactive, hmem, Ne.symm hk]
      · have hnotlast : (registered moves).getLast? ≠ some k := fun hk ↦
          hactive (hslot.active k hpending hk)
        simp [hactive, hbefore, hnotlast, hk, Ne.symm hk]

private theorem finish (hslot : Slot moves s) :
    Slot (moves ++ [.finish n]) ((s.remove n).clearSlot n) := by
  have hcall : ∀ k, ((s.remove n).clearSlot n).call? k = if k = n then none else s.call? k := by
    simp
  refine hslot.of_unregistered rfl ?_ ?_
  · intro k hactive
    rw [State.active_clearSlot] at hactive
    split at hactive
    · cases hactive
    · rename_i hn
      refine ⟨hactive, fun hpending ↦ Or.inl ?_⟩
      rw [hcall, if_neg]
      · exact hpending
      · rintro rfl
        exact hn hactive
  · intro k c hc
    rw [hcall] at hc
    split at hc
    · cases hc
    · rename_i hk
      refine ⟨fun hactive ↦ ?_, Or.inl ⟨c, hc, rfl⟩⟩
      rw [State.active_clearSlot, if_neg]
      · exact hactive
      · intro hn
        exact hk (Option.some.inj (hactive.symm.trans hn))

theorem extend (hslot : Slot moves h.state) (htracks : Tracks moves h)
    (hsteps : Steps h.state m p) : Slot (moves ++ [m]) p.state := by
  have hunregistered : ∀ k, .register k ∉ own k moves → k ∉ registered moves := by
    intro k hown hk
    exact hown (mem_own_iff.mpr ⟨mem_registered_iff.mp hk, rfl⟩)
  cases hsteps with
  | start q =>
    have hcall := fun k ↦ call?_start (k := k) q htracks.call?_nextNumber
    refine hslot.of_unregistered rfl (fun k hactive ↦ ⟨hactive, fun hpending ↦ Or.inl ?_⟩) ?_
    · rw [hcall]
      split
      · nofun
      · exact hpending
    · intro k c hc
      refine ⟨id, ?_⟩
      rw [hcall] at hc
      split at hc
      · rename_i hk
        subst hk
        obtain rfl := Option.some.inj hc
        refine Or.inr ⟨rfl, hunregistered _ ?_⟩
        rw [(htracks.call _).unborn (Nat.le_refl _)]
        exact List.not_mem_nil
      · exact Or.inl ⟨c, hc, rfl⟩
  | @register c hc hstage =>
    refine hslot.register hc (hunregistered _ fun hmem ↦ ?_)
    have hlife := ((htracks.call _).pending _ hc).2
    rw [hstage] at hlife
    rw [hlife.eq_of_numbered] at hmem
    cases hmem
  | @advance c _ stage _ hc hadvances =>
    have hregistered : m.registered? = none := by
      cases hadvances <;> rfl
    refine hslot.of_unregistered hregistered
      (fun k hactive ↦ ⟨hactive, fun hpending ↦ Or.inl ?_⟩) ?_
    · simpa using hpending
    · intro k c' hc'
      rw [State.call?_advance] at hc'
      obtain ⟨c, hc, rfl⟩ := Option.map_eq_some_iff.mp hc'
      refine ⟨id, Or.inl ⟨c, hc, ?_⟩⟩
      split <;> rfl
  | finish hc hstage => exact hslot.finish
  | @drop c hc =>
    refine hslot.of_unregistered rfl (fun k hactive ↦ ⟨hactive, fun hpending ↦ ?_⟩) ?_
    · rw [State.call?_remove]
      by_cases hk : k = c.number
      · exact Or.inr (by rw [hk])
      · rw [if_neg hk]
        exact Or.inl hpending
    · intro k c' hc'
      rw [State.call?_remove] at hc'
      split at hc'
      · cases hc'
      · exact ⟨id, Or.inl ⟨c', hc', rfl⟩⟩

end Slot

theorem slot_run (hrun : run .initial moves = some h) : Slot moves h.state := by
  refine run_induction (motive := fun moves h ↦ Slot moves h.state) slot_initial ?_ hrun
  intro moves h m p hrun hslot hsteps
  exact hslot.extend (tracks_run hrun) hsteps

/-- A call is cancelled only by one that registers after it. -/
theorem Slot.cancelled_by (hslot : Slot moves s) (hslot' : Slot (moves ++ [m]) p.state)
    {c c' : Call} (hc : s.call? n = some c) (hc' : p.state.call? n = some c')
    (hbefore : c.cancelled = false) (hafter : c'.cancelled = true) :
    ∃ k, k ≠ n ∧ m = .register k ∧ n ∈ registered moves := by
  have hnot : ¬(n ∈ registered moves ∧ (registered moves).getLast? ≠ some n) := by
    rw [← hslot.cancelled n c hc, hbefore]
    exact Bool.false_ne_true
  obtain ⟨hmem, hlast⟩ := (hslot'.cancelled n c' hc').mp hafter
  rw [registered_append] at hmem hlast
  cases m with
  | register k =>
    have hk : k ≠ n := by
      rintro rfl
      exact hlast (by simp [Move.registered?])
    refine ⟨k, hk, rfl, ?_⟩
    simpa [Move.registered?, hk.symm] using hmem
  | _ =>
    simp only [Move.registered?, Option.toList_none, List.append_nil] at hmem hlast
    exact absurd ⟨hmem, hlast⟩ hnot

/-! ## Answers -/

/-- The call that comes to its answer with a move, and the answer. -/
def Move.settles? : Move → Option (Nat × Bool)
  | .mount n false | .giveUp n | .yield n => some (n, false)
  | .decide n d => some (n, d = .confirm)
  | _ => none

theorem Move.caller?_of_settles? {answer : Bool} (hm : m.settles? = some (n, answer)) :
    m.caller? = some n := by
  unfold settles? at hm
  split at hm <;> simp_all [caller?]

theorem Life.stage_of_settles? {l : List Move} {stage : Stage} {answer : Bool}
    (hlife : Life n l stage) (hmem : m ∈ l) (hm : m.settles? = some (n, answer)) :
    stage = .leaving answer := by
  revert m
  cases hlife <;> simp [Move.settles?]

theorem Life.answer_iff {l : List Move} {answer : Bool} (hlife : Life n l (.leaving answer)) :
    answer = true ↔ .mount n true ∈ l ∧ .decide n .confirm ∈ l := by
  cases hlife <;> simp [eq_comm]

theorem Life.not_mem_mount_of_giveUp {l : List Move} {stage : Stage} {found : Bool}
    (hlife : Life n l stage) (hgaveUp : .giveUp n ∈ l) : .mount n found ∉ l := by
  cases hlife <;> simp at hgaveUp ⊢

theorem Steps.mem_decided_iff (hsteps : Steps s m p) {d : Decision} :
    .decided k d ∈ p.calls ↔ m = .decide k d := by
  cases hsteps with
  | start q => simp
  | register hc hstage => simp
  | advance hc hadvances =>
    cases hadvances with
    | mount found hstage hfree => cases found <;> simp [setup]
    | giveUp hstage hcancelled => simp
    | decide d hstage => simp [teardown, eq_comm]
    | yield hstage hcancelled => simp [teardown]
  | finish hc hstage => simp
  | @drop c hc => by_cases hstage : c.stage = .shown <;> simp [hstage, teardown]

theorem mem_decided_run (hrun : run .initial moves = some h) {d : Decision} :
    (n, .decided k d) ∈ h.calls ↔ n = k ∧ .decide k d ∈ moves := by
  refine run_induction
    (motive := fun moves h ↦ (n, .decided k d) ∈ h.calls ↔ n = k ∧ .decide k d ∈ moves) ?_ ?_ hrun
  · simp
  · intro moves h m p _ ih hsteps
    rw [Machine.mem_calls_extend, ih, hsteps.mem_decided_iff, List.mem_append, List.mem_singleton]
    constructor
    · rintro (⟨rfl, hmem⟩ | ⟨rfl, rfl⟩)
      · exact ⟨rfl, Or.inl hmem⟩
      · exact ⟨rfl, Or.inr rfl⟩
    · rintro ⟨rfl, hmem | rfl⟩
      · exact Or.inl ⟨rfl, hmem⟩
      · exact Or.inr ⟨rfl, rfl⟩

/-- A call comes to an answer: it is about to leave with it, or has ended with it, if it has not
been dropped. -/
def ComesTo (moves : List Move) (h : History) (n : Nat) (answer : Bool) : Prop :=
  (∃ c, h.state.call? n = some c ∧ c.stage = .leaving answer) ∨ (n, answer) ∈ h.results ∨
    .drop n ∈ moves

namespace Tracks

theorem lt_nextNumber (htracks : Tracks moves h) (hmem : m ∈ own n moves) :
    n < h.state.nextNumber := by
  by_contra hge
  rw [(htracks.call n).unborn (Nat.le_of_not_lt hge)] at hmem
  cases hmem

/-- The moves of a call, up to its end. -/
theorem exists_life (htracks : Tracks moves h) (hmem : m ∈ own n moves) :
    ∃ l stage, Life n l stage ∧
      (own n moves = l ∨ own n moves = l ++ [.finish n] ∨ own n moves = l ++ [.drop n]) := by
  rcases (htracks.call n).whole (htracks.lt_nextNumber hmem) with
    ⟨c, hc⟩ | ⟨answer, hanswer⟩ | ⟨l, stage, hlife, hown⟩
  · exact ⟨_, _, ((htracks.call n).pending c hc).2, Or.inl rfl⟩
  · obtain ⟨l, hlife, hown⟩ := (htracks.call n).answered answer hanswer
    exact ⟨l, _, hlife, Or.inr (Or.inl hown)⟩
  · exact ⟨l, stage, hlife, Or.inr (Or.inr hown)⟩

theorem finish_mem_iff (htracks : Tracks moves h) :
    .finish n ∈ moves ↔ ∃ answer, (n, answer) ∈ h.results := by
  constructor
  · intro hfinish
    have hmem : .finish n ∈ own n moves := mem_own_iff.mpr ⟨hfinish, rfl⟩
    rcases (htracks.call n).whole (htracks.lt_nextNumber hmem) with
      ⟨c, hc⟩ | hanswer | ⟨l, stage, hlife, hown⟩
    · exact absurd hmem ((htracks.call n).pending c hc).2.not_mem_finish
    · exact hanswer
    · rw [hown, List.mem_append] at hmem
      rcases hmem with hmem | hmem
      · exact absurd hmem hlife.not_mem_finish
      · cases List.mem_singleton.mp hmem
  · rintro ⟨answer, hanswer⟩
    obtain ⟨l, -, hown⟩ := (htracks.call n).answered answer hanswer
    have hmem : .finish n ∈ own n moves := by
      rw [hown]
      exact List.mem_append_right _ List.mem_cons_self
    exact (mem_own_iff.mp hmem).1

theorem answer_iff (htracks : Tracks moves h) {answer : Bool} (hanswer : (n, answer) ∈ h.results) :
    answer = true ↔ .mount n true ∈ moves ∧ .decide n .confirm ∈ moves := by
  obtain ⟨l, hlife, hown⟩ := (htracks.call n).answered answer hanswer
  have hmem : ∀ m : Move, m.caller? = some n → m ≠ .finish n → (m ∈ l ↔ m ∈ moves) := by
    intro m hm hfinish
    have hmoves : m ∈ own n moves ↔ m ∈ moves ∧ m.caller? = some n := mem_own_iff
    rw [hown, List.mem_append, List.mem_singleton] at hmoves
    simpa [hm, hfinish] using hmoves
  rw [hlife.answer_iff, hmem (.mount n true) rfl nofun, hmem (.decide n .confirm) rfl nofun]

theorem comesTo (htracks : Tracks moves h) {answer : Bool} (hmem : m ∈ moves)
    (hm : m.settles? = some (n, answer)) : ComesTo moves h n answer := by
  have hown : m ∈ own n moves := mem_own_iff.mpr ⟨hmem, Move.caller?_of_settles? hm⟩
  rcases (htracks.call n).whole (htracks.lt_nextNumber hown) with
    ⟨c, hc⟩ | ⟨answer', hanswer⟩ | ⟨l, stage, -, hdropped⟩
  · exact Or.inl ⟨c, hc, ((htracks.call n).pending c hc).2.stage_of_settles? hown hm⟩
  · obtain ⟨l, hlife, hl⟩ := (htracks.call n).answered answer' hanswer
    rw [hl, List.mem_append, List.mem_singleton] at hown
    rcases hown with hown | rfl
    · obtain rfl := Stage.leaving.inj (hlife.stage_of_settles? hown hm)
      exact Or.inr (Or.inl hanswer)
    · cases hm
  · have hdrop : .drop n ∈ own n moves := by
      rw [hdropped]
      exact List.mem_append_right _ List.mem_cons_self
    exact Or.inr (Or.inr (mem_own_iff.mp hdrop).1)

theorem not_mem_mount_of_giveUp (htracks : Tracks moves h) (hgaveUp : .giveUp n ∈ moves)
    (found : Bool) : .mount n found ∉ moves := by
  intro hmount
  have hgaveUp' : .giveUp n ∈ own n moves := mem_own_iff.mpr ⟨hgaveUp, rfl⟩
  have hmount' : .mount n found ∈ own n moves := mem_own_iff.mpr ⟨hmount, rfl⟩
  obtain ⟨l, stage, hlife, hown | hown | hown⟩ := htracks.exists_life hgaveUp'
  all_goals
    rw [hown] at hgaveUp' hmount'
    exact hlife.not_mem_mount_of_giveUp (by simpa using hgaveUp') (by simpa using hmount')

end Tracks

theorem exists_mount_of_mem_calls (hrun : run .initial moves = some h) {call : ModalCall}
    (hcall : (n, call) ∈ h.calls) : ∃ found, .mount n found ∈ moves := by
  obtain ⟨visits, hvisits⟩ := visits_run hrun
  rw [hvisits.calls, List.mem_flatMap] at hcall
  obtain ⟨v, hv, hmem⟩ := hcall
  obtain ⟨_, -, heq⟩ := List.mem_map.mp hmem
  obtain ⟨rfl, -⟩ := Prod.mk.inj heq
  exact ⟨v.found, hvisits.mem_moves v hv⟩

/-! ## What calls do to each other, and what they answer -/

/-- What holds after any number of moves of a prompt: how calls supersede each other, and how they
answer. -/
structure Superseding (moves : List Move) (h : History) : Prop where
  /-- Of the pending calls, those have been cancelled that registered and are not the last to have
  done so. -/
  cancelled_iff : ∀ n c, h.state.call? n = some c →
    (c.cancelled = true ↔ n ∈ registered moves ∧ (registered moves).getLast? ≠ some n)
  /-- A call is cancelled only when another one registers after it. -/
  cancelled_by : ∀ m p n c c', step h.state m = some p → h.state.call? n = some c →
    p.state.call? n = some c' → c.cancelled = false → c'.cancelled = true →
    ∃ k, k ≠ n ∧ m = .register k ∧ n ∈ registered moves
  /-- Whatever else a call does, it neither changes another one nor takes the slot from it. -/
  undisturbed : ∀ m p n k, step h.state m = some p → m.caller? = some k → m ≠ .register k → n ≠ k →
    p.state.call? n = h.state.call? n ∧ (h.state.active = some n → p.state.active = some n)
  /-- A call has ended if it has given an answer, and not otherwise. -/
  ended : ∀ n, .finish n ∈ moves ↔ ∃ answer, (n, answer) ∈ h.results
  /-- The answer is `true` if the modal was mounted and confirmed, and not otherwise. -/
  answered : ∀ n answer, (n, answer) ∈ h.results →
    (answer = true ↔ .mount n true ∈ moves ∧ (n, .decided n .confirm) ∈ h.calls)
  /-- With a modal that is not found, with a decision, or with taking notice of being cancelled, a
  call comes to its answer. -/
  settled : ∀ m ∈ moves, ∀ n answer, m.settles? = some (n, answer) → ComesTo moves h n answer
  /-- A call that has come to its answer can end with it, without another call of the view. -/
  leaves : ∀ n c answer, h.state.call? n = some c → c.stage = .leaving answer →
    ∃ p, step h.state (.finish n) = some p ∧ p.result = some answer ∧ p.calls = []
  /-- The view does not hear of a call that gave up while it waited for it. -/
  unseen : ∀ n, .giveUp n ∈ moves → ∀ call, (n, call) ∉ h.calls
  /-- When all calls have ended and none was dropped, the slot is empty. -/
  released : h.state.calls = [] → (∀ n, .drop n ∉ moves) → h.state.active = none

theorem Slot.released (hslot : Slot moves s) (hended : s.calls = [])
    (hkept : ∀ n, .drop n ∉ moves) : s.active = none := by
  rw [Option.eq_none_iff_forall_ne_some]
  intro n hactive
  rcases hslot.pending n hactive with hpending | hdropped
  · exact hpending (State.call?_eq_none_iff.mpr (by simp [hended]))
  · exact hkept n hdropped

/-- **Supersession and answers**: whatever calls do, and whenever they are dropped, the newest is
the one that counts, and only a confirmation of its own modal makes a call answer `true`. -/
theorem run_superseding (hrun : run .initial moves = some h) : Superseding moves h := by
  have hslot := slot_run hrun
  have htracks := tracks_run hrun
  constructor
  · exact hslot.cancelled
  · intro m p n c c' hstep hc hc'
    have hslot' := hslot.extend htracks (steps_of_step hstep)
    exact hslot.cancelled_by hslot' hc hc'
  · intro m p n k hstep hm hregister hne
    exact (steps_of_step hstep).undisturbed hm hregister hne
  · intro n
    exact htracks.finish_mem_iff
  · intro n answer hanswer
    rw [htracks.answer_iff hanswer, mem_decided_run hrun, and_iff_right rfl]
  · intro m hmem n answer hm
    exact htracks.comesTo hmem hm
  · intro n c answer hc hstage
    refine ⟨⟨(h.state.remove n).clearSlot n, [], some answer⟩, ?_, rfl, rfl⟩
    rw [step, hc, Option.bind_eq_bind, Option.bind_some, hstage]
    rfl
  · intro n hgaveUp call hcall
    obtain ⟨found, hmount⟩ := exists_mount_of_mem_calls hrun hcall
    exact htracks.not_mem_mount_of_giveUp hgaveUp found hmount
  · exact hslot.released

/-- Of three calls the second gives up without having had the view, and the others are confirmed or
cancelled. -/
theorem run_superseding_three :
    ∃ moves h, run .initial moves = some h ∧ h.results = [(1, false), (0, true), (2, false)] ∧
      Superseding moves h := by
  have hrun : run .initial [.start ⟨"a", "b", "c"⟩, .start ⟨"d", "e", "f"⟩, .start ⟨"g", "h", "i"⟩,
      .register 0, .mount 0 true, .register 1, .register 2, .giveUp 1, .finish 1,
      .decide 0 .confirm, .finish 0, .mount 2 true, .decide 2 .cancel, .finish 2] = some _ := rfl
  exact ⟨_, _, hrun, rfl, run_superseding hrun⟩

end PasskeyCeremony.Confirmation
