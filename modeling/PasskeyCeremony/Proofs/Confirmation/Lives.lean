import PasskeyCeremony.Proofs.Confirmation.Moves

/-!
# What one call can do in its life

However calls are interleaved, the moves of one of them come in few orders: it registers, then it
gives up or gets the view, then it is decided upon or yields, and it leaves. `Life` lists these
orders with the stage that each of them leads to. `tracks_run` says that the moves of every call are
one of them, followed by the move with which the call ended, if it has; so what a call has done can
be read off its stage or its answer, and the other way round, by going through the list.
-/

namespace PasskeyCeremony.Confirmation

variable {s : State} {n k : Nat} {moves : List Move} {h : History}

/-! ## The moves of one call -/

def own (n : Nat) (moves : List Move) : List Move := moves.filter fun m ↦ m.caller? = some n

/-- The question with which a call begins. -/
def Move.question? : Move → Option Question
  | .start q => some q
  | _ => none

/-- The questions of all calls. The number of a call is the place of its question. -/
def questions (moves : List Move) : List Question := moves.filterMap Move.question?

/-- Moves of a call that has not ended, and the stage to which they brought it. -/
inductive Life (n : Nat) : List Move → Stage → Prop where
  | numbered : Life n [] .numbered
  | queued : Life n [.register n] .queued
  | shown : Life n [.register n, .mount n true] .shown
  | unfound : Life n [.register n, .mount n false] (.leaving false)
  | givenUp : Life n [.register n, .giveUp n] (.leaving false)
  | decided (d : Decision) :
      Life n [.register n, .mount n true, .decide n d] (.leaving (d = .confirm))
  | yielded : Life n [.register n, .mount n true, .yield n] (.leaving false)

theorem mem_own_iff {m : Move} : m ∈ own n moves ↔ m ∈ moves ∧ m.caller? = some n := by
  simp [own]

theorem own_append_of_caller {m : Move} (hm : m.caller? = some n) :
    own n (moves ++ [m]) = own n moves ++ [m] := by
  simp [own, hm]

theorem own_append_of_ne {m : Move} (hm : m.caller? ≠ some n) :
    own n (moves ++ [m]) = own n moves := by
  simp [own, hm]

theorem questions_append_of_caller {m : Move} (hm : m.caller? = some n) :
    questions (moves ++ [m]) = questions moves := by
  cases m <;> simp [questions, Move.question?, Move.caller?] at hm ⊢

theorem Life.eq_of_numbered {l : List Move} (h : Life n l .numbered) : l = [] := by
  cases h
  rfl

theorem Life.eq_of_queued {l : List Move} (h : Life n l .queued) : l = [.register n] := by
  cases h
  rfl

theorem Life.eq_of_shown {l : List Move} (h : Life n l .shown) :
    l = [.register n, .mount n true] := by
  cases h
  rfl

theorem Life.register {l : List Move} (h : Life n l .numbered) :
    Life n (l ++ [.register n]) .queued := by
  rw [h.eq_of_numbered]
  exact .queued

theorem Life.advance {c : Call} {l : List Move} {m : Move} {stage : Stage}
    {calls : List ModalCall} (h : Life c.number l c.stage)
    (hadvances : Advances s c m stage calls) : Life c.number (l ++ [m]) stage := by
  cases hadvances with
  | mount found hstage hfree =>
    rw [hstage] at h
    rw [h.eq_of_queued]
    cases found
    · exact .unfound
    · exact .shown
  | giveUp hstage hcancelled =>
    rw [hstage] at h
    rw [h.eq_of_queued]
    exact .givenUp
  | decide d hstage =>
    rw [hstage] at h
    rw [h.eq_of_shown]
    exact .decided d
  | yield hstage hcancelled =>
    rw [hstage] at h
    rw [h.eq_of_shown]
    exact .yielded

theorem Life.not_mem_finish {l : List Move} {stage : Stage} (h : Life n l stage) :
    Move.finish n ∉ l := by
  cases h <;> simp

theorem Life.not_mem_drop {l : List Move} {stage : Stage} (h : Life n l stage) :
    Move.drop n ∉ l := by
  cases h <;> simp

/-! ## The moves of all calls -/

/-- The moves that the call with a number has made are those of its life, and perhaps the one that
ended it; the state and the answers go with them. -/
structure Tracked (moves : List Move) (h : History) (n : Nat) : Prop where
  /-- A pending call lives, with the question with which it began. -/
  pending : ∀ c, h.state.call? n = some c →
    (questions moves)[n]? = some c.question ∧ Life n (own n moves) c.stage
  /-- A call that has not begun has not moved. -/
  unborn : h.state.nextNumber ≤ n → own n moves = []
  /-- A call that ended with an answer had come to leave with it. -/
  answered : ∀ answer, (n, answer) ∈ h.results →
    ∃ l, Life n l (.leaving answer) ∧ own n moves = l ++ [.finish n]
  /-- A call that has begun is pending, has ended with an answer, or has been dropped. -/
  whole : n < h.state.nextNumber → (∃ c, h.state.call? n = some c) ∨
    (∃ answer, (n, answer) ∈ h.results) ∨ ∃ l stage, Life n l stage ∧ own n moves = l ++ [.drop n]

/-- As many numbers are taken as calls have begun, and all calls are tracked. -/
structure Tracks (moves : List Move) (h : History) : Prop where
  nextNumber : h.state.nextNumber = (questions moves).length
  call : ∀ n, Tracked moves h n

theorem Tracks.lt_of_call? (htracks : Tracks moves h) {c : Call} (hc : h.state.call? n = some c) :
    n < h.state.nextNumber := by
  have hquestion := ((htracks.call n).pending c hc).1
  rw [htracks.nextNumber]
  exact (List.getElem?_eq_some_iff.mp hquestion).1

theorem Tracks.call?_nextNumber (htracks : Tracks moves h) :
    h.state.call? h.state.nextNumber = none := by
  rw [Option.eq_none_iff_forall_ne_some]
  intro c hc
  exact absurd (htracks.lt_of_call? hc) (Nat.lt_irrefl _)

theorem Steps.call?_of_ne {m : Move} {p : Progress} (hsteps : Steps s m p)
    (hm : m.caller? = some n) (hk : k ≠ n) :
    (p.state.call? k).map (fun c ↦ (c.question, c.stage)) =
      (s.call? k).map fun c ↦ (c.question, c.stage) := by
  by_cases hregister : m = .register n
  · subst hregister
    cases hsteps with
    | advance hc hadvances => cases hadvances
    | register hc hstage =>
      rw [call?_register, if_neg hk, Option.map_map]
      congr 1
      funext c
      rw [Function.comp_apply]
      split <;> rfl
  · rw [(hsteps.undisturbed hm hregister hk).1]

theorem Steps.nextNumber_of_caller {m : Move} {p : Progress} (hsteps : Steps s m p)
    (hm : m.caller? = some n) : p.state.nextNumber = s.nextNumber := by
  cases hsteps with
  | start q => cases hm
  | register hc hstage => exact State.nextNumber_cancelActive
  | advance hc hadvances => rfl
  | finish hc hstage => exact State.nextNumber_clearSlot
  | drop hc => rfl

/-- What a move leaves of the call that makes it: the call lives on, or the move has ended it. -/
theorem Steps.own_cases {m : Move} {p : Progress} (hsteps : Steps s m p)
    (hm : m.caller? = some n) {l : List Move}
    (hlife : ∀ c, s.call? n = some c → Life n l c.stage) :
    ∃ c, s.call? n = some c ∧
      ((∃ c', p.state.call? n = some c' ∧ c'.question = c.question ∧
          Life n (l ++ [m]) c'.stage ∧ p.result = none) ∨
        (∃ answer, p.state.call? n = none ∧ m = .finish n ∧ p.result = some answer ∧
          Life n l (.leaving answer)) ∨
        (p.state.call? n = none ∧ m = .drop n ∧ p.result = none)) := by
  cases hsteps with
  | start q => cases hm
  | @register c hc hstage =>
    obtain rfl := Option.some.inj hm
    have hl := hlife c hc
    rw [hstage] at hl
    refine ⟨c, hc, Or.inl ⟨{ c with stage := .queued }, ?_, rfl, hl.register, rfl⟩⟩
    rw [call?_register, if_pos rfl]
  | @advance c _ stage _ hc hadvances =>
    obtain rfl := Option.some.inj (hadvances.caller?.symm.trans hm)
    exact ⟨c, hc, Or.inl ⟨_, call?_advance_self hc stage, rfl, (hlife c hc).advance hadvances, rfl⟩⟩
  | @finish c answer hc hstage =>
    obtain rfl := Option.some.inj hm
    have hl := hlife c hc
    rw [hstage] at hl
    exact ⟨c, hc, Or.inr (Or.inl ⟨answer, by simp, rfl, rfl, hl⟩)⟩
  | @drop c hc =>
    obtain rfl := Option.some.inj hm
    exact ⟨c, hc, Or.inr (Or.inr ⟨by simp, rfl, rfl⟩)⟩

theorem tracks_initial : Tracks [] ⟨.initial, [], []⟩ where
  nextNumber := rfl
  call n :=
    { pending := fun _ hc ↦ by cases hc
      unborn := fun _ ↦ rfl
      answered := fun _ hanswer ↦ absurd hanswer List.not_mem_nil
      whole := fun hn ↦ absurd hn (Nat.not_lt_zero n) }

private theorem Tracks.start (htracks : Tracks moves h) {q : Question} {p : Progress}
    (hsteps : Steps h.state (.start q) p) :
    Tracks (moves ++ [.start q]) (machine.extend h (.start q) p) := by
  cases hsteps with
  | advance hc hadvances => cases hadvances
  | start q =>
    have hown : ∀ n, own n (moves ++ [.start q]) = own n moves := fun n ↦ own_append_of_ne nofun
    have hquestions : questions (moves ++ [.start q]) = questions moves ++ [q] := by
      simp [questions, Move.question?]
    refine ⟨?_, fun n ↦ ⟨?_, ?_, ?_, ?_⟩⟩
    · rw [hquestions, List.length_append, ← htracks.nextNumber]
      rfl
    · intro c hc
      rw [hquestions, hown]
      rw [Machine.extend, call?_start q htracks.call?_nextNumber] at hc
      split at hc
      · rename_i hn
        subst hn
        obtain rfl := Option.some.inj hc
        rw [(htracks.call _).unborn (Nat.le_refl _), htracks.nextNumber]
        exact ⟨List.getElem?_concat_length, .numbered⟩
      · obtain ⟨hquestion, hlife⟩ := (htracks.call n).pending c hc
        have hlt := (List.getElem?_eq_some_iff.mp hquestion).1
        rw [List.getElem?_append_left hlt]
        exact ⟨hquestion, hlife⟩
    · intro hn
      rw [hown]
      exact (htracks.call n).unborn (Nat.le_of_succ_le hn)
    · intro answer hanswer
      rw [hown]
      rw [Machine.mem_results_extend] at hanswer
      rcases hanswer with hanswer | ⟨-, hanswer⟩
      · exact (htracks.call n).answered answer hanswer
      · cases hanswer
    · intro hn
      rw [hown, Machine.extend, call?_start q htracks.call?_nextNumber]
      split
      · exact Or.inl ⟨_, rfl⟩
      · rename_i hne
        have hlt := Nat.lt_of_le_of_ne (Nat.le_of_lt_succ hn) hne
        simpa using (htracks.call n).whole hlt

private theorem Tracked.of_ne (htracked : Tracked moves h k) {m : Move} {p : Progress}
    (hm : m.caller? = some n) (hsteps : Steps h.state m p) (hk : k ≠ n) :
    Tracked (moves ++ [m]) (machine.extend h m p) k := by
  have hown : own k (moves ++ [m]) = own k moves :=
    own_append_of_ne fun hcaller ↦ hk (Option.some.inj (hcaller.symm.trans hm))
  have hsame := hsteps.call?_of_ne hm hk
  have hnext : (machine.extend h m p).state.nextNumber = h.state.nextNumber :=
    hsteps.nextNumber_of_caller hm
  constructor
  · intro c' hc'
    have hpending : p.state.call? k = some c' := hc'
    rw [hpending, Option.map_some, eq_comm, Option.map_eq_some_iff] at hsame
    obtain ⟨c, hc, hkept⟩ := hsame
    obtain ⟨hquestion, hstage⟩ := Prod.mk.inj hkept
    rw [questions_append_of_caller hm, hown, ← hquestion, ← hstage]
    exact htracked.pending c hc
  · intro hunborn
    rw [hown]
    rw [hnext] at hunborn
    exact htracked.unborn hunborn
  · intro answer hanswer
    rw [hown]
    rw [Machine.mem_results_extend, machine.number_of_caller? hm] at hanswer
    rcases hanswer with hanswer | ⟨rfl, -⟩
    · exact htracked.answered answer hanswer
    · exact absurd rfl hk
  · intro hbegun
    rw [hown]
    rw [hnext] at hbegun
    rcases htracked.whole hbegun with ⟨c, hc⟩ | ⟨answer, hanswer⟩ | hdropped
    · rw [hc, Option.map_some, Option.map_eq_some_iff] at hsame
      obtain ⟨c', hc', -⟩ := hsame
      exact Or.inl ⟨c', hc'⟩
    · exact Or.inr (Or.inl ⟨answer, Machine.mem_results_extend.mpr (Or.inl hanswer)⟩)
    · exact Or.inr (Or.inr hdropped)

private theorem Tracks.of_self (htracks : Tracks moves h) {m : Move} {p : Progress}
    (hm : m.caller? = some n) (hsteps : Steps h.state m p) :
    Tracked (moves ++ [m]) (machine.extend h m p) n := by
  have hnumber : machine.number h.state m = n := machine.number_of_caller? hm
  obtain ⟨c, hc, hcases⟩ := hsteps.own_cases hm fun c hc ↦ ((htracks.call n).pending c hc).2
  obtain ⟨hquestion, hlife⟩ := (htracks.call n).pending c hc
  rw [← own_append_of_caller hm] at hcases
  constructor
  · intro c' hc'
    rw [questions_append_of_caller hm]
    rcases hcases with ⟨c'', hc'', hkept, hlife', -⟩ | ⟨_, hgone, -⟩ | ⟨hgone, -⟩
    · obtain rfl := Option.some.inj (hc''.symm.trans hc')
      rw [hkept]
      exact ⟨hquestion, hlife'⟩
    · cases hgone.symm.trans hc'
    · cases hgone.symm.trans hc'
  · intro hunborn
    have hnext : p.state.nextNumber ≤ n := hunborn
    rw [hsteps.nextNumber_of_caller hm] at hnext
    exact absurd (htracks.lt_of_call? hc) (Nat.not_lt_of_le hnext)
  · intro answer hanswer
    rw [Machine.mem_results_extend] at hanswer
    rcases hanswer with hanswer | ⟨-, hanswer⟩
    · -- a call that is pending has not ended before
      obtain ⟨l, -, hown⟩ := (htracks.call n).answered answer hanswer
      rw [hown] at hlife
      exact absurd (List.mem_append_right l List.mem_cons_self) hlife.not_mem_finish
    · rcases hcases with ⟨_, -, -, -, hnone⟩ | ⟨answer', -, rfl, hanswer', hleaving⟩ | ⟨-, -, hnone⟩
      · cases hnone.symm.trans hanswer
      · obtain rfl := Option.some.inj (hanswer'.symm.trans hanswer)
        exact ⟨_, hleaving, own_append_of_caller rfl⟩
      · cases hnone.symm.trans hanswer
  · intro _
    rcases hcases with ⟨c', hc', -⟩ | ⟨answer, -, -, hanswer, -⟩ | ⟨-, rfl, -⟩
    · exact Or.inl ⟨c', hc'⟩
    · have hresult := Machine.mem_results_extend.mpr (Or.inr ⟨hnumber.symm, hanswer⟩)
      exact Or.inr (Or.inl ⟨answer, hresult⟩)
    · exact Or.inr (Or.inr ⟨_, _, hlife, own_append_of_caller rfl⟩)

theorem Tracks.move (htracks : Tracks moves h) {m : Move} {p : Progress}
    (hm : m.caller? = some n) (hsteps : Steps h.state m p) :
    Tracks (moves ++ [m]) (machine.extend h m p) where
  nextNumber := by
    rw [questions_append_of_caller hm, ← htracks.nextNumber]
    exact hsteps.nextNumber_of_caller hm
  call k := by
    by_cases hk : k = n
    · subst hk
      exact htracks.of_self hm hsteps
    · exact (htracks.call k).of_ne hm hsteps hk

theorem tracks_run (hrun : run .initial moves = some h) : Tracks moves h := by
  refine run_induction (motive := Tracks) tracks_initial ?_ hrun
  intro moves h m p _ htracks hsteps
  cases hm : m.caller? with
  | some n => exact htracks.move hm hsteps
  | none =>
    cases m with
    | start q => exact htracks.start hsteps
    | _ => cases hm

end PasskeyCeremony.Confirmation
