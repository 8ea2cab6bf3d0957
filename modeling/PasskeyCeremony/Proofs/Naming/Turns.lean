import PasskeyCeremony.Proofs.Naming.Fates

/-!
# The view goes from call to call

The fates of the calls of a naming prompt, in the order of the calls, say all that the view was
told: it is the concatenation of their blocks, and a call that did not get hold of the view has an
empty one (`InTurn`).

That blocks do not overlap is a matter of turns. As long as a call is pending, the view has not been
given to any call after it, so a move can only lengthen the last block that is not empty. The queue
is in the order of the calls, so the call whose turn it is has nobody pending before it.
-/

namespace PasskeyCeremony.Naming

variable {n k : Nat} {moves : List Move} {h : History} {m : Move} {p : Progress}

/-! ## The fates of a run -/

theorem getElem?_concat {α : Type} {l : List α} {a : α} :
    (l ++ [a])[k]? = if k = l.length then some a else l[k]? := by
  grind

theorem getElem?_change {α : Type} {before after : List α} {a a' : α} :
    (before ++ a' :: after)[k]? =
      if k = before.length then some a' else (before ++ a :: after)[k]? := by
  grind

theorem exists_split_of_getElem? {α : Type} {l : List α} {a : α} (h : l[n]? = some a) :
    ∃ before after, l = before ++ a :: after ∧ before.length = n := by
  obtain ⟨hn, rfl⟩ := List.getElem?_eq_some_iff.mp h
  refine ⟨l.take n, l.drop (n + 1), ?_, List.length_take_of_le (Nat.le_of_lt hn)⟩
  rw [List.getElem_cons_drop, List.take_append_drop]

/-- The move with which a call begins. -/
def Move.IsStart : Move → Bool
  | .start _ => true
  | .show _ _ | .settle _ _ | .event _ _ _ | .drop _ => false

theorem Move.isStart_eq_false (hm : m.caller? = some n) : m.IsStart = false := by
  cases m <;> first | rfl | cases hm

/-- The fates of the calls that have begun, and how the state of the prompt goes with them. -/
structure Fates (moves : List Move) (h : History) (fates : List Fate) : Prop where
  made : fates.length = moves.countP Move.IsStart
  number : h.state.nextNumber = fates.length
  calls : h.calls = numbered Fate.calls fates
  answers : h.results.map (Prod.map id Result.answer) = numbered (·.answer?.toList) fates
  turn : fates.Pairwise fun f g ↦ f.open? ≠ none → g.found? = none
  pending : ∀ n, (h.state.call? n).map (·.dialog.isSome) = fates[n]?.bind Fate.open?
  queue : (h.state.calls.map Call.number).Pairwise (· < ·)
  told : ∀ n f, fates[n]? = some f → Told n moves f
  begun : ∀ m ∈ moves, ∀ n, m.caller? = some n → n < fates.length

namespace Fates

variable {fates : List Fate}

theorem initial : Fates [] ⟨.initial, [], []⟩ [] where
  made := rfl
  number := rfl
  calls := rfl
  answers := rfl
  turn := List.Pairwise.nil
  pending _ := rfl
  queue := List.Pairwise.nil
  told _ _ hf := nomatch hf
  begun _ hm := absurd hm List.not_mem_nil

theorem call?_eq_none (hfates : Fates moves h fates) (hn : fates.length ≤ n) :
    h.state.call? n = none := by
  have hpending := hfates.pending n
  rw [List.getElem?_eq_none hn] at hpending
  exact Option.map_eq_none_iff.mp hpending

theorem number_lt (hfates : Fates moves h fates) {c : Call} (hc : c ∈ h.state.calls) :
    c.number < fates.length := by
  refine Nat.lt_of_not_le fun hle ↦ ?_
  have hnone := hfates.call?_eq_none hle
  rw [State.call?, List.find?_eq_none] at hnone
  exact hnone c hc (beq_self_eq_true _)

theorem begun_concat (hfates : Fates moves h fates) {l : Nat} (hl : fates.length ≤ l)
    (hm : ∀ n, m.caller? = some n → n < l) :
    ∀ m' ∈ moves ++ [m], ∀ n, m'.caller? = some n → n < l := by
  intro m' hm' n hcaller
  rcases List.mem_append.mp hm' with hm' | hm'
  · exact Nat.lt_of_lt_of_le (hfates.begun m' hm' n hcaller) hl
  · rw [List.mem_singleton.mp hm'] at hcaller
    exact hm n hcaller

/-! A call that begins waits for the view. -/

section Start

variable (hfates : Fates moves h fates) (inUse : List String)
include hfates

theorem turn_start :
    (fates ++ [Fate.waiting]).Pairwise fun f g ↦ f.open? ≠ none → g.found? = none := by
  rw [List.pairwise_append]
  refine ⟨hfates.turn, List.pairwise_singleton _ _, fun f _ g hg _ ↦ ?_⟩
  rw [List.mem_singleton.mp hg]
  rfl

theorem pending_start (k : Nat) :
    (State.call? ⟨h.state.nextNumber + 1, h.state.calls ++ [⟨h.state.nextNumber, inUse, none⟩]⟩
      k).map (·.dialog.isSome) = (fates ++ [.waiting])[k]?.bind Fate.open? := by
  have hnew := hfates.call?_eq_none (Nat.le_of_eq hfates.number.symm)
  rw [State.call?_append (c := ⟨h.state.nextNumber, inUse, none⟩) hnew, getElem?_concat,
    hfates.number]
  split
  · rfl
  · exact hfates.pending k

theorem queue_start :
    ((h.state.calls ++ [Call.mk h.state.nextNumber inUse none]).map Call.number).Pairwise
      (· < ·) := by
  have hlast : ∀ c ∈ h.state.calls, c.number < h.state.nextNumber := fun c hc ↦
    Nat.lt_of_lt_of_eq (hfates.number_lt hc) hfates.number.symm
  simpa [List.pairwise_append] using ⟨hfates.queue, hlast⟩

theorem told_start {f : Fate} (hf : (fates ++ [.waiting])[n]? = some f) :
    Told n (moves ++ [.start inUse]) f := by
  rw [getElem?_concat] at hf
  split at hf
  · rename_i hn
    obtain rfl := Option.some.inj hf
    -- a call that begins has not made a move
    refine Told.waiting fun m hm hcaller ↦ ?_
    have hlt := hfates.begun_concat (m := .start inUse) (Nat.le_refl _) nofun m hm n hcaller
    exact absurd hn (Nat.ne_of_lt hlt)
  · exact (hfates.told n f hf).of_ne nofun

theorem start :
    Fates (moves ++ [.start inUse]) (machine.extend h (.start inUse)
      ⟨⟨h.state.nextNumber + 1, h.state.calls ++ [⟨h.state.nextNumber, inUse, none⟩]⟩, [], none⟩)
      (fates ++ [.waiting]) where
  made := by
    rw [List.length_append, List.countP_append, hfates.made]
    rfl
  number := by
    rw [List.length_append, ← hfates.number]
    rfl
  calls := by
    rw [numbered_concat, ← hfates.calls]
    rfl
  answers := by
    rw [numbered_concat, ← hfates.answers, Machine.extend]
    simp [Fate.answer?]
  turn := hfates.turn_start
  pending := hfates.pending_start inUse
  queue := hfates.queue_start inUse
  told _ _ hf := hfates.told_start inUse hf
  begun := by
    rw [List.length_append]
    refine hfates.begun_concat (Nat.le_add_right _ _) ?_
    intro n hn
    cases hn

end Start

/-- Nobody before the call whose turn it is is pending. -/
theorem call?_of_turn (hfates : Fates moves h fates) (hturn : h.state.turn? = some n) (hk : k < n) :
    h.state.call? k = none := by
  obtain ⟨c, hhead, rfl⟩ := Option.map_eq_some_iff.mp hturn
  obtain ⟨rest, hcalls⟩ := List.head?_eq_some_iff.mp hhead
  have hqueue := hfates.queue
  rw [hcalls, List.map_cons, List.pairwise_cons] at hqueue
  rw [State.call?, hcalls, List.find?_eq_none]
  intro c' hc'
  have hlater : c.number ≤ c'.number := by
    rcases List.mem_cons.mp hc' with rfl | hrest
    · exact Nat.le_refl _
    · exact Nat.le_of_lt (hqueue.1 _ (List.mem_map_of_mem hrest))
  have hne : c'.number ≠ k := Nat.ne_of_gt (Nat.lt_of_lt_of_le hk hlater)
  simpa using hne

/-! A call that advances changes its fate and no other. -/

section Advance

variable {before after : List Fate} {f f' : Fate} (hfates : Fates moves h (before ++ f :: after))
  (hadvances : Advances h.state m p before.length f f')
include hfates hadvances

theorem unseen_after : ∀ g ∈ after, g.found? = none := by
  intro g hg
  have hlater := (List.pairwise_append.mp hfates.turn).2.1
  exact (List.pairwise_cons.mp hlater).1 g hg hadvances.next.open?_ne_none

theorem calls_advance :
    (machine.extend h m p).calls = numbered Fate.calls (before ++ f' :: after) := by
  have hlater : ∀ g ∈ after, g.calls = [] := fun g hg ↦
    Fate.calls_eq_nil (hfates.unseen_after hadvances g hg)
  rw [numbered_change hadvances.calls hlater, ← hfates.calls, Machine.extend,
    machine.number_of_caller? hadvances.next.caller?]

theorem answers_advance :
    (machine.extend h m p).results.map (Prod.map id Result.answer) =
      numbered (·.answer?.toList) (before ++ f' :: after) := by
  have hanswer : f'.answer?.toList = f.answer?.toList ++ (p.result.map Result.answer).toList := by
    rw [hadvances.next.answer?_eq_none, hadvances.answer]
    rfl
  have hlater : ∀ g ∈ after, g.answer?.toList = [] := by
    intro g hg
    rw [Fate.answer?_eq_none (hfates.unseen_after hadvances g hg)]
    rfl
  rw [numbered_change hanswer hlater, ← hfates.answers, Machine.extend,
    machine.number_of_caller? hadvances.next.caller?, List.map_append]
  cases p.result <;> rfl

theorem turn_advance :
    (before ++ f' :: after).Pairwise fun f g ↦ f.open? ≠ none → g.found? = none := by
  have hopen := hadvances.next.open?_ne_none
  obtain ⟨hbefore, hafter, hacross⟩ := List.pairwise_append.mp hfates.turn
  rw [List.pairwise_cons] at hafter
  refine List.pairwise_append.mpr ⟨hbefore, List.pairwise_cons.mpr ⟨?_, hafter.2⟩, ?_⟩
  · intro g hg _
    exact hafter.1 g hg hopen
  · intro e he g hg hpending
    rcases List.mem_cons.mp hg with rfl | hg
    · -- whoever is given the view now has nobody pending before it
      by_contra hfound
      have hf : f.found? = none := hacross e he f List.mem_cons_self hpending
      have hturn := hadvances.turn hf hfound
      obtain ⟨k, hk, rfl⟩ := List.mem_iff_getElem.mp he
      have hnone := hfates.pending k
      rw [hfates.call?_of_turn hturn hk, List.getElem?_append_left hk,
        List.getElem?_eq_getElem hk] at hnone
      exact hpending hnone.symm
    · exact hacross e he g (List.mem_cons_of_mem _ hg) hpending

theorem pending_advance (k : Nat) :
    (p.state.call? k).map (·.dialog.isSome) = (before ++ f' :: after)[k]?.bind Fate.open? := by
  rw [getElem?_change (a := f)]
  split
  · rename_i hk
    rw [hk]
    exact hadvances.pending
  · rename_i hk
    rw [hadvances.others k hk]
    exact hfates.pending k

theorem told_advance {g : Fate} (hg : (before ++ f' :: after)[n]? = some g) :
    Told n (moves ++ [m]) g := by
  have hm := hadvances.next.caller?
  rw [getElem?_change (a := f)] at hg
  split at hg
  · rename_i hn
    subst hn
    obtain rfl := Option.some.inj hg
    exact (hfates.told _ f (by simp)).next hadvances.next
  · rename_i hn
    refine (hfates.told n g hg).of_ne ?_
    rw [hm]
    exact fun heq ↦ hn (Option.some.inj heq).symm

theorem advance : Fates (moves ++ [m]) (machine.extend h m p) (before ++ f' :: after) := by
  have hm := hadvances.next.caller?
  have hlength : (before ++ f' :: after).length = (before ++ f :: after).length := by simp
  exact {
    made := by
      rw [hlength, hfates.made, List.countP_append, List.countP_singleton, Move.isStart_eq_false hm]
      rfl
    number := by
      rw [hlength, ← hfates.number]
      exact hadvances.number
    calls := hfates.calls_advance hadvances
    answers := hfates.answers_advance hadvances
    turn := hfates.turn_advance hadvances
    pending := hfates.pending_advance hadvances
    queue := hfates.queue.sublist hadvances.queue
    told := fun _ _ hg ↦ hfates.told_advance hadvances hg
    begun := by
      refine hfates.begun_concat (Nat.le_of_eq hlength.symm) fun n hcaller ↦ ?_
      obtain rfl := Option.some.inj (hm.symm.trans hcaller)
      simp }

end Advance

/-- One more move adds a call that waits, or changes the fate of one. -/
theorem extend (hfates : Fates moves h fates) (hsteps : Steps h.state m p) :
    ∃ fates', Fates (moves ++ [m]) (machine.extend h m p) fates' := by
  cases hm : m.caller? with
  | none =>
    cases hsteps with
    | start inUse => exact ⟨_, hfates.start inUse⟩
    | «open» | refuse | drop => cases hm
    | goOn _ _ hplays | close _ _ hplays => cases hm.symm.trans hplays.caller?
  | some n =>
    obtain ⟨c, hc⟩ := hsteps.exists_call hm
    have hpending := hfates.pending n
    rw [hc] at hpending
    obtain ⟨f, hf, hopen⟩ := Option.bind_eq_some_iff.mp hpending.symm
    obtain ⟨before, after, rfl, rfl⟩ := exists_split_of_getElem? hf
    obtain ⟨f', hadvances⟩ := hsteps.advances hm (by rw [hc, hopen]; rfl)
    exact ⟨_, hfates.advance hadvances⟩

end Fates

theorem fates_run (hrun : run .initial moves = some h) : ∃ fates, Fates moves h fates := by
  refine run_induction (motive := fun moves h ↦ ∃ fates, Fates moves h fates)
    ⟨[], Fates.initial⟩ ?_ hrun
  rintro moves h m p ⟨fates, hfates⟩ hsteps
  exact hfates.extend hsteps

theorem number_lt_of_run {c : Call} (hrun : run .initial moves = some h)
    (hcall : h.state.call? n = some c) : n < h.state.nextNumber := by
  obtain ⟨fates, hfates⟩ := fates_run hrun
  obtain rfl := State.number_of_call? hcall
  rw [hfates.number]
  exact hfates.number_lt (List.mem_of_find?_eq_some hcall)

/-! ## In turn -/

/-- What a run of the prompt tells the view and its callers, given the fates of the calls that have
begun, in the order in which they began. -/
structure InTurn (moves : List Move) (h : History) (fates : List Fate) : Prop where
  /-- Every call that has begun has a fate. -/
  made : fates.length = moves.countP Move.IsStart
  /-- The view sees a concatenation of blocks, in the order of the calls. -/
  calls : h.calls = numbered Fate.calls fates
  /-- What the callers get goes with the blocks. -/
  answers : h.results.map (Prod.map id Result.answer) = numbered (·.answer?.toList) fates
  /-- Nobody after a call that is pending has got hold of the view. -/
  turn : fates.Pairwise fun f g ↦ f.open? ≠ none → g.found? = none
  /-- A call has a block if it got hold of the view, and a dialog if the elements were found. -/
  shown : ∀ n found, .show n found ∈ moves ↔ ∃ f, fates[n]? = some f ∧ f.found? = some found
  /-- A dialog is open as long as its call is pending. -/
  pending : ∀ n, (h.state.call? n).map (·.dialog.isSome) = fates[n]?.bind Fate.open?
  /-- A dialog has been closed when its call has ended or has been dropped. -/
  closed : ∀ n f, fates[n]? = some f → f.found? = some true →
    ((∃ r, (n, r) ∈ h.results) ∨ .drop n ∈ moves ↔ ∃ inside ending, f = .closed inside ending)
  /-- The calls that are dropped while they wait are those that have left. -/
  left : ∀ n, LeavesWaiting n moves ↔ fates[n]? = some .left
  /-- A call that is dropped while it waits makes no call of the view. -/
  unseen : ∀ n, LeavesWaiting n moves → ∀ c, (n, c) ∉ h.calls

namespace Fates

variable {fates : List Fate}

theorem mem_results_iff (hfates : Fates moves h fates) {f : Fate} (hf : fates[n]? = some f) :
    (∃ r, (n, r) ∈ h.results) ↔ f.answer? ≠ none := by
  have hmem : ∀ a, (∃ r, (n, r) ∈ h.results ∧ r.answer = a) ↔ f.answer? = some a := by
    intro a
    have hiff : (n, a) ∈ h.results.map (Prod.map id Result.answer) ↔ f.answer? = some a := by
      rw [hfates.answers, mem_numbered, hf]
      simp
    rw [← hiff]
    simp
  constructor
  · rintro ⟨r, hr⟩ hnone
    rw [(hmem r.answer).mp ⟨r, hr, rfl⟩] at hnone
    cases hnone
  · intro hanswer
    obtain ⟨a, ha⟩ := Option.ne_none_iff_exists'.mp hanswer
    obtain ⟨r, hr, -⟩ := (hmem a).mpr ha
    exact ⟨r, hr⟩

theorem left_iff (hfates : Fates moves h fates) :
    LeavesWaiting n moves ↔ fates[n]? = some .left := by
  constructor
  · intro hleaves
    have hdrop : .drop n ∈ moves := by
      obtain ⟨before, hbefore, -⟩ := hleaves
      exact hbefore.subset (by simp)
    have hf := List.getElem?_eq_getElem (hfates.begun _ hdrop n rfl)
    rw [hf, (hfates.told n _ hf).left.mp hleaves]
  · intro hf
    exact (hfates.told n _ hf).left.mpr rfl

theorem inTurn (hfates : Fates moves h fates) : InTurn moves h fates where
  made := hfates.made
  calls := hfates.calls
  answers := hfates.answers
  turn := hfates.turn
  shown n found := by
    constructor
    · intro hshow
      have hn := hfates.begun _ hshow n rfl
      have hf := List.getElem?_eq_getElem hn
      exact ⟨_, hf, ((hfates.told n _ hf).shown found).mp hshow⟩
    · rintro ⟨f, hf, hfound⟩
      exact ((hfates.told n f hf).shown found).mpr hfound
  pending := hfates.pending
  closed n f hf hfound := by
    rw [hfates.mem_results_iff hf, (hfates.told n f hf).dropped]
    cases f with
    | waiting | left | refused => cases hfound
    | standing inside => simp [Fate.answer?, Fate.Dropped]
    | closed inside ending => cases ending <;> simp [Fate.answer?, Fate.Dropped]
  left n := hfates.left_iff
  unseen n hleaves c hc := by
    rw [hfates.calls, mem_numbered] at hc
    obtain ⟨f, hf, hcall⟩ := hc
    rw [hfates.left_iff.mp hleaves] at hf
    obtain rfl := Option.some.inj hf
    cases hcall

end Fates

/-- **The view goes from call to call**: whatever the users do, and whenever calls are dropped, each
call that got hold of the view has it for one block, and the blocks stand in the order of the
calls. -/
theorem run_in_turn (hrun : run .initial moves = some h) : ∃ fates, InTurn moves h fates := by
  obtain ⟨fates, hfates⟩ := fates_run hrun
  exact ⟨fates, hfates.inTurn⟩

/-- Of five calls the first is cancelled by its user, the second is dropped while it waits, the
third does not find the elements, the fourth is dropped with its dialog open, and the last one
waits. -/
theorem run_in_turn_five :
    ∃ moves h fates, run .initial moves = some h ∧ LeavesWaiting 1 moves ∧
      h.results.map Prod.fst = [0, 2] ∧ InTurn moves h fates := by
  let before : List Move := [.start [], .start [], .show 0 true, .start [],
    .event 0 3 (.input "a")]
  let after : List Move := [.start [], .settle 0 153, .event 0 200 .cancel, .show 2 false,
    .show 3 true, .start [], .drop 3]
  have hrun : run .initial (before ++ .drop 1 :: after) = some _ := rfl
  have hleaves : LeavesWaiting 1 (before ++ .drop 1 :: after) :=
    ⟨before, ⟨after, rfl⟩, by simp [before]⟩
  obtain ⟨fates, hfates⟩ := run_in_turn hrun
  exact ⟨_, _, fates, hrun, hleaves, rfl, hfates⟩

end PasskeyCeremony.Naming
