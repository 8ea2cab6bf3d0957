import PasskeyCeremony.Proofs.Confirmation.Supersession

/-!
# A confirmation prompt that has been used

A prompt keeps two things when its calls have ended: the number of the next call, and, if a call was
dropped by its caller, the number of that call in the active slot. Neither has an influence on later
calls. The first one is a matter of names, since whatever the prompt does with a number it does with
any other; the second one is a number that no later call can have, so cancelling its call changes
nothing and nobody finds it to be its own.

Both are said at once by a relation between states (`State.Mirrors`): one is the other with larger
numbers, and where the active slot of the first is empty, that of the second may hold a smaller
number than any call has. A move is mirrored by the same move with a larger number
(`step_mirrors`), and therefore a run by a run (`shifts`).
-/

namespace PasskeyCeremony

/-- The same thing about a modal with a larger number. -/
inductive ModalCall.Shifted (k : Nat) : ModalCall → ModalCall → Prop where
  | removeExisting : Shifted k .removeExisting .removeExisting
  | mount (n : Nat) (q : Question) :
      Shifted k (.mount n (Page.Modal.html n q)) (.mount (n + k) (Page.Modal.html (n + k) q))
  | attach (n : Nat) : Shifted k (.attach n) (.attach (n + k))
  | show (n : Nat) : Shifted k (.show n) (.show (n + k))
  | decided (n : Nat) (d : Decision) : Shifted k (.decided n d) (.decided (n + k) d)
  | detach (n : Nat) : Shifted k (.detach n) (.detach (n + k))
  | destroy (n : Nat) : Shifted k (.destroy n) (.destroy (n + k))

theorem ModalCall.Shifted.eq_removeExisting {k : Nat} {c : ModalCall}
    (h : Shifted k .removeExisting c) : c = .removeExisting := by
  cases h
  rfl

namespace Confirmation

open Machine (rel_guard rel_map_bind)

variable {s t : State} {n k : Nat}

/-! ## Larger numbers -/

/-- The same call with a larger number. -/
def Call.shift (k : Nat) (c : Call) : Call := { c with number := c.number + k }

/-- The same move of another call. -/
def Move.renumber (f : Nat → Nat) : Move → Move
  | start q => start q
  | register n => register (f n)
  | mount n found => mount (f n) found
  | giveUp n => giveUp (f n)
  | decide n d => decide (f n) d
  | yield n => yield (f n)
  | finish n => finish (f n)
  | drop n => drop (f n)

/-- Moves are given to other calls by their numbers. -/
def renumbering : machine.Renumbering where
  map := Move.renumber
  caller?_map f m := by cases m <;> rfl
  map_map f g m := by cases m <;> rfl
  map_eq_self f m hm := by cases m <;> simp_all [machine, Move.caller?, Move.renumber]

/-- The same move of a call with a larger number. -/
abbrev Move.shift (k : Nat) (m : Move) : Move := renumbering.shift k m

theorem shifted_setup (c : Call) (found : Bool) :
    List.Forall₂ (ModalCall.Shifted k) (setup c found) (setup (c.shift k) found) := by
  cases found with
  | false => exact .cons .removeExisting (.cons (.mount _ _) .nil)
  | true =>
    exact .cons .removeExisting (.cons (.mount _ _) (.cons (.attach _) (.cons (.show _) .nil)))

theorem shifted_teardown (n : Nat) :
    List.Forall₂ (ModalCall.Shifted k) (teardown n) (teardown (n + k)) :=
  .cons (.detach n) (.cons (.destroy n) .nil)

/-! ## States -/

theorem State.cancelActive_of_none (h : s.active = none) : s.cancelActive = s := by
  rw [State.cancelActive, h]

theorem State.cancelActive_of_some (h : s.active = some n) :
    s.cancelActive = s.update n fun c ↦ { c with cancelled := true } := by
  rw [State.cancelActive, h]

/-- The second state is the first one with larger numbers, up to the number of a call that is long
gone in the active slot. -/
structure State.Mirrors (k : Nat) (s t : State) : Prop where
  nextNumber : t.nextNumber = s.nextNumber + k
  calls : t.calls = s.calls.map (Call.shift k)
  active : t.active = s.active.map (· + k) ∨ s.active = none ∧ ∃ n < k, t.active = some n

namespace State.Mirrors

theorem call? (h : s.Mirrors k t) (n : Nat) : t.call? (n + k) = (s.call? n).map (Call.shift k) := by
  rw [State.call?, h.calls]
  exact Calls.find?_shift (fun _ ↦ rfl) n

theorem le_number (h : s.Mirrors k t) {c : Call} (hc : c ∈ t.calls) : k ≤ c.number := by
  rw [h.calls] at hc
  obtain ⟨c, -, rfl⟩ := List.mem_map.mp hc
  exact Nat.le_add_left k c.number

theorem viewIsFree (h : s.Mirrors k t) : t.viewIsFree = s.viewIsFree := by
  rw [State.viewIsFree, h.calls, List.all_map, State.viewIsFree]
  rfl

theorem update (h : s.Mirrors k t) (n : Nat) {f : Call → Call}
    (hf : ∀ c, f (c.shift k) = (f c).shift k) : (s.update n f).Mirrors k (t.update (n + k) f) where
  nextNumber := h.nextNumber
  calls := by
    rw [State.update, State.update, h.calls]
    exact Calls.update_shift (fun _ ↦ rfl) n hf
  active := h.active

theorem update_stale (h : s.Mirrors k t) (hn : n < k) (f : Call → Call) : t.update n f = t := by
  have hsame : t.calls.map (fun c ↦ if c.number = n then f c else c) = t.calls := by
    refine (List.map_congr_left fun c hc ↦ ?_).trans (List.map_id _)
    exact if_neg (Nat.ne_of_gt (Nat.lt_of_lt_of_le hn (h.le_number hc)))
  rw [State.update, hsame]

theorem advance (h : s.Mirrors k t) (n : Nat) (stage : Stage) :
    (s.advance n stage).Mirrors k (t.advance (n + k) stage) :=
  h.update n fun _ ↦ rfl

theorem remove (h : s.Mirrors k t) (n : Nat) : (s.remove n).Mirrors k (t.remove (n + k)) where
  nextNumber := h.nextNumber
  calls := by
    rw [State.remove, State.remove, h.calls]
    exact Calls.remove_shift (fun _ ↦ rfl) n
  active := h.active

theorem cancelActive (h : s.Mirrors k t) : s.cancelActive.Mirrors k t.cancelActive := by
  rcases h.active with hactive | ⟨hnone, n, hn, hstale⟩
  · cases hs : s.active with
    | none =>
      rw [hs] at hactive
      rw [State.cancelActive_of_none hs, State.cancelActive_of_none hactive]
      exact h
    | some n =>
      rw [hs] at hactive
      rw [State.cancelActive_of_some hs, State.cancelActive_of_some hactive]
      exact h.update n fun _ ↦ rfl
  · -- whoever left its number in the slot has no call to be cancelled any more
    rw [State.cancelActive_of_none hnone, State.cancelActive_of_some hstale, h.update_stale hn]
    exact h

/-- Nobody finds a number in the slot to be its own that is not. -/
theorem active_iff (h : s.Mirrors k t) (n : Nat) :
    t.active = some (n + k) ↔ s.active = some n := by
  rcases h.active with hactive | ⟨hnone, m, hm, hstale⟩
  · rw [hactive, Option.map_eq_some_iff]
    constructor
    · rintro ⟨m, hs, hm⟩
      rw [hs, Nat.add_right_cancel hm]
    · intro hs
      exact ⟨n, hs, rfl⟩
  · rw [hnone, hstale]
    constructor
    · intro heq
      have hnumber := Option.some.inj heq
      omega
    · nofun

theorem clearSlot (h : s.Mirrors k t) (n : Nat) :
    (s.clearSlot n).Mirrors k (t.clearSlot (n + k)) := by
  rw [State.clearSlot, State.clearSlot]
  by_cases hs : s.active = some n
  · rw [if_pos hs, if_pos ((h.active_iff n).mpr hs)]
    exact ⟨h.nextNumber, h.calls, Or.inl rfl⟩
  · rw [if_neg hs, if_neg (mt (h.active_iff n).mp hs)]
    exact h

theorem start (h : s.Mirrors k t) (q : Question) :
    State.Mirrors k ⟨s.nextNumber + 1, s.active, s.calls ++ [⟨s.nextNumber, q, .numbered, false⟩]⟩
      ⟨t.nextNumber + 1, t.active, t.calls ++ [⟨t.nextNumber, q, .numbered, false⟩]⟩ where
  nextNumber := by rw [h.nextNumber, Nat.add_right_comm]
  calls := by
    rw [h.calls, h.nextNumber, List.map_append]
    rfl
  active := h.active

theorem register (h : s.Mirrors k t) (c : Call) :
    State.Mirrors k ⟨s.nextNumber, some c.number, s.calls ++ [c]⟩
      ⟨t.nextNumber, some (c.number + k), t.calls ++ [c.shift k]⟩ where
  nextNumber := h.nextNumber
  calls := by
    rw [h.calls, List.map_append]
    rfl
  active := Or.inl rfl

theorem trans {s₀ : State} {j : Nat} (h : s₀.Mirrors j s) (h' : s.Mirrors k t) :
    s₀.Mirrors (j + k) t where
  nextNumber := by rw [h'.nextNumber, h.nextNumber, Nat.add_assoc]
  calls := by
    rw [h'.calls, h.calls, List.map_map]
    refine List.map_congr_left fun c _ ↦ ?_
    exact congrArg (Call.mk · c.question c.stage c.cancelled) (Nat.add_assoc _ _ _)
  active := by
    rcases h.active with hactive | ⟨hnone, n, hn, hstale⟩ <;>
      rcases h'.active with hactive' | ⟨hnone', n', hn', hstale'⟩
    · left
      rw [hactive', hactive, Option.map_map]
      exact congrArg (Option.map · _) (funext fun n ↦ Nat.add_assoc n j k)
    · rw [hnone'] at hactive
      exact Or.inr ⟨Option.map_eq_none_iff.mp hactive.symm, n', Nat.lt_add_left j hn', hstale'⟩
    · rw [hstale] at hactive'
      exact Or.inr ⟨hnone, n + k, Nat.add_lt_add_right hn k, hactive'⟩
    · rw [hstale] at hnone'
      cases hnone'

end State.Mirrors

/-! ## Moves -/

/-- The second progress is the first one with larger numbers. -/
abbrev Progress.Mirrors (k : Nat) : Progress → Progress → Prop :=
  Machine.Progress.Rel (State.Mirrors k) (ModalCall.Shifted k)

/-- The second history is the first one with larger numbers. -/
abbrev History.Mirrors (k : Nat) : History → History → Prop :=
  Machine.History.Rel k (State.Mirrors k) (ModalCall.Shifted k)

theorem State.Mirrors.bind_call? (h : s.Mirrors k t) (n : Nat) {f g : Call → Option Progress}
    (hfg : ∀ c, s.call? n = some c → Option.Rel (Progress.Mirrors k) (f c) (g (c.shift k))) :
    Option.Rel (Progress.Mirrors k) (s.call? n >>= f) (t.call? (n + k) >>= g) := by
  rw [h.call?]
  exact rel_map_bind hfg

/-- **A move** is mirrored by the same move with a larger number. -/
theorem step_mirrors (h : s.Mirrors k t) (m : Move) :
    Option.Rel (Progress.Mirrors k) (step s m) (step t (m.shift k)) := by
  cases m with
  | start q => exact .some ⟨h.start q, .nil, rfl⟩
  | register n =>
    refine h.bind_call? n fun c hc ↦ rel_guard Iff.rfl <| .some ⟨?_, .nil, rfl⟩
    have hn : c.number = n := State.number_of_call? hc
    subst hn
    exact (h.remove c.number).cancelActive.register { c with stage := .queued }
  | mount n found =>
    refine h.bind_call? n fun c hc ↦ rel_guard ?_ <| .some
      ⟨h.advance n _, shifted_setup c found, rfl⟩
    rw [h.viewIsFree]
    rfl
  | giveUp n =>
    exact h.bind_call? n fun c hc ↦ rel_guard Iff.rfl <| .some ⟨h.advance n _, .nil, rfl⟩
  | decide n d =>
    exact h.bind_call? n fun c hc ↦ rel_guard Iff.rfl <| .some
      ⟨h.advance n _, .cons (.decided n d) (shifted_teardown n), rfl⟩
  | yield n =>
    exact h.bind_call? n fun c hc ↦ rel_guard Iff.rfl <| .some
      ⟨h.advance n _, shifted_teardown n, rfl⟩
  | finish n =>
    refine h.bind_call? n fun c hc ↦ ?_
    obtain ⟨number, question, stage, cancelled⟩ := c
    cases stage with
    | numbered | queued | shown => exact .none
    | leaving answer => exact .some ⟨(h.remove n).clearSlot n, .nil, rfl⟩
  | drop n =>
    refine h.bind_call? n fun c hc ↦ .some ⟨h.remove n, ?_, rfl⟩
    have hstage : (c.shift k).stage = c.stage := rfl
    rw [hstage]
    split
    · exact shifted_teardown n
    · exact .nil

theorem Steps.exists_call {m : Move} {p : Progress} (hsteps : Steps s m p)
    (hm : m.caller? = some n) : ∃ c, s.call? n = some c := by
  cases hsteps with
  | start q => cases hm
  | register hc | finish hc | drop hc =>
    obtain rfl := Option.some.inj hm
    exact ⟨_, hc⟩
  | advance hc hadvances =>
    obtain rfl := Option.some.inj (hadvances.caller?.symm.trans hm)
    exact ⟨_, hc⟩

/-- **A prompt does the same** whatever the numbers of its calls. -/
theorem shifts (k : Nat) :
    Machine.Shifts renumbering k (State.Mirrors k) (ModalCall.Shifted k) where
  nextNumber s t hst := hst.nextNumber
  isIdle s t hst := by
    change t.calls = [] ↔ s.calls = []
    rw [hst.calls, List.map_eq_nil_iff]
  step s t m hst := step_mirrors hst m
  le_caller s t m p n hst hp hm := by
    obtain ⟨c, hc⟩ := (steps_of_step hp).exists_call hm
    rw [← State.number_of_call? hc]
    exact hst.le_number (List.mem_of_find?_eq_some hc)

/-! ## A prompt without calls -/

/-- No call is pending or ever will be that has the number in the active slot, or a larger one than
the next. -/
theorem active_lt_nextNumber {moves : List Move} {h : History} (hrun : run .initial moves = some h)
    (hactive : h.state.active = some n) : n < h.state.nextNumber := by
  have hlast := (slot_run hrun).last n hactive
  have hregister : .register n ∈ moves := mem_registered_iff.mp (List.mem_of_getLast? hlast)
  exact (tracks_run hrun).lt_nextNumber (mem_own_iff.mpr ⟨hregister, rfl⟩)

/-- When all calls have ended, a prompt mirrors one that has not been used. -/
theorem mirrors_of_run {moves : List Move} {h : History} (hrun : run .initial moves = some h)
    (hended : h.state.calls = []) : State.Mirrors h.state.nextNumber .initial h.state where
  nextNumber := (Nat.zero_add _).symm
  calls := hended
  active := by
    cases hactive : h.state.active with
    | none => exact Or.inl rfl
    | some n => exact Or.inr ⟨rfl, n, active_lt_nextNumber hrun hactive, rfl⟩

/-- The prompt does whatever a prompt does that has not been used, with larger numbers, and it does
nothing else. -/
structure State.LikeFresh (s : State) : Prop where
  mirrors : ∀ moves : List Move, Option.Rel (History.Mirrors s.nextNumber) (run .initial moves)
    (run s (moves.map (Move.shift s.nextNumber)))
  only : ∀ (moves : List Move) (h : History), run s moves = some h →
    ∃ moves₀ : List Move, moves = moves₀.map (Move.shift s.nextNumber)

theorem likeFresh_of_run {moves : List Move} {h : History} (hrun : run .initial moves = some h)
    (hended : h.state.calls = []) : h.state.LikeFresh where
  mirrors := (shifts _).run_rel (mirrors_of_run hrun hended)
  only _ _ hlater := (shifts _).exists_moves_of_run (mirrors_of_run hrun hended) hlater

/-! ## One call after another -/

/-- What came of a call on a prompt, from its beginning to its end, when no other call is pending at
its end. -/
abbrev Asks (s : State) (q : Question) (h : History) : Prop := machine.Asks s (.start q) h

theorem Asks.mirrored {q : Question} {h : History} (hasks : Asks s q h) (hst : s.Mirrors k t) :
    ∃ h', Asks t q h' ∧ h.Mirrors k h' :=
  Machine.Asks.mirrored hasks rfl (shifts k) hst

theorem Asks.mirrors {q : Question} {h' : History} (hasks : Asks t q h') (hst : s.Mirrors k t) :
    ∃ h, Asks s q h ∧ h.Mirrors k h' :=
  Machine.Asks.mirrors hasks rfl (shifts k) hst

theorem Asks.exists_mirrors {q : Question} {h' : History} (hasks : Asks t q h')
    (ht : State.Mirrors k .initial t) : ∃ j, State.Mirrors j .initial h'.state := by
  obtain ⟨h, ⟨moves, hrun, -, hended⟩, hh⟩ := hasks.mirrors ht
  exact ⟨_, (mirrors_of_run hrun hended).trans hh.state⟩

/-- The first thing that the view of a prompt is told is to remove what is left in the document. -/
theorem head?_calls_of_run {moves : List Move} {h : History} (hrun : run .initial moves = some h) :
    ∀ c ∈ h.calls.head?, c.2 = .removeExisting := by
  obtain ⟨visits, hvisits⟩ := visits_run hrun
  intro c hc
  rw [hvisits.calls] at hc
  cases visits with
  | nil => cases hc
  | cons v rest =>
    obtain rfl := Option.some.inj hc
    rfl

theorem Asks.head?_calls {q : Question} {h' : History} (hasks : Asks t q h')
    (ht : State.Mirrors k .initial t) : ∀ c ∈ h'.calls.head?, c.2 = .removeExisting := by
  obtain ⟨h, ⟨moves, hrun, -, -⟩, hh⟩ := hasks.mirrors ht
  have hfirst := head?_calls_of_run hrun
  have hcalls := hh.calls
  intro c hc
  generalize h.calls = calls at hfirst hcalls
  generalize h'.calls = calls' at hcalls hc
  cases hcalls with
  | nil => cases hc
  | @cons c₀ _ _ _ hshifted _ =>
    obtain rfl := Option.some.inj hc
    have hremove := hshifted.2
    rw [hfirst c₀ rfl] at hremove
    exact hremove.eq_removeExisting

end Confirmation

end PasskeyCeremony
