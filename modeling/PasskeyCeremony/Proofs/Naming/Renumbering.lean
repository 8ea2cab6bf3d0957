import PasskeyCeremony.Proofs.Naming.Moves

/-!
# A naming prompt that has been used

When its calls have ended, a naming prompt keeps nothing but the number of the next call, and the
view never hears of it. So such a prompt is a prompt that has not been used whose calls have larger
numbers (`State.shift`). A move with a larger number does with it what the move itself would have
done (`step_rel`), and a run tells the view and the callers the same things (`run_shift`).
-/

namespace PasskeyCeremony.Naming

open Machine (rel_guard rel_map_bind)

variable {s : State} {n k : Nat}

/-! ## Larger numbers -/

/-- The same call with a larger number. -/
def Call.shift (k : Nat) (c : Call) : Call := { c with number := c.number + k }

/-- The same move of another call. -/
def Move.renumber (f : Nat → Nat) : Move → Move
  | start inUse => start inUse
  | .show n found => .show (f n) found
  | settle n now => settle (f n) now
  | event n now e => event (f n) now e
  | drop n => drop (f n)

/-- Moves are given to other calls by their numbers. -/
def renumbering : machine.Renumbering where
  map := Move.renumber
  caller?_map f m := by cases m <;> rfl
  map_map f g m := by cases m <;> rfl
  map_eq_self f m hm := by cases m <;> simp_all [machine, Move.caller?, Move.renumber]

/-- The same move of a call with a larger number. -/
abbrev Move.shift (k : Nat) (m : Move) : Move := renumbering.shift k m

/-- The same state with larger numbers. -/
def State.shift (k : Nat) (s : State) : State := ⟨s.nextNumber + k, s.calls.map (Call.shift k)⟩

/-- The same history with larger numbers. What the view is told and how calls end is the same. -/
def History.shift (k : Nat) (h : History) : History :=
  ⟨h.state.shift k, h.calls.map (Prod.map (· + k) id), h.results.map (Prod.map (· + k) id)⟩

/-! ## States -/

namespace State

@[simp] theorem call?_shift (n : Nat) :
    (s.shift k).call? (n + k) = (s.call? n).map (Call.shift k) :=
  Calls.find?_shift (fun _ ↦ rfl) n

@[simp] theorem turn?_shift : (s.shift k).turn? = s.turn?.map (· + k) := by
  rw [turn?, shift, List.head?_map, Option.map_map, turn?, Option.map_map]
  rfl

theorem turn?_shift_iff : (s.shift k).turn? = some (n + k) ↔ s.turn? = some n := by
  rw [turn?_shift, Option.map_eq_some_iff]
  constructor
  · rintro ⟨m, hm, heq⟩
    rw [hm, Nat.add_right_cancel heq]
  · intro hn
    exact ⟨n, hn, rfl⟩

@[simp] theorem remove_shift (n : Nat) : (s.shift k).remove (n + k) = (s.remove n).shift k :=
  congrArg (State.mk _) (Calls.remove_shift (fun _ ↦ rfl) n)

@[simp] theorem setDialog_shift (n : Nat) (d : Dialog) :
    (s.shift k).setDialog (n + k) d = (s.setDialog n d).shift k :=
  congrArg (State.mk _) (Calls.update_shift (fun _ ↦ rfl) n fun _ ↦ rfl)

theorem start_shift (inUse : List String) :
    State.mk ((s.shift k).nextNumber + 1)
        ((s.shift k).calls ++ [⟨(s.shift k).nextNumber, inUse, none⟩]) =
      (State.mk (s.nextNumber + 1) (s.calls ++ [⟨s.nextNumber, inUse, none⟩])).shift k := by
  rw [shift, shift, Nat.add_right_comm, List.map_append]
  rfl

end State

/-! ## Moves and runs -/

/-- The second progress is the first one with larger numbers. -/
abbrev Progress.Shifted (k : Nat) : Progress → Progress → Prop :=
  Machine.Progress.Rel (fun s t ↦ t = s.shift k) Eq

theorem Progress.shifted {s t : State} (hst : t = s.shift k) (told : List NamingCall)
    (result : Option Result) : Shifted k ⟨s, told, result⟩ ⟨t, told, result⟩ :=
  ⟨hst, List.forall₂_refl told, rfl⟩

theorem bind_call?_shift {f g : Call → Option Progress}
    (hfg : ∀ c, Option.Rel (Progress.Shifted k) (f c) (g (c.shift k))) :
    Option.Rel (Progress.Shifted k) (s.call? n >>= f) ((s.shift k).call? (n + k) >>= g) := by
  rw [State.call?_shift]
  exact rel_map_bind fun c _ ↦ hfg c

/-- **A move** with a larger number does the same. -/
theorem step_rel (m : Move) :
    Option.Rel (Progress.Shifted k) (step s m) (step (s.shift k) (m.shift k)) := by
  cases m with
  | start inUse => exact .some (Progress.shifted (State.start_shift inUse) _ _)
  | «show» n found =>
    refine bind_call?_shift fun c ↦ rel_guard (and_congr State.turn?_shift_iff Iff.rfl) ?_
    cases found with
    | true => exact .some (Progress.shifted (State.setDialog_shift n _) _ _)
    | false => exact .some (Progress.shifted (State.remove_shift n) _ _)
  | settle n now =>
    refine bind_call?_shift fun c ↦ ?_
    obtain ⟨number, inUse, dialog⟩ := c
    cases dialog with
    | none => exact .none
    | some d =>
      exact rel_guard Iff.rfl (.some (Progress.shifted (State.setDialog_shift n _) _ _))
  | event n now e =>
    refine bind_call?_shift fun c ↦ ?_
    obtain ⟨number, inUse, dialog⟩ := c
    cases dialog with
    | none => exact .none
    | some d =>
      refine rel_guard Iff.rfl ?_
      rw [Call.shift]
      generalize d.handle inUse now e = r
      obtain ⟨shown, next⟩ := r
      cases next with
      | inl d' => exact .some (Progress.shifted (State.setDialog_shift n d') _ _)
      | inr ending => exact .some (Progress.shifted (State.remove_shift n) _ _)
  | drop n =>
    exact bind_call?_shift fun c ↦ .some (Progress.shifted (State.remove_shift n) _ _)

/-- **A prompt does the same** whatever the numbers of its calls. -/
theorem shifts (k : Nat) : Machine.Shifts renumbering k (fun s t ↦ t = s.shift k) Eq where
  nextNumber s t hst := hst ▸ rfl
  isIdle s t hst := hst ▸ List.map_eq_nil_iff
  step s t m hst := hst ▸ step_rel m
  le_caller s t m p n hst hp hm := by
    obtain ⟨c, hc⟩ := (steps_of_step hp).exists_call hm
    subst hst
    exact Calls.le_number_of_find? (fun _ ↦ rfl) hc

theorem History.eq_shift {h h' : History}
    (hh : Machine.History.Rel k (fun s t ↦ t = s.shift k) Eq h h') : h' = h.shift k := by
  have hcalls : h.calls.map (Prod.map (· + k) id) = h'.calls := by
    rw [← List.forall₂_eq_eq_eq, List.forall₂_map_left_iff]
    exact hh.calls.imp fun c c' hc ↦ Prod.ext hc.1.symm hc.2
  obtain ⟨state, calls, results⟩ := h'
  rw [shift, hcalls, ← hh.state, ← hh.results]

/-- **A run** with larger numbers tells the view and the callers the same. -/
theorem run_shift (moves : List Move) :
    run (s.shift k) (moves.map (Move.shift k)) = (run s moves).map (History.shift k) := by
  have hrel : Option.Rel _ (run s moves) (run (s.shift k) (moves.map (Move.shift k))) :=
    (shifts k).run_rel rfl moves
  generalize run s moves = x at hrel
  generalize run (s.shift k) (moves.map (Move.shift k)) = y at hrel
  cases hrel with
  | none => rfl
  | some hh => exact congrArg some (History.eq_shift hh)

/-! ## A prompt without calls -/

/-- When all calls have ended, a prompt is one that has not been used, but for its next number. -/
theorem State.eq_shift_initial (hended : s.calls = []) : s = State.initial.shift s.nextNumber := by
  obtain ⟨next, calls⟩ := s
  subst hended
  exact congrArg (State.mk · []) (Nat.zero_add next).symm

/-- The prompt tells the view and the callers whatever a prompt tells them that has not been used,
and it does nothing else. -/
structure State.LikeFresh (s : State) : Prop where
  same : ∀ moves : List Move, run s (moves.map (Move.shift s.nextNumber)) =
    (run .initial moves).map (History.shift s.nextNumber)
  only : ∀ (moves : List Move) (h : History), run s moves = some h →
    ∃ moves₀ : List Move, moves = moves₀.map (Move.shift s.nextNumber)

/-- When all calls have ended, a prompt is like one that has not been used. -/
theorem likeFresh_of_ended (hended : s.calls = []) : s.LikeFresh where
  same moves := by
    have hrun := run_shift (k := s.nextNumber) (s := .initial) moves
    rwa [← State.eq_shift_initial hended] at hrun
  only moves h hrun :=
    (shifts _).exists_moves_of_run (State.eq_shift_initial hended) hrun

/-! ## One call after another -/

/-- What came of a call on a prompt, from its beginning to its end, when no other call is pending at
its end. -/
abbrev Asks (s : State) (inUse : List String) (h : History) : Prop :=
  machine.Asks s (.start inUse) h

theorem Asks.shift {inUse : List String} {h : History} (hasks : Asks s inUse h) (k : Nat) :
    Asks (s.shift k) inUse (h.shift k) := by
  obtain ⟨h', hasks', hh⟩ := Machine.Asks.mirrored hasks rfl (shifts k) rfl
  rwa [History.eq_shift hh] at hasks'

theorem Asks.exists_of_shift {inUse : List String} {h' : History}
    (hasks : Asks (s.shift k) inUse h') : ∃ h, Asks s inUse h ∧ h' = h.shift k := by
  obtain ⟨h, hasks₀, hh⟩ := Machine.Asks.mirrors hasks rfl (shifts k) rfl
  exact ⟨h, hasks₀, History.eq_shift hh⟩

end PasskeyCeremony.Naming
