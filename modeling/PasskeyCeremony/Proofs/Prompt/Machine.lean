import Mathlib.Data.List.Forall2
import Mathlib.Data.List.Induction
import Mathlib.Data.Option.Basic
import PasskeyCeremony.Prompt.Machine

/-!
# Runs of a prompt

What holds of every prompt that is given by its moves. A run is read from its beginning
(`run_cons`) or grows at its end, as it does in time (`run_induction`).

The numbers of calls are names, and a prompt that treats them as such does with larger numbers what
it does with the numbers themselves. This is said by a relation between states (`Shifts`): a move is
mirrored by the same move of a call with a larger number, and therefore a run by a run (`run_rel`),
and every run of the second state mirrors one of the first (`exists_moves_of_run`).
-/

namespace PasskeyCeremony.Machine

variable {σ μ ε ρ : Type} {M : Machine σ μ ε ρ} {s t : σ} {n k : Nat} {m : μ} {moves : List μ}
  {p : Progress σ ε ρ} {h h' : History σ ε ρ}

/-! ## Any number of moves -/

theorem number_of_caller? (M : Machine σ μ ε ρ) (hm : M.caller? m = some n) : M.number s m = n := by
  rw [number, hm, Option.getD_some]

theorem run_cons :
    M.run s (m :: moves) = some h ↔
      ∃ p rest, M.step s m = some p ∧ M.run p.state moves = some rest ∧
        h = ⟨rest.state, p.calls.map (M.number s m, ·) ++ rest.calls,
          (p.result.map (M.number s m, ·)).toList ++ rest.results⟩ := by
  rw [run]
  cases hp : M.step s m with
  | none => simp
  | some p => cases hrest : M.run p.state moves <;> simp [hrest, eq_comm]

/-- What came of moves and of one more. -/
def extend (M : Machine σ μ ε ρ) (h : History σ ε ρ) (m : μ) (p : Progress σ ε ρ) : History σ ε ρ :=
  ⟨p.state, h.calls ++ p.calls.map (M.number h.state m, ·),
    h.results ++ (p.result.map (M.number h.state m, ·)).toList⟩

theorem mem_calls_extend {c : ε} :
    (n, c) ∈ (M.extend h m p).calls ↔
      (n, c) ∈ h.calls ∨ (n = M.number h.state m ∧ c ∈ p.calls) := by
  rw [extend, List.mem_append, List.mem_map]
  grind

theorem mem_results_extend {r : ρ} :
    (n, r) ∈ (M.extend h m p).results ↔
      (n, r) ∈ h.results ∨ (n = M.number h.state m ∧ p.result = some r) := by
  rw [extend, List.mem_append, Option.mem_toList, Option.map_eq_some_iff]
  grind

theorem exists_of_run_append_singleton (hrun : M.run s (moves ++ [m]) = some h) :
    ∃ before p, M.run s moves = some before ∧ M.step before.state m = some p ∧
      h = M.extend before m p := by
  induction moves generalizing s h with
  | nil =>
    obtain ⟨p, rest, hp, hrest, rfl⟩ := run_cons.mp hrun
    obtain rfl := Option.some.inj hrest
    exact ⟨⟨s, [], []⟩, p, rfl, hp, by simp [extend]⟩
  | cons m' moves ih =>
    obtain ⟨p', rest, hp', hrest, rfl⟩ := run_cons.mp hrun
    obtain ⟨before, p, hbefore, hp, rfl⟩ := ih hrest
    refine ⟨_, p, run_cons.mpr ⟨p', before, hp', hbefore, rfl⟩, hp, ?_⟩
    simp only [extend, List.append_assoc]

/-- **Induction on the moves** made on a prompt that had not been used. -/
theorem run_induction {motive : List μ → History σ ε ρ → Prop} (nil : motive [] ⟨M.initial, [], []⟩)
    (snoc : ∀ moves h m p, M.run M.initial moves = some h → motive moves h →
      M.step h.state m = some p → motive (moves ++ [m]) (M.extend h m p))
    (hrun : M.run M.initial moves = some h) : motive moves h := by
  induction moves using List.reverseRecOn generalizing h with
  | nil =>
    obtain rfl := Option.some.inj hrun
    exact nil
  | append_singleton moves m ih =>
    obtain ⟨before, p, hbefore, hp, rfl⟩ := exists_of_run_append_singleton hrun
    exact snoc moves before m p hbefore (ih hbefore) hp

/-! ## Moves of other calls -/

/-- A way to give moves to other calls. A move with which a call begins has no caller and stays as
it is. -/
structure Renumbering (M : Machine σ μ ε ρ) where
  map : (Nat → Nat) → μ → μ
  caller?_map : ∀ f m, M.caller? (map f m) = (M.caller? m).map f
  map_map : ∀ f g m, map g (map f m) = map (g ∘ f) m
  map_eq_self : ∀ f m, (∀ n, M.caller? m = some n → f n = n) → map f m = m

namespace Renumbering

variable (r : M.Renumbering)

/-- The same move of a call with a larger number. -/
def shift (k : Nat) (m : μ) : μ := r.map (· + k) m

@[simp] theorem caller?_shift : M.caller? (r.shift k m) = (M.caller? m).map (· + k) :=
  r.caller?_map (· + k) m

theorem shift_of_start (hm : M.caller? m = none) : r.shift k m = m :=
  r.map_eq_self _ m fun _ hn ↦ nomatch hm.symm.trans hn

theorem eq_of_shift_eq {first : μ} (hfirst : M.caller? first = none) (h : r.shift k m = first) :
    m = first := by
  have hm : M.caller? m = none := by
    rw [← h, r.caller?_shift, Option.map_eq_none_iff] at hfirst
    exact hfirst
  rw [← h, r.shift_of_start hm]

theorem exists_shift (hm : ∀ n, M.caller? m = some n → k ≤ n) : ∃ m₀, m = r.shift k m₀ := by
  refine ⟨r.map (· - k) m, ?_⟩
  rw [shift, r.map_map, r.map_eq_self]
  intro n hn
  exact Nat.sub_add_cancel (hm n hn)

end Renumbering

/-! ## Larger numbers -/

/-- Two moves lead to related states, tell the view related things and end with the same result. -/
structure Progress.Rel (R : σ → σ → Prop) (E : ε → ε → Prop) (p q : Progress σ ε ρ) : Prop where
  state : R p.state q.state
  calls : List.Forall₂ E p.calls q.calls
  result : q.result = p.result

/-- The same came of two sequences of moves, with larger numbers in the second one. -/
structure History.Rel (k : Nat) (R : σ → σ → Prop) (E : ε → ε → Prop) (h h' : History σ ε ρ) :
    Prop where
  state : R h.state h'.state
  calls : List.Forall₂ (fun c c' ↦ c'.1 = c.1 + k ∧ E c.2 c'.2) h.calls h'.calls
  results : h'.results = h.results.map (Prod.map (· + k) id)

/-- Related states are the same up to the numbers of calls, which are larger by `k` in the second
one. -/
structure Shifts (r : M.Renumbering) (k : Nat) (R : σ → σ → Prop) (E : ε → ε → Prop) : Prop where
  nextNumber : ∀ s t, R s t → M.nextNumber t = M.nextNumber s + k
  isIdle : ∀ s t, R s t → (M.IsIdle t ↔ M.IsIdle s)
  step : ∀ s t m, R s t → Option.Rel (Progress.Rel R E) (M.step s m) (M.step t (r.shift k m))
  le_caller : ∀ s t m p n, R s t → M.step t m = some p → M.caller? m = some n → k ≤ n

theorem exists_of_rel_left {α β : Type} {R : α → β → Prop} {a : α} {y : Option β}
    (h : Option.Rel R (some a) y) : ∃ b, y = some b ∧ R a b := by
  cases h with
  | some hab => exact ⟨_, rfl, hab⟩

theorem exists_of_rel_right {α β : Type} {R : α → β → Prop} {x : Option α} {b : β}
    (h : Option.Rel R x (some b)) : ∃ a, x = some a ∧ R a b := by
  cases h with
  | some hab => exact ⟨_, rfl, hab⟩

theorem rel_bind {α β γ δ : Type} {R : α → β → Prop} {R' : γ → δ → Prop} {x : Option α}
    {y : Option β} {f : α → Option γ} {g : β → Option δ} (hxy : Option.Rel R x y)
    (hfg : ∀ a b, R a b → Option.Rel R' (f a) (g b)) : Option.Rel R' (x >>= f) (y >>= g) := by
  cases hxy with
  | none => exact .none
  | some hab => exact hfg _ _ hab

theorem rel_map_bind {α β γ δ : Type} {R : γ → δ → Prop} {x : Option α} {shift : α → β}
    {f : α → Option γ} {g : β → Option δ}
    (hfg : ∀ a, x = some a → Option.Rel R (f a) (g (shift a))) :
    Option.Rel R (x >>= f) (x.map shift >>= g) := by
  cases x with
  | none => exact .none
  | some a => exact hfg a rfl

theorem rel_guard {α β : Type} {R : α → β → Prop} {x : Option α} {y : Option β} {a b : Prop}
    [Decidable a] [Decidable b] (hab : b ↔ a) (hxy : Option.Rel R x y) :
    Option.Rel R ((guard a : Option Unit) >>= fun _ ↦ x)
      ((guard b : Option Unit) >>= fun _ ↦ y) := by
  by_cases ha : a
  · have hb := hab.mpr ha
    simp only [guard, if_pos ha, if_pos hb]
    exact hxy
  · have hb := mt hab.mp ha
    simp only [guard, if_neg ha, if_neg hb]
    exact .none

namespace Shifts

variable {r : M.Renumbering} {R : σ → σ → Prop} {E : ε → ε → Prop}

theorem number (hshifts : Shifts r k R E) (hst : R s t) (m : μ) :
    M.number t (r.shift k m) = M.number s m + k := by
  rw [Machine.number, r.caller?_shift, Machine.number, hshifts.nextNumber s t hst]
  cases M.caller? m <;> rfl

private theorem forall₂_numbered {calls calls' : List ε} (h : List.Forall₂ E calls calls')
    (n : Nat) :
    List.Forall₂ (fun c c' ↦ c'.1 = c.1 + k ∧ E c.2 c'.2)
      (calls.map (n, ·)) (calls'.map (n + k, ·)) := by
  rw [List.forall₂_map_left_iff, List.forall₂_map_right_iff]
  exact h.imp fun _ _ hcall ↦ ⟨rfl, hcall⟩

/-- **A run** is mirrored by the same run with larger numbers. -/
theorem run_rel (hshifts : Shifts r k R E) (hst : R s t) (moves : List μ) :
    Option.Rel (History.Rel k R E) (M.run s moves) (M.run t (moves.map (r.shift k))) := by
  induction moves generalizing s t with
  | nil => exact .some ⟨hst, .nil, rfl⟩
  | cons m moves ih =>
    rw [List.map_cons, run, run, hshifts.number hst m]
    refine rel_bind (hshifts.step s t m hst) fun p q hpq ↦ ?_
    refine rel_bind (ih hpq.state) fun rest rest' hrest ↦ .some ⟨hrest.state, ?_, ?_⟩
    · exact List.rel_append (forall₂_numbered hpq.calls _) hrest.calls
    · simp only [hpq.result, hrest.results, List.map_append]
      cases p.result <;> rfl

/-- Every run of the second state is one that mirrors a run of the first. -/
theorem exists_moves_of_run (hshifts : Shifts r k R E) (hst : R s t)
    (hrun : M.run t moves = some h') : ∃ moves₀ : List μ, moves = moves₀.map (r.shift k) := by
  induction moves generalizing s t h' with
  | nil => exact ⟨[], rfl⟩
  | cons m moves ih =>
    obtain ⟨q, rest, hq, hrest, -⟩ := run_cons.mp hrun
    obtain ⟨m₀, rfl⟩ := r.exists_shift (hshifts.le_caller s t m q · hst hq)
    obtain ⟨p, -, hpq⟩ := exists_of_rel_right (hq ▸ hshifts.step s t m₀ hst)
    obtain ⟨moves₀, rfl⟩ := ih hpq.state hrest
    exact ⟨m₀ :: moves₀, rfl⟩

end Shifts

/-! ## One call after another -/

/-- What came of a call, from its first move to its end, when no other call is pending at its
end. -/
def Asks (M : Machine σ μ ε ρ) (s : σ) (first : μ) (h : History σ ε ρ) : Prop :=
  ∃ moves, M.run s (first :: moves) = some h ∧
    (∀ m ∈ moves, M.caller? m = some (M.nextNumber s)) ∧ M.IsIdle h.state

namespace Asks

variable {r : M.Renumbering} {R : σ → σ → Prop} {E : ε → ε → Prop} {first : μ}

/-- A call on the first state is mirrored on the second. -/
theorem mirrored (hasks : M.Asks s first h) (hfirst : M.caller? first = none)
    (hshifts : Shifts r k R E) (hst : R s t) : ∃ h', M.Asks t first h' ∧ h.Rel k R E h' := by
  obtain ⟨moves, hrun, hcaller, hidle⟩ := hasks
  have hrel := hshifts.run_rel hst (first :: moves)
  rw [hrun, List.map_cons, r.shift_of_start hfirst] at hrel
  obtain ⟨h', hrun', hh⟩ := exists_of_rel_left hrel
  refine ⟨h', ⟨_, hrun', ?_, (hshifts.isIdle _ _ hh.state).mpr hidle⟩, hh⟩
  intro m hm
  obtain ⟨m₀, hm₀, rfl⟩ := List.mem_map.mp hm
  rw [r.caller?_shift, hcaller m₀ hm₀, hshifts.nextNumber s t hst]
  rfl

/-- A call on the second state mirrors one on the first. -/
theorem mirrors (hasks : M.Asks t first h') (hfirst : M.caller? first = none)
    (hshifts : Shifts r k R E) (hst : R s t) : ∃ h, M.Asks s first h ∧ h.Rel k R E h' := by
  obtain ⟨moves, hrun, hcaller, hidle⟩ := hasks
  obtain ⟨moves₀, hmoves⟩ := hshifts.exists_moves_of_run hst hrun
  obtain ⟨m₀, rest, rfl, hstart, rfl⟩ := List.map_eq_cons_iff.mp hmoves.symm
  obtain rfl := r.eq_of_shift_eq hfirst hstart
  have hrel := hshifts.run_rel hst (m₀ :: rest)
  rw [← hmoves, hrun] at hrel
  obtain ⟨h, hrun₀, hh⟩ := exists_of_rel_right hrel
  refine ⟨h, ⟨rest, hrun₀, ?_, (hshifts.isIdle _ _ hh.state).mp hidle⟩, hh⟩
  intro m hm
  have hshifted := hcaller _ (List.mem_map_of_mem hm)
  rw [r.caller?_shift, hshifts.nextNumber s t hst, Option.map_eq_some_iff] at hshifted
  obtain ⟨n, hn, heq⟩ := hshifted
  rw [hn, Nat.add_right_cancel heq]

end Asks

end PasskeyCeremony.Machine
