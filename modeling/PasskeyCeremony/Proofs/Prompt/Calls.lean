/-!
# Lists of numbered calls

A prompt keeps its pending calls in a list and finds them by their numbers. What looking up a number
sees of a call that is left out, changed or added, and of calls whose numbers are all larger.
-/

namespace PasskeyCeremony.Calls

variable {γ : Type} {number : γ → Nat} {calls : List γ} {c : γ} {n k : Nat}

theorem number_of_find? (h : calls.find? (number · == n) = some c) : number c = n := by
  simpa using List.find?_some h

theorem find?_remove :
    (calls.filter fun c ↦ number c ≠ n).find? (number · == k) =
      if k = n then none else calls.find? (number · == k) := by
  rw [List.find?_filter]
  by_cases hk : k = n
  · subst hk
    rw [if_pos rfl, List.find?_eq_none]
    simp
  · rw [if_neg hk]
    congr 1
    funext c
    by_cases hc : number c = k <;> simp [hc, hk]

theorem find?_update (f : γ → γ) (hf : ∀ c, number (f c) = number c) :
    (calls.map fun c ↦ if number c = n then f c else c).find? (number · == k) =
      (calls.find? (number · == k)).map fun c ↦ if k = n then f c else c := by
  have hkept : ((number · == k) ∘ fun c ↦ if number c = n then f c else c) = (number · == k) := by
    funext c
    rw [Function.comp_apply]
    split <;> simp [hf]
  rw [List.find?_map, hkept]
  cases h : calls.find? (number · == k) with
  | none => rfl
  | some c =>
    have hnumber := number_of_find? h
    simp [hnumber]

theorem find?_append (hnew : calls.find? (number · == number c) = none) :
    (calls ++ [c]).find? (number · == k) =
      if k = number c then some c else calls.find? (number · == k) := by
  rw [List.find?_append]
  by_cases hk : k = number c
  · subst hk
    rw [hnew, if_pos rfl]
    simp
  · have hother : (number c == k) = false := by simpa using Ne.symm hk
    rw [List.find?_singleton, hother, if_neg hk]
    simp

/-! ## Larger numbers -/

section Shift

variable {shift : γ → γ} (hshift : ∀ c, number (shift c) = number c + k)
include hshift

theorem find?_shift (n : Nat) :
    (calls.map shift).find? (number · == n + k) = (calls.find? (number · == n)).map shift := by
  have hnumber : ((number · == n + k) ∘ shift) = (number · == n) := by
    funext c
    rw [Function.comp_apply, hshift, Bool.eq_iff_iff, beq_iff_eq, beq_iff_eq]
    exact Nat.add_right_cancel_iff
  rw [List.find?_map, hnumber]

theorem remove_shift (n : Nat) :
    (calls.map shift).filter (fun c ↦ number c ≠ n + k) =
      (calls.filter fun c ↦ number c ≠ n).map shift := by
  rw [List.filter_map]
  refine congrArg _ (List.filter_congr fun c _ ↦ ?_)
  rw [Function.comp_apply, decide_eq_decide, hshift]
  exact not_congr Nat.add_right_cancel_iff

theorem update_shift (n : Nat) {f : γ → γ} (hf : ∀ c, f (shift c) = shift (f c)) :
    (calls.map shift).map (fun c ↦ if number c = n + k then f c else c) =
      (calls.map fun c ↦ if number c = n then f c else c).map shift := by
  rw [List.map_map, List.map_map]
  refine List.map_congr_left fun c _ ↦ ?_
  rw [Function.comp_apply, Function.comp_apply, hshift]
  by_cases hc : number c = n
  · rw [if_pos hc, if_pos (congrArg (· + k) hc), hf]
  · rw [if_neg hc, if_neg fun heq ↦ hc (Nat.add_right_cancel heq)]

theorem le_number_of_find? (h : (calls.map shift).find? (number · == n) = some c) : k ≤ n := by
  obtain ⟨c₀, -, rfl⟩ := List.mem_map.mp (List.mem_of_find?_eq_some h)
  rw [← number_of_find? h, hshift]
  exact Nat.le_add_left k (number c₀)

end Shift

end PasskeyCeremony.Calls
