import PasskeyCeremony.Base64.Basic

/-!
# Bringing Base64 into its unpadded URL-safe form

The two characters in which the alphabets differ are exchanged and the padding at the end is left
out. A text that is in the URL-safe form already is not changed, whatever it is otherwise, so the
repair can be applied again without harm (`repair_repair`).
-/

namespace PasskeyCeremony.Base64

/-- One character of the standard alphabet in the URL-safe one. -/
def repairChar (c : Char) : Char :=
  if c = '+' then '-' else if c = '/' then '_' else c

/-- Leave out the equals signs at the end. -/
def dropPadding (cs : List Char) : List Char := (cs.reverse.dropWhile (· == '=')).reverse

/-- The text in the unpadded URL-safe form. -/
def repair (cs : List Char) : List Char := dropPadding (cs.map repairChar)

/-- The text is free of what sets the other forms apart. -/
def IsRepaired (cs : List Char) : Prop := '+' ∉ cs ∧ '/' ∉ cs ∧ cs.getLast? ≠ some '='

private theorem head?_dropWhile_ne {p : Char → Bool} {c : Char} (hc : p c = true)
    (cs : List Char) : (cs.dropWhile p).head? ≠ some c := by
  induction cs with
  | nil => simp
  | cons d rest ih =>
    by_cases h : p d = true
    · simpa [List.dropWhile_cons, h] using ih
    · simp only [List.dropWhile_cons, h, Bool.false_eq_true, if_false, List.head?_cons, ne_eq,
        Option.some.injEq]
      rintro rfl
      exact h hc

theorem getLast?_dropPadding_ne (cs : List Char) : (dropPadding cs).getLast? ≠ some '=' := by
  rw [dropPadding, List.getLast?_reverse]
  exact head?_dropWhile_ne (by decide) _

theorem mem_of_mem_dropPadding {c : Char} {cs : List Char} (h : c ∈ dropPadding cs) : c ∈ cs := by
  rw [dropPadding, List.mem_reverse] at h
  exact List.mem_reverse.1 ((List.dropWhile_suffix _).subset h)

theorem repairChar_ne_plus (c : Char) : repairChar c ≠ '+' := by
  unfold repairChar
  split
  · decide
  · split
    · decide
    · assumption

theorem repairChar_ne_slash (c : Char) : repairChar c ≠ '/' := by
  unfold repairChar
  split
  · decide
  · split
    · decide
    · assumption

theorem isRepaired_repair (cs : List Char) : IsRepaired (repair cs) := by
  refine ⟨fun h ↦ ?_, fun h ↦ ?_, getLast?_dropPadding_ne _⟩
  · obtain ⟨c, _, hc⟩ := List.mem_map.1 (mem_of_mem_dropPadding h)
    exact repairChar_ne_plus c hc
  · obtain ⟨c, _, hc⟩ := List.mem_map.1 (mem_of_mem_dropPadding h)
    exact repairChar_ne_slash c hc

theorem repair_of_isRepaired {cs : List Char} (h : IsRepaired cs) : repair cs = cs := by
  obtain ⟨hp, hs, hl⟩ := h
  have hmap : cs.map repairChar = cs := by
    refine (List.map_congr_left fun c hc ↦ ?_).trans (List.map_id cs)
    have h1 : c ≠ '+' := fun e ↦ hp (e ▸ hc)
    have h2 : c ≠ '/' := fun e ↦ hs (e ▸ hc)
    simp [repairChar, h1, h2]
  rw [repair, hmap, dropPadding]
  cases hr : cs.reverse with
  | nil => simpa using hr.symm
  | cons d rest =>
    have hd : d ≠ '=' := by
      rintro rfl
      apply hl
      rw [← List.head?_reverse, hr, List.head?_cons]
    have : (d == '=') = false := by simpa using hd
    rw [List.dropWhile_cons, this]
    simpa using congrArg List.reverse hr.symm

/-- Repairing twice is repairing once. -/
theorem repair_repair (cs : List Char) : repair (repair cs) = repair cs :=
  repair_of_isRepaired (isRepaired_repair cs)

end PasskeyCeremony.Base64
