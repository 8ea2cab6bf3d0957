import Mathlib.Data.List.TakeWhile
import PasskeyCeremony.Text.Blank

/-!
# The ends of a text

Leaving out characters at an end changes nothing where there are none of the kind, and a trimmed
text is such a text at both of its ends: what is left at its start has not been touched by trimming
its end. So what trimming leaves is the core of the text, and a text has one core only
(`Chars.trim_eq_iff`).
-/

namespace PasskeyCeremony.Text

variable {p : Char → Bool} {cs ds : List Char}

theorem takeWhile_eq_self (h : ∀ c ∈ cs, p c = true) : cs.takeWhile p = cs := by
  rw [← List.append_nil cs, List.takeWhile_append_of_pos h, List.takeWhile_nil]

theorem dropWhile_eq_nil (h : ∀ c ∈ cs, p c = true) : cs.dropWhile p = [] := by
  rw [← List.append_nil cs, List.dropWhile_append_of_pos h, List.dropWhile_nil]

theorem dropWhile_eq_self (h : ∀ c ∈ cs.head?, p c = false) : cs.dropWhile p = cs := by
  cases cs with
  | nil => rfl
  | cons c cs =>
    refine List.dropWhile_cons_of_neg ?_
    rw [h c rfl]
    exact Bool.false_ne_true

theorem dropWhile_eq_self_of_isPrefix (h : ds <+: cs.dropWhile p) : ds.dropWhile p = ds := by
  refine dropWhile_eq_self fun c hc ↦ ?_
  have hhead := List.head?_dropWhile_not p cs
  obtain ⟨rest, hrest⟩ := h
  rw [← hrest, List.head?_append, Option.mem_def.mp hc] at hhead
  exact hhead

/-! ## Trimming -/

/-- A text is a core between blanks, and the core neither begins nor ends with a blank. -/
structure HasCore (cs core : List Char) : Prop where
  between : ∃ before after, cs = before ++ core ++ after ∧ (∀ c ∈ before, isBlank c = true) ∧
    ∀ c ∈ after, isBlank c = true
  head : ∀ c ∈ core.head?, isBlank c = false
  last : ∀ c ∈ core.getLast?, isBlank c = false

namespace Chars

theorem trimEnd_isPrefix (cs : List Char) : trimEnd cs <+: cs := by
  have hsuffix := List.reverse_prefix.mpr (List.dropWhile_suffix (l := cs.reverse) isBlank)
  rwa [List.reverse_reverse] at hsuffix

theorem trimEnd_trimEnd (cs : List Char) : trimEnd (trimEnd cs) = trimEnd cs := by
  rw [trimEnd, trimEnd, List.reverse_reverse, dropWhile_eq_self_of_isPrefix (List.prefix_refl _)]

theorem trim_trim (cs : List Char) : trim (trim cs) = trim cs := by
  have hstart : trimStart (trim cs) = trim cs :=
    dropWhile_eq_self_of_isPrefix (trimEnd_isPrefix (trimStart cs))
  rw [trim, hstart, trim, trimEnd_trimEnd]

theorem length_trim_le (cs : List Char) : (trim cs).length ≤ cs.length := by
  have hend := (trimEnd_isPrefix (trimStart cs)).length_le
  have hstart := (List.dropWhile_suffix (l := cs) isBlank).length_le
  exact Nat.le_trans hend hstart

theorem trim_eq_nil_iff {cs : List Char} : trim cs = [] ↔ cs.all isBlank = true := by
  have hend : ∀ ds : List Char, trimEnd ds = [] ↔ ∀ c ∈ ds, isBlank c = true := by
    intro ds
    rw [trimEnd, List.reverse_eq_nil_iff, List.dropWhile_eq_nil_iff]
    simp only [List.mem_reverse]
  rw [trim, hend, trimStart, List.all_eq_true]
  cases hstart : cs.dropWhile isBlank with
  | nil => exact ⟨fun _ ↦ List.dropWhile_eq_nil_iff.mp hstart, fun _ ↦ nofun⟩
  | cons c rest =>
    -- what is left begins with a character that is not blank
    have hfirst := List.head?_dropWhile_not isBlank cs
    rw [hstart] at hfirst
    constructor
    · intro h
      exact absurd (h c List.mem_cons_self) (by simpa using hfirst)
    · intro h
      rw [dropWhile_eq_nil h] at hstart
      cases hstart

theorem trimStart_append (hcs : ∀ c ∈ cs, isBlank c = true)
    (hds : ∀ c ∈ ds.head?, isBlank c = false) : trimStart (cs ++ ds) = ds := by
  rw [trimStart, List.dropWhile_append_of_pos hcs, dropWhile_eq_self hds]

theorem trimEnd_append (hcs : ∀ c ∈ cs.getLast?, isBlank c = false)
    (hds : ∀ c ∈ ds, isBlank c = true) : trimEnd (cs ++ ds) = cs := by
  have hlast : ∀ c ∈ cs.reverse.head?, isBlank c = false := by rwa [List.head?_reverse]
  have hblank : ∀ c ∈ ds.reverse, isBlank c = true := fun c hc ↦ hds c (List.mem_reverse.mp hc)
  rw [trimEnd, List.reverse_append, ← trimStart, trimStart_append hblank hlast,
    List.reverse_reverse]

theorem hasCore_trim (cs : List Char) : HasCore cs (trim cs) where
  between := by
    have hstart : ∀ c ∈ cs.takeWhile isBlank, isBlank c = true := fun _ ↦ List.mem_takeWhile_imp
    have hend : ∀ c ∈ ((trimStart cs).reverse.takeWhile isBlank).reverse, isBlank c = true :=
      fun _ hc ↦ List.mem_takeWhile_imp (List.mem_reverse.mp hc)
    refine ⟨_, _, ?_, hstart, hend⟩
    have hrest : trim cs ++ ((trimStart cs).reverse.takeWhile isBlank).reverse = trimStart cs := by
      rw [trim, trimEnd, ← List.reverse_append, List.takeWhile_append_dropWhile,
        List.reverse_reverse]
    rw [List.append_assoc, hrest, trimStart, List.takeWhile_append_dropWhile]
  head c hc := by
    have hhead := List.head?_dropWhile_not isBlank cs
    obtain ⟨rest, hrest⟩ := trimEnd_isPrefix (trimStart cs)
    rw [← trimStart, ← hrest, ← trim, List.head?_append, Option.mem_def.mp hc] at hhead
    exact hhead
  last c hc := by
    have hhead := List.head?_dropWhile_not isBlank (trimStart cs).reverse
    rw [trim, trimEnd, List.getLast?_reverse] at hc
    rw [Option.mem_def.mp hc] at hhead
    exact hhead

/-- Trimming gives the core of a text, and a text has no other core. -/
theorem trim_eq_iff : trim cs = ds ↔ HasCore cs ds := by
  constructor
  · rintro rfl
    exact hasCore_trim cs
  · rintro ⟨⟨before, after, rfl, hbefore, hafter⟩, hhead, hlast⟩
    cases ds with
    | nil =>
      rw [trim_eq_nil_iff, List.append_nil, List.all_append, List.all_eq_true.mpr hbefore,
        List.all_eq_true.mpr hafter]
      rfl
    | cons d ds =>
      have hstart : trimStart (before ++ (d :: ds) ++ after) = d :: ds ++ after := by
        rw [List.append_assoc]
        exact trimStart_append hbefore hhead
      rw [trim, hstart, trimEnd_append hlast hafter]

end Chars

theorem trim_trim (s : String) : trim (trim s) = trim s := by
  rw [trim, trim, String.toList_ofList, Chars.trim_trim]

theorem length_trim_le (s : String) : (trim s).length ≤ s.length := by
  rw [trim, String.length_ofList, ← String.length_toList]
  exact Chars.length_trim_le s.toList

end PasskeyCeremony.Text
