import Mathlib.Data.List.Induction
import PasskeyCeremony.Text.Numeral

/-!
# Decimal numerals, written and read

What a text denotes is said here without the reader: a numeral grows at its end by one digit at a
time (`IsNumeral`), and a text denotes the number of a numeral that it is, or is after a plus sign
(`Denotes`). The reader finds what a text denotes wherever the bound allows it
(`unsignedBelow?_eq_some_iff`).

The number is computed exactly before it is compared with the bound. A reader that has no room for
numbers beyond the bound, and gives up at the first digit that would lead there, comes to the same
(`stepwise?_eq`): a numeral never denotes less than what it begins with.

A number written in decimal is a numeral of the number, so it is read back, and it is the only
numeral of the number that has no zeros in front (`IsNumeral.eq_toDigits`).
-/

namespace PasskeyCeremony.Text

variable {bound m n d : Nat} {c : Char} {cs ds : List Char}

/-! ## Numerals -/

/-- A row of decimal digits and its number, the most significant digit first. -/
inductive IsNumeral : List Char → Nat → Prop where
  | digit {d : Nat} (hd : d < 10) : IsNumeral [d.digitChar] d
  | concat {cs : List Char} {n d : Nat} (hcs : IsNumeral cs n) (hd : d < 10) :
    IsNumeral (cs ++ [d.digitChar]) (10 * n + d)

/-- A text denotes the number of a numeral, which may stand after a plus sign. -/
def Denotes (cs : List Char) (n : Nat) : Prop :=
  ∃ ds, (cs = ds ∨ cs = '+' :: ds) ∧ IsNumeral ds n

theorem isDigit_eq (c : Char) : isDigit c = c.isDigit := rfl

theorem isDigit_digitChar (hd : d < 10) : isDigit d.digitChar = true := by
  rw [isDigit_eq, Nat.isDigit_digitChar, decide_eq_true hd]

theorem digitValue_digitChar (hd : d < 10) : digitValue d.digitChar = d :=
  Nat.toNat_digitChar_sub_48_of_lt_ten hd

theorem exists_eq_digitChar (h : isDigit c = true) : ∃ d < 10, c = d.digitChar := by
  rw [isDigit_eq, Char.isDigit_iff_toNat] at h
  have hfirst : '0'.toNat = 48 := rfl
  have hlast : '9'.toNat = 57 := rfl
  have hd : c.toNat - 48 < 10 := by omega
  refine ⟨c.toNat - 48, hd, Char.toNat_inj.mp ?_⟩
  rw [Nat.toNat_digitChar_of_lt_ten hd]
  omega

@[simp] theorem digitsValue_singleton (c : Char) : digitsValue [c] = digitValue c := Nat.zero_add _

@[simp] theorem digitsValue_concat (cs : List Char) (c : Char) :
    digitsValue (cs ++ [c]) = 10 * digitsValue cs + digitValue c := by
  rw [digitsValue, List.foldl_append]
  rfl

/-- Numerals are the rows of digits, and their numbers are computed digit by digit. -/
theorem isNumeral_iff :
    IsNumeral cs n ↔ cs ≠ [] ∧ (∀ c ∈ cs, isDigit c = true) ∧ digitsValue cs = n := by
  constructor
  · intro h
    induction h with
    | digit hd =>
      refine ⟨List.cons_ne_nil _ _, List.forall_mem_singleton.mpr (isDigit_digitChar hd), ?_⟩
      rw [digitsValue_singleton, digitValue_digitChar hd]
    | concat _ hd ih =>
      obtain ⟨-, hdigits, rfl⟩ := ih
      refine ⟨List.concat_ne_nil _ _, ?_, ?_⟩
      · rw [List.forall_mem_append, List.forall_mem_singleton]
        exact ⟨hdigits, isDigit_digitChar hd⟩
      · rw [digitsValue_concat, digitValue_digitChar hd]
  · rintro ⟨hne, hdigits, rfl⟩
    induction cs using List.reverseRecOn with
    | nil => exact absurd rfl hne
    | append_singleton cs c ih =>
      rw [List.forall_mem_append, List.forall_mem_singleton] at hdigits
      obtain ⟨d, hd, rfl⟩ := exists_eq_digitChar hdigits.2
      cases cs with
      | nil =>
        rw [List.nil_append, digitsValue_singleton, digitValue_digitChar hd]
        exact .digit hd
      | cons c cs =>
        rw [digitsValue_concat, digitValue_digitChar hd]
        exact .concat (ih (List.cons_ne_nil _ _) hdigits.1) hd

theorem IsNumeral.unique (h : IsNumeral cs n) (h' : IsNumeral cs m) : n = m :=
  (isNumeral_iff.mp h).2.2.symm.trans (isNumeral_iff.mp h').2.2

theorem IsNumeral.ne_plus (h : IsNumeral cs n) (ds : List Char) : cs ≠ '+' :: ds := by
  rintro rfl
  have hplus := (isNumeral_iff.mp h).2.1 '+' List.mem_cons_self
  exact absurd hplus (by decide)

/-! ## Reading -/

theorem eq_dropPlus_or (cs : List Char) : cs = dropPlus cs ∨ cs = '+' :: dropPlus cs := by
  unfold dropPlus
  split
  · exact Or.inr rfl
  · exact Or.inl rfl

theorem denotes_iff : Denotes cs n ↔ IsNumeral (dropPlus cs) n := by
  constructor
  · rintro ⟨ds, rfl | rfl, h⟩
    · rwa [dropPlus]
      exact h.ne_plus
    · exact h
  · exact fun h ↦ ⟨dropPlus cs, eq_dropPlus_or cs, h⟩

theorem Denotes.unique (h : Denotes cs n) (h' : Denotes cs m) : n = m :=
  (denotes_iff.mp h).unique (denotes_iff.mp h')

/-- The reader finds the number that a text denotes if it is below the bound, and no other. -/
theorem unsignedBelow?_eq_some_iff :
    unsignedBelow? bound cs = some n ↔ Denotes cs n ∧ n < bound := by
  have hrow : (dropPlus cs).isEmpty = false ∧ (dropPlus cs).all isDigit = true ↔
      dropPlus cs ≠ [] ∧ ∀ c ∈ dropPlus cs, isDigit c = true := by
    rw [List.isEmpty_eq_false_iff, List.all_eq_true]
  rw [denotes_iff, isNumeral_iff, ← and_assoc, ← hrow]
  simp only [unsignedBelow?, Option.ite_none_left_eq_some, Option.ite_none_right_eq_some,
    Option.some.injEq, Bool.or_eq_true, Bool.not_eq_true', not_or, Bool.not_eq_true,
    Bool.not_eq_false]
  constructor
  · rintro ⟨hdigits, hlt, rfl⟩
    exact ⟨⟨hdigits, rfl⟩, hlt⟩
  · rintro ⟨⟨hdigits, rfl⟩, hlt⟩
    exact ⟨hdigits, hlt, rfl⟩

/-- Append one digit to a number, unless that leads to the bound. -/
def appendDigit? (bound n : Nat) (c : Char) : Option Nat :=
  if isDigit c ∧ 10 * n + digitValue c < bound then some (10 * n + digitValue c) else none

/-- Read a text digit by digit and give up where the next digit leads to the bound. -/
def stepwise? (bound : Nat) (cs : List Char) : Option Nat :=
  if (dropPlus cs).isEmpty then none else (dropPlus cs).foldlM (appendDigit? bound) 0

theorem appendDigit?_eq_some_iff :
    appendDigit? bound m c = some n ↔
      isDigit c = true ∧ 10 * m + digitValue c = n ∧ n < bound := by
  rw [appendDigit?, Option.ite_none_right_eq_some, Option.some.injEq]
  constructor
  · rintro ⟨⟨hc, hlt⟩, rfl⟩
    exact ⟨hc, rfl, hlt⟩
  · rintro ⟨hc, rfl, hlt⟩
    exact ⟨⟨hc, hlt⟩, rfl⟩

theorem foldlM_appendDigit?_eq_some_iff (hbound : 0 < bound) :
    cs.foldlM (appendDigit? bound) 0 = some n ↔
      (∀ c ∈ cs, isDigit c = true) ∧ digitsValue cs = n ∧ n < bound := by
  induction cs using List.reverseRecOn generalizing n with
  | nil =>
    have hvalue : digitsValue [] = 0 := rfl
    rw [List.foldlM_nil, Option.pure_def, Option.some.injEq, hvalue]
    refine ⟨?_, fun h ↦ h.2.1⟩
    rintro rfl
    exact ⟨nofun, rfl, hbound⟩
  | append_singleton cs c ih =>
    rw [List.foldlM_append, List.forall_mem_append, List.forall_mem_singleton, digitsValue_concat]
    simp only [List.foldlM_cons, List.foldlM_nil, Option.bind_eq_bind, Option.bind_eq_some_iff, ih,
      Option.pure_def, Option.bind_fun_some, appendDigit?_eq_some_iff]
    constructor
    · rintro ⟨m, ⟨hcs, rfl, -⟩, hc, hn, hlt⟩
      exact ⟨⟨hcs, hc⟩, hn, hlt⟩
    · rintro ⟨⟨hcs, hc⟩, hn, hlt⟩
      exact ⟨_, ⟨hcs, rfl, by omega⟩, hc, hn, hlt⟩

/-- A reader without room for numbers beyond the bound comes to the same. -/
theorem stepwise?_eq (hbound : 0 < bound) : stepwise? bound cs = unsignedBelow? bound cs := by
  refine Option.ext fun n ↦ ?_
  rw [unsignedBelow?_eq_some_iff, denotes_iff, isNumeral_iff, stepwise?,
    Option.ite_none_left_eq_some, foldlM_appendDigit?_eq_some_iff hbound, List.isEmpty_iff]
  simp only [and_assoc, ne_eq]

/-! ## Numbers written in decimal -/

theorem isNumeral_toDigits (n : Nat) : IsNumeral (Nat.toDigits 10 n) n := by
  induction n using Nat.strongRecOn with
  | ind n ih =>
    rw [Nat.toDigits_eq_if (by decide)]
    split
    · rename_i hn
      exact .digit hn
    · have hlast : n % 10 < 10 := Nat.mod_lt n (by decide)
      have hrest := (ih (n / 10) (by omega)).concat hlast
      rwa [Nat.div_add_mod] at hrest

theorem digitsValue_toDigits (n : Nat) : digitsValue (Nat.toDigits 10 n) = n :=
  (isNumeral_iff.mp (isNumeral_toDigits n)).2.2

theorem eq_of_repr_eq (h : m.repr = n.repr) : m = n := by
  rw [← digitsValue_toDigits m, ← Nat.toList_repr, h, Nat.toList_repr, digitsValue_toDigits]

theorem unsignedBelow?_toDigits (h : n < bound) :
    unsignedBelow? bound (Nat.toDigits 10 n) = some n :=
  unsignedBelow?_eq_some_iff.mpr ⟨⟨_, Or.inl rfl, isNumeral_toDigits n⟩, h⟩

theorem eq_zero_of_toDigits_eq (h : Nat.toDigits 10 n = '0' :: cs) : n = 0 := by
  induction n using Nat.strongRecOn generalizing cs with
  | ind n ih =>
    rw [Nat.toDigits_eq_if (by decide)] at h
    split at h
    · exact Nat.digitChar_eq_zero.mp (List.cons.inj h).1
    · rename_i hn
      obtain ⟨c, rest, hrest⟩ := List.exists_cons_of_ne_nil (Nat.toDigits_ne_nil (n := n / 10))
      rw [hrest, List.cons_append, List.cons.injEq] at h
      have := ih (n / 10) (by omega) (h.1 ▸ hrest)
      omega

/-- The only numeral of a number without zeros in front is the number as it is written. -/
theorem IsNumeral.eq_toDigits (h : IsNumeral cs n) (hzero : ∀ c ds, cs ≠ '0' :: c :: ds) :
    cs = Nat.toDigits 10 n := by
  induction h with
  | digit hd => exact (Nat.toDigits_of_lt_base hd).symm
  | @concat cs n d hcs hd ih =>
    have hcs' : cs = Nat.toDigits 10 n := by
      refine ih fun c ds hcs ↦ ?_
      rw [hcs] at hzero
      exact hzero _ _ rfl
    have hn : 0 < n := by
      refine Nat.pos_of_ne_zero fun hn ↦ ?_
      rw [hcs', hn] at hzero
      exact hzero _ _ rfl
    rw [hcs', ← Nat.toDigits_of_lt_base hd, Nat.toDigits_append_toDigits (by decide) hn hd]

end PasskeyCeremony.Text
