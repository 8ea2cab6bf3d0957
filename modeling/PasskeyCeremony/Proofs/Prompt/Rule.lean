import Mathlib.Logic.Basic
import PasskeyCeremony.Prompt.NameRule
import PasskeyCeremony.Proofs.Text.Ends

/-!
# The rule as a relation

What the rule for names says of a text is said here without the check: a name is the core of the
text, and of the four things that can be wrong with it the first one counts. Length is a matter of
the text as it was typed, everything else of its core, so each case of `NameVerdict` names the two
of them. The check finds the verdict (`nameVerdict_validateName`), and there is one verdict only
(`NameVerdict.unique`), so a result of the check is the same as a verdict on the core
(`validateName_eq_iff`).
-/

namespace PasskeyCeremony

variable {inUse : List String} {text name : String}

/-! ## Characters -/

/-- The rule allows letters and digits of ASCII, the space, the underscore and the hyphen. -/
def IsAllowed (c : Char) : Prop := c.isAlphanum = true ∨ c = ' ' ∨ c = '_' ∨ c = '-'

theorem isNameChar_iff {c : Char} : isNameChar c = true ↔ IsAllowed c := by
  have hlower : c.isLower = (decide ('a' ≤ c) && decide (c ≤ 'z')) := rfl
  have hupper : c.isUpper = (decide ('A' ≤ c) && decide (c ≤ 'Z')) := Bool.decide_and _ _
  have hdigit : c.isDigit = (decide ('0' ≤ c) && decide (c ≤ '9')) := rfl
  have halphanum : c.isAlphanum = (c.isUpper || c.isLower || c.isDigit) := rfl
  rw [isNameChar, ← hlower, ← hupper, ← hdigit, Bool.or_comm c.isLower, ← halphanum, IsAllowed]
  simp only [Bool.or_eq_true, beq_iff_eq, or_assoc]

theorem all_isNameChar_iff {cs : List Char} :
    cs.all isNameChar = true ↔ ∀ c ∈ cs, IsAllowed c := by
  simp only [List.all_eq_true, isNameChar_iff]

theorem IsAllowed.toNat_lt {c : Char} (h : IsAllowed c) : c.toNat < 0x80 := by
  rw [← isNameChar_iff, isNameChar] at h
  simp only [Bool.or_eq_true, Bool.and_eq_true, decide_eq_true_eq, beq_iff_eq, Char.le_def,
    UInt32.le_iff_toNat_le] at h
  have hz : 'z'.val.toNat = 122 := rfl
  have hZ : 'Z'.val.toNat = 90 := rfl
  have h9 : '9'.val.toNat = 57 := rfl
  rcases h with ((h | rfl) | rfl) | rfl
  · rw [Char.toNat]
    omega
  · decide
  · decide
  · decide

/-- Lowering a text of characters that names may hold is lowering its letters one by one. -/
theorem toLower_of_isAllowed (h : ∀ c ∈ name.toList, IsAllowed c) :
    Text.toLower name = name.toLower := by
  rw [Text.toLower, Text.Case.lower_ascii fun c hc ↦ (h c hc).toNat_lt, ← String.toList_map,
    String.ofList_toList]
  rfl

/-! ## Verdicts -/

/-- What the rule says of a text and its core. -/
inductive NameVerdict (inUse : List String) (text name : String) :
    Except NameFault String → Prop where
  | empty (hname : name = "") : NameVerdict inUse text name (.error .empty)
  | tooLong (hname : name ≠ "") (hlength : 50 < text.length) :
      NameVerdict inUse text name (.error (.tooLong text.length))
  | invalidCharacters (hname : name ≠ "") (hlength : text.length ≤ 50)
      (hchars : ¬∀ c ∈ name.toList, IsAllowed c) :
      NameVerdict inUse text name (.error .invalidCharacters)
  | duplicate (hname : name ≠ "") (hlength : text.length ≤ 50)
      (hchars : ∀ c ∈ name.toList, IsAllowed c) (hused : Text.toLower name ∈ inUse) :
      NameVerdict inUse text name (.error .duplicate)
  | ok (hname : name ≠ "") (hlength : text.length ≤ 50)
      (hchars : ∀ c ∈ name.toList, IsAllowed c) (hunused : Text.toLower name ∉ inUse) :
      NameVerdict inUse text name (.ok name)

/-- The rule says one thing of a text. -/
theorem NameVerdict.unique {r r' : Except NameFault String} (h : NameVerdict inUse text name r)
    (h' : NameVerdict inUse text name r') : r = r' := by
  -- two results of different kinds contradict each other in the first condition that they differ in
  cases h <;> cases h' <;> first | rfl | contradiction | omega

theorem nameVerdict_validateName (inUse : List String) (text : String) :
    NameVerdict inUse text (Text.trim text) (validateName inUse text) := by
  simp only [validateName, String.isEmpty_iff]
  split
  · rename_i hname
    exact .empty hname
  rename_i hname
  split
  · rename_i hlength
    exact .tooLong hname hlength
  rename_i hlength
  have hlength := Nat.le_of_not_lt hlength
  split
  · rename_i hchars
    rw [Bool.not_eq_true', ← Bool.not_eq_true, all_isNameChar_iff] at hchars
    exact .invalidCharacters hname hlength hchars
  rename_i hchars
  rw [Bool.not_eq_true', Bool.not_eq_false, all_isNameChar_iff] at hchars
  split
  · rename_i hused
    exact .duplicate hname hlength hchars hused
  · rename_i hunused
    exact .ok hname hlength hchars hunused

/-- A result of the check is a verdict on the core of the text. -/
theorem validateName_eq_iff {r : Except NameFault String} :
    validateName inUse text = r ↔
      ∃ name, Text.HasCore text.toList name.toList ∧ NameVerdict inUse text name r := by
  constructor
  · rintro rfl
    refine ⟨Text.trim text, ?_, nameVerdict_validateName inUse text⟩
    rw [← Text.Chars.trim_eq_iff, Text.trim, String.toList_ofList]
  · rintro ⟨name, hcore, hverdict⟩
    have hname : Text.trim text = name := by
      rw [Text.trim, Text.Chars.trim_eq_iff.mpr hcore, String.ofList_toList]
    subst hname
    exact (nameVerdict_validateName inUse text).unique hverdict

end PasskeyCeremony
