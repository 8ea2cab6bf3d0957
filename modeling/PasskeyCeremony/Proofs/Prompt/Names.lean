import PasskeyCeremony.Page.Markup
import PasskeyCeremony.Proofs.Prompt.Rule

/-!
# Accepted names

What a text has to be like to come out of the check as a name. A name has no blanks at its ends, so
checking it again cannot shorten it, and its characters mean nothing to a reader of markup, so
escaping leaves it as it is. The check itself is a decision of the rule, and what it accepts it
accepts again (`validateName_decides`).
-/

namespace PasskeyCeremony

/-! ## The rule -/

/-- The text can be the name of a passkey beside the names in use. -/
structure IsName (inUse : List String) (name : String) : Prop where
  trimmed : Text.trim name = name
  ne_empty : name ≠ ""
  length_le : name.length ≤ maxNameLength
  isNameChar : ∀ c ∈ name.toList, isNameChar c = true
  unused : Text.toLower name ∉ inUse

/-- **What the check accepts** is a name. -/
theorem isName_of_validateName {inUse : List String} {text name : String}
    (h : validateName inUse text = .ok name) : IsName inUse name := by
  have hverdict := nameVerdict_validateName inUse text
  rw [h] at hverdict
  cases hverdict with
  | ok hname hlength hchars hunused =>
    constructor
    · exact Text.trim_trim text
    · exact hname
    · exact Nat.le_trans (Text.length_trim_le text) hlength
    · exact fun c hc ↦ isNameChar_iff.mpr (hchars c hc)
    · exact hunused

/-! ## Markup -/

namespace Page.Markup

theorem escapeChar_eq_self {c : Char} (h : isNameChar c = true) : escapeChar c = [c] := by
  have hne : ∀ d, isNameChar d = false → c ≠ d := by
    rintro d hd rfl
    rw [h] at hd
    cases hd
  rw [escapeChar, if_neg (hne _ (by decide)), if_neg (hne _ (by decide)),
    if_neg (hne _ (by decide)), if_neg (hne _ (by decide)), if_neg (hne _ (by decide))]

theorem escape_eq_self {cs : List Char} (h : ∀ c ∈ cs, isNameChar c = true) : escape cs = cs := by
  induction cs with
  | nil => rfl
  | cons c cs ih =>
    rw [escape, List.flatMap_cons, ← escape, escapeChar_eq_self (h c List.mem_cons_self),
      ih fun d hd ↦ h d (List.mem_cons_of_mem c hd), List.singleton_append]

/-- Escaping leaves a name as it is. -/
theorem escapeText_eq_self {inUse : List String} {name : String} (h : IsName inUse name) :
    escapeText name = name := by
  rw [escapeText, escape_eq_self h.isNameChar, String.ofList_toList]

end Page.Markup

/-! ## The check -/

/-- **The check decides the rule**: its results are the verdicts on the core of the text, whatever
the text is. A name that it accepts is accepted again as it is, has no character that escaping
changes, and is lowered like a text of ASCII. -/
theorem validateName_decides (inUse : List String) (text : String) :
    (∀ r, validateName inUse text = r ↔
      ∃ name, Text.HasCore text.toList name.toList ∧ NameVerdict inUse text name r) ∧
    ∀ name, validateName inUse text = .ok name →
      validateName inUse name = .ok name ∧
      (∀ c ∈ name.toList, Page.Markup.escapeChar c = [c]) ∧
      Text.toLower name = name.toLower := by
  refine ⟨fun r ↦ validateName_eq_iff, fun name hok ↦ ?_⟩
  have hname := isName_of_validateName hok
  have hallowed : ∀ c ∈ name.toList, IsAllowed c := fun c hc ↦
    isNameChar_iff.mp (hname.isNameChar c hc)
  have hcore : Text.HasCore name.toList name.toList := by
    have htrim := congrArg String.toList hname.trimmed
    rw [Text.trim, String.toList_ofList] at htrim
    exact Text.Chars.trim_eq_iff.mp htrim
  refine ⟨?_, ?_, toLower_of_isAllowed hallowed⟩
  · exact validateName_eq_iff.mpr
      ⟨name, hcore, .ok hname.ne_empty hname.length_le hallowed hname.unused⟩
  · exact fun c hc ↦ Page.Markup.escapeChar_eq_self (hname.isNameChar c hc)

/-- A name between two blanks that are not of ASCII is accepted, and accepted again without them. -/
theorem validateName_decides_between_blanks :
    validateName ["work"] "\u00a0Home key\u3000" = .ok "Home key" ∧
      validateName ["work"] "Home key" = .ok "Home key" := by
  have hok : validateName ["work"] "\u00a0Home key\u3000" = .ok "Home key" := by decide +kernel
  exact ⟨hok, ((validateName_decides _ _).2 _ hok).1⟩

/-- Blanks at the ends count for the length. -/
example :
    validateName [] (String.ofList ('a' :: List.replicate 50 ' ')) = .error (.tooLong 51) := by
  decide +kernel

end PasskeyCeremony
