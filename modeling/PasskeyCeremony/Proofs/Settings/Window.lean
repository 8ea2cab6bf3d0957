import PasskeyCeremony.Proofs.Text.Decimal
import PasskeyCeremony.Settings.Basic

/-!
# The window from the environment

What a value of the variable comes to is said here without the reader (`WindowVerdict`): the number
that the text denotes, where it is positive and fits 64 bits, and half a second otherwise, with one
warning unless the variable is not set. There is one verdict on each value (`WindowVerdict.unique`),
and it is the window that the settings have (`ofEnvironment_window`).
-/

namespace PasskeyCeremony.Settings

variable {value : Option String} {n m : Nat} {log log' : List Log.Line}

/-- The warning about a text that is no window. -/
def windowWarning (text : String) : Log.Line :=
  ⟨.warn, "Invalid conditional mediation timeout: " ++ text ++ ". Using default 500ms"⟩

/-- What a value of the variable comes to: the window, and what is logged about it. -/
inductive WindowVerdict : Option String → Nat → List Log.Line → Prop where
  /-- Half a second where the variable is not set. -/
  | unset : WindowVerdict none 500 []
  /-- The number that the text denotes, where it is positive and fits 64 bits. -/
  | taken {text : String} {n : Nat} (hn : Text.Denotes text.toList n) (hpos : 1 ≤ n)
      (hlast : n ≤ Nat.pow 2 64 - 1) : WindowVerdict (some text) n []
  /-- Half a second for any other text, which is warned about. -/
  | refused {text : String}
      (hn : ∀ n, Text.Denotes text.toList n → n = 0 ∨ Nat.pow 2 64 ≤ n) :
    WindowVerdict (some text) 500 [windowWarning text]

theorem WindowVerdict.unique (h : WindowVerdict value n log) (h' : WindowVerdict value m log') :
    n = m ∧ log = log' := by
  have hbound : 0 < Nat.pow 2 64 := Nat.pow_pos (by decide)
  cases h with
  | unset =>
    cases h'
    exact ⟨rfl, rfl⟩
  | taken hn hpos hlast =>
    cases h' with
    | taken hm => exact ⟨hn.unique hm, rfl⟩
    | refused hm =>
      have := hm n hn
      omega
  | refused hn =>
    cases h' with
    | taken hm hpos hlast =>
      have := hn m hm
      omega
    | refused => exact ⟨rfl, rfl⟩

theorem windowWarning_eq (text : String) : windowWarning text = ⟨.warn,
    s!"Invalid conditional mediation timeout: {text}. Using default {defaultWindow}ms"⟩ := by
  have hdefault :
      ". Using default 500ms" = ". Using default " ++ toString defaultWindow ++ "ms" := by decide
  rw [windowWarning, hdefault, ← String.append_assoc, ← String.append_assoc]
  rfl

/-- The window is the number that is read, where it is positive, and the default where it is not. -/
theorem window_some (text : String) :
    window (some text) = ((Text.unsignedBelow? windowBound text.toList).filter (0 < ·)).elim
      ⟨500, [windowWarning text]⟩ .quiet := by
  rw [window.eq_def, windowWarning_eq]
  dsimp only
  cases Text.unsignedBelow? windowBound text.toList with
  | none => rfl
  | some n =>
    cases n with
    | zero => rfl
    | succ n => rfl

theorem windowVerdict_window (value : Option String) :
    WindowVerdict value (window value).value (window value).log := by
  cases value with
  | none => exact .unset
  | some text =>
    rw [window_some]
    cases hread : (Text.unsignedBelow? windowBound text.toList).filter (0 < ·) with
    | none =>
      refine .refused fun n hn ↦ ?_
      rw [Option.filter_eq_none_iff] at hread
      by_contra hne
      rw [not_or, Nat.not_le] at hne
      have hpos := hread n (Text.unsignedBelow?_eq_some_iff.mpr ⟨hn, hne.2⟩)
      exact hpos (decide_eq_true (Nat.pos_of_ne_zero hne.1))
    | some n =>
      obtain ⟨hn, hpos⟩ := Option.filter_eq_some_iff.mp hread
      obtain ⟨hn, hlt⟩ := Text.unsignedBelow?_eq_some_iff.mp hn
      exact .taken hn (of_decide_eq_true hpos) (Nat.le_sub_one_of_lt hlt)

theorem WindowVerdict.lt (h : WindowVerdict value n log) : n < Nat.pow 2 64 := by
  have hbound : 500 < Nat.pow 2 64 := by decide
  cases h with
  | unset => exact hbound
  | taken _ _ hlast => exact Nat.lt_of_le_sub_one (Nat.zero_lt_of_lt hbound) hlast
  | refused => exact hbound

/-- A reader that does not leave 64 bits at any digit finds the same window. -/
theorem value_window_eq (value : Option String) :
    (window value).value = ((value.bind fun text ↦ Text.stepwise? (Nat.pow 2 64) text.toList).filter
      (0 < ·)).getD 500 := by
  cases value with
  | none => rfl
  | some text =>
    rw [window_some, Option.bind_some, Text.stepwise?_eq (by decide), windowBound]
    cases (Text.unsignedBelow? (Nat.pow 2 64) text.toList).filter (0 < ·) with
    | none => rfl
    | some n => rfl

/-- **The window from the environment.** Whatever the variable is set to, the window and what is
logged about it are the verdict on its value, and no other. So the window is never zero and fits 64
bits; and it is the window of a reader that does not leave 64 bits at any digit. -/
theorem ofEnvironment_window (env : Environment) :
    let value := env.lookup "PASSKEY_CONDITIONAL_TIMEOUT_MS"
    let window := (ofEnvironment env).value.conditionalWindow
    ∃ warnings, (ofEnvironment env).log =
        (mediationSwitch (env.lookup "PASSKEY_CONDITIONAL_MEDIATION")).log ++ warnings ∧
      (∀ n log, WindowVerdict value n log ↔ window = n ∧ warnings = log) ∧
      0 < window ∧ window < Nat.pow 2 64 ∧
      window = ((value.bind fun text ↦ Text.stepwise? (Nat.pow 2 64) text.toList).filter
        (0 < ·)).getD 500 := by
  intro value
  have hverdict := windowVerdict_window value
  refine ⟨(window value).log, rfl, fun n log ↦ ⟨hverdict.unique, ?_⟩, window_pos value, hverdict.lt,
    value_window_eq value⟩
  rintro ⟨rfl, rfl⟩
  exact hverdict

/-- Zeros in front do not count, and the first number beyond 64 bits is refused. -/
example : (window (some "+00018446744073709551615")).value = 18446744073709551615 ∧
    (window (some "18446744073709551616")).value = 500 := by decide

end PasskeyCeremony.Settings
