import PasskeyCeremony.Text.Case.Table

/-!
# Lowercase

Full lowercase mapping of a text. Labels that differ in case only name the same passkey, and
switches in the settings are read without regard to case; both compare lowercased texts.

Two mappings are not one character to one character. Capital I with a dot above becomes two
characters, and capital sigma has a final form, chosen when a cased letter comes before it and none
after it, the case-ignorable characters in between not counting. On ASCII the mapping is the
expected one (`lower_ascii`), so a name made of ASCII characters is lowered letter by letter.
-/

namespace PasskeyCeremony.Text

namespace Case

/-- Membership in a list of closed intervals of code points. -/
def inIntervals (table : List (Nat × Nat)) (c : Char) : Bool :=
  table.any fun r ↦ r.1 ≤ c.toNat && c.toNat ≤ r.2

/-- The letter has case (case-ignorable letters aside). -/
def isCased (c : Char) : Bool := inIntervals casedIntervals c

/-- The character does not take part in the search for a neighbouring cased letter. -/
def isIgnorable (c : Char) : Bool := inIntervals ignorableIntervals c

/-- One entry of the mapping table, if it applies to the code point. -/
def mapEntry (n : Nat) : Nat × Nat × Nat × Nat → Option Nat
  | (first, last, step, target) =>
    if first ≤ n && n ≤ last && (n - first) % step == 0 then some (target + (n - first)) else none

/-- Lowercase of one character, the sigma aside. -/
def lowerChar (c : Char) : List Char :=
  if c.toNat < 0x80 then [c.toLower]
  else if c.toNat == 0x130 then ['i', Char.ofNat 0x307]
  else match lowerIntervals.findSome? (mapEntry c.toNat) with
    | some n => [Char.ofNat n]
    | none => [c]

/-- The first character that is not case-ignorable is a cased letter. -/
def meetsCased (cs : List Char) : Bool :=
  match cs.dropWhile isIgnorable with
  | c :: _ => isCased c
  | [] => false

def sigma : Char := Char.ofNat 0x3A3

/-- Lowercase of a capital sigma between the characters before it, nearest first, and those after
it. -/
def lowerSigma (before after : List Char) : Char :=
  if meetsCased before && !meetsCased after then Char.ofNat 0x3C2 else Char.ofNat 0x3C3

/-- Lowercase of what is left of a text, of which `before` has been read, nearest first. -/
def lowerFrom (before : List Char) : List Char → List Char
  | [] => []
  | c :: rest =>
    (if c = sigma then [lowerSigma before rest] else lowerChar c) ++ lowerFrom (c :: before) rest

/-- Lowercase of a text. -/
def lower (cs : List Char) : List Char := lowerFrom [] cs

theorem lowerChar_ascii {c : Char} (h : c.toNat < 0x80) : lowerChar c = [c.toLower] := by
  simp [lowerChar, h]

theorem lowerFrom_ascii {cs : List Char} (h : ∀ c ∈ cs, c.toNat < 0x80) (before : List Char) :
    lowerFrom before cs = cs.map Char.toLower := by
  induction cs generalizing before with
  | nil => rfl
  | cons c rest ih =>
    have hc : c.toNat < 0x80 := h c List.mem_cons_self
    have hs : c ≠ sigma := by
      rintro rfl
      exact absurd hc (by decide)
    simp [lowerFrom, hs, lowerChar_ascii hc, ih fun d hd ↦ h d (List.mem_cons_of_mem _ hd)]

/-- An ASCII text is lowered letter by letter. -/
theorem lower_ascii {cs : List Char} (h : ∀ c ∈ cs, c.toNat < 0x80) :
    lower cs = cs.map Char.toLower := lowerFrom_ascii h []

end Case

def toLower (s : String) : String := String.ofList (Case.lower s.toList)

end PasskeyCeremony.Text
