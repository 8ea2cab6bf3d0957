import PasskeyCeremony.Text.Normal.Table
import PasskeyCeremony.Text.Ranges

/-!
# Composed texts

Many characters can be written in several ways, as one character or as a letter with marks after it.
The composed form of a text is the same for all of them: characters are decomposed as far as they
go, marks after a letter are put into the order of their classes, and then each mark, if nothing
stands in its way, is composed with the letter where there is a character for the two. Syllables of
the Korean script are composed of their letters by arithmetic.
-/

namespace PasskeyCeremony.Text.Normal

/-! ## Korean syllables -/

/-- The first syllable. -/
def syllables : Nat := 0xAC00

/-- How many syllables there are. -/
def syllableCount : Nat := 11172

/-- The first of the leading consonants. -/
def leading : Nat := 0x1100

/-- The first of the vowels. -/
def vowels : Nat := 0x1161

/-- One before the first of the trailing consonants. -/
def trailing : Nat := 0x11A7

/-- The letters of a syllable. -/
def syllableLetters? (c : Char) : Option (List Char) :=
  let i := c.toNat - syllables
  if c.toNat < syllables ∨ syllableCount ≤ i then none
  else
    let two := [Char.ofNat (leading + i / 588), Char.ofNat (vowels + i % 588 / 28)]
    some (if i % 28 = 0 then two else two ++ [Char.ofNat (trailing + i % 28)])

/-- The syllable of a consonant and a vowel, or of a syllable without a trailing consonant and
one. -/
def syllable? (a b : Char) : Option Char :=
  let l := a.toNat - leading
  let v := b.toNat - vowels
  let s := a.toNat - syllables
  let t := b.toNat - trailing
  if leading ≤ a.toNat ∧ l < 19 ∧ vowels ≤ b.toNat ∧ v < 21 then
    some (Char.ofNat (syllables + (l * 21 + v) * 28))
  else if syllables ≤ a.toNat ∧ s < syllableCount ∧ s % 28 = 0 ∧ trailing < b.toNat ∧ t < 28 then
    some (Char.ofNat (a.toNat + t))
  else none

/-! ## Tables -/

/-- Characters that stand for one other character. -/
def singletons : List Ranges.Entry := Ranges.read Table.singletons

/-- Characters that stand for two others. -/
def pairs : List Ranges.Entry := Ranges.read Table.pairs

/-- Those of them that are not composed again. -/
def excluded : List Ranges.Entry := Ranges.read Table.excluded

/-- The combining classes. -/
def classes : List Ranges.Entry := Ranges.read Table.classes

def combiningClass (c : Char) : Nat :=
  if c.toNat < 0x300 then 0 else (Ranges.number? classes c).getD 0

/-- The character that stands for two others. -/
def composed? (a b : Char) : Option Char :=
  (syllable? a b).orElse fun _ ↦
    (pairs.find? fun e ↦
      e.numbers = [a.toNat, b.toNat] ∧ (Ranges.find? excluded e.first).isNone).map
      (Char.ofNat ·.first)

/-! ## The composed form -/

/-- A character decomposed; at most so many steps. -/
def decomposeChar : Nat → Char → List Char
  | 0, c => [c]
  | n + 1, c =>
    if c.toNat < 0x80 then [c]
    else
      match (syllableLetters? c).orElse fun _ ↦
          (Ranges.image? singletons c).orElse fun _ ↦ Ranges.image? pairs c with
      | some cs => cs.flatMap (decomposeChar n)
      | none => [c]

/-- No character takes more steps than this. -/
def maxSteps : Nat := 8

/-- Put a mark behind those whose class is not greater. The marks stand with the last one first. -/
def insertMark (c : Char) : List Char → List Char
  | [] => [c]
  | d :: rest =>
    if 0 < combiningClass c ∧ combiningClass c < combiningClass d then d :: insertMark c rest
    else c :: d :: rest

def decompose (cs : List Char) : List Char :=
  ((cs.flatMap (decomposeChar maxSteps)).foldl (fun before c ↦ insertMark c before) []).reverse

/-- A mark stands between a letter and a character that keeps the two apart. -/
def isBlocked (marks : List Char) (c : Char) : Bool :=
  match marks with
  | [] => false
  | d :: _ => combiningClass c ≤ combiningClass d

/-- Compose what is left of a text with the letter before it, behind which there are marks, the last
one first. -/
def compose (letter : Option Char) (marks : List Char) : List Char → List Char
  | [] => letter.toList ++ marks.reverse
  | c :: rest =>
    match letter with
    | none =>
      if combiningClass c = 0 then marks.reverse ++ compose (some c) [] rest
      else compose none (c :: marks) rest
    | some l =>
      match if isBlocked marks c then none else composed? l c with
      | some both => compose (some both) marks rest
      | none =>
        if combiningClass c = 0 then l :: (marks.reverse ++ compose (some c) [] rest)
        else compose (some l) (c :: marks) rest

/-- The composed form of a text. -/
def normalize (cs : List Char) : List Char :=
  if cs.all (·.toNat < 0x80) then cs else compose none [] (decompose cs)

end PasskeyCeremony.Text.Normal
