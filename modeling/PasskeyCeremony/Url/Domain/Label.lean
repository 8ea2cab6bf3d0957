import PasskeyCeremony.Text.Case
import PasskeyCeremony.Text.Normal
import PasskeyCeremony.Text.Ranges
import PasskeyCeremony.Url.Domain.Table

/-!
# Labels of domain names

What a label of a domain name may look like. Before a name is looked up its characters are mapped:
capital letters to small ones, and variants of a character to the character itself; some are left
out. A label then holds mapped characters only, in composed form, and does not begin with a mark.
The two joiners may stand only where they make a difference. If a name has letters written from
right to left, each of its labels has one direction.
-/

namespace PasskeyCeremony.Url.Domain

open Text (Ranges.Entry Ranges.read Ranges.contains Ranges.image?)

/-! ## Mapping -/

/-- Characters mapped to one other. -/
def mappedToOne : List Ranges.Entry := Ranges.read Table.mappedToOne

/-- Characters mapped to several others. -/
def mappedToSeveral : List Ranges.Entry := Ranges.read Table.mappedToSeveral

/-- Characters that are left out. -/
def ignored : List Ranges.Entry := Ranges.read Table.ignored

/-- Characters that may stand in a name, or are mapped to others that may. -/
def allowed : List Ranges.Entry := Ranges.read Table.allowed

/-- What a character is mapped to; nothing where it may not stand in a name. -/
def map? (c : Char) : Option (List Char) :=
  if c.toNat < 0x80 then some [c.toLower]
  else if Ranges.contains ignored c then some []
  else if !Ranges.contains allowed c then none
  else
    (Ranges.image? mappedToOne c).orElse fun _ ↦
    (Ranges.image? mappedToSeveral c).orElse fun _ ↦ some (Text.Case.lowerChar c)

def map (cs : List Char) : Option (List Char) :=
  (cs.mapM map?).map fun parts ↦ Text.Normal.normalize parts.flatten

/-! ## Joiners -/

/-- Marks that take no room of their own. -/
def nonspacingMarks : List Ranges.Entry := Ranges.read Table.nonspacingMarks

/-- Marks that take room. -/
def spacingMarks : List Ranges.Entry := Ranges.read Table.spacingMarks

/-- Letters that join on both sides. -/
def joiningBoth : List Ranges.Entry := Ranges.read Table.joiningBoth

/-- Letters that join on the left side only. -/
def joiningLeft : List Ranges.Entry := Ranges.read Table.joiningLeft

/-- Letters that join on the right side only. -/
def joiningRight : List Ranges.Entry := Ranges.read Table.joiningRight

def isMark (c : Char) : Bool := Ranges.contains nonspacingMarks c || Ranges.contains spacingMarks c

/-- A mark that silences the vowel of its consonant. -/
def isVirama (c : Char) : Bool := Text.Normal.combiningClass c == 9

/-- The character that keeps letters apart. -/
def nonJoiner : Char := Char.ofNat 0x200C

/-- The character that brings letters together. -/
def joiner : Char := Char.ofNat 0x200D

/-- The nearest character that is no mark is in one of two tables. -/
def meets (a b : List Ranges.Entry) (cs : List Char) : Bool :=
  match cs.dropWhile (Ranges.contains nonspacingMarks) with
  | c :: _ => Ranges.contains a c || Ranges.contains b c
  | [] => false

/-- The joiners in what is left of a label make a difference; the characters before stand with the
last one first. -/
def joinersMatter (before : List Char) : List Char → Bool
  | [] => true
  | c :: rest =>
    let afterVirama := before.head?.any isVirama
    let ok :=
      if c = joiner then afterVirama
      else if c = nonJoiner then
        afterVirama || (meets joiningLeft joiningBoth before && meets joiningRight joiningBoth rest)
      else true
    ok && joinersMatter (c :: before) rest

/-! ## Direction -/

/-- How a character behaves in a text of mixed directions. -/
inductive Direction where
  | leftToRight
  | rightToLeft
  | europeanNumber
  | arabicNumber
  /-- It takes the direction of what is around it. -/
  | neutral
  /-- It goes with the character before it. -/
  | mark
  /-- It separates texts. -/
  | separator
  deriving DecidableEq, Repr

/-- Letters written from right to left. -/
def rightToLeft : List Ranges.Entry := Ranges.read Table.rightToLeft

/-- Digits that stand among them. -/
def arabicNumbers : List Ranges.Entry := Ranges.read Table.arabicNumbers

/-- Digits that stand among letters of either direction. -/
def europeanNumbers : List Ranges.Entry := Ranges.read Table.europeanNumbers

/-- Signs that stand among letters of either direction. -/
def neutralSigns : List Ranges.Entry := Ranges.read Table.neutral

/-- Characters that separate texts. -/
def separators : List Ranges.Entry := Ranges.read Table.separating

def direction (c : Char) : Direction :=
  if Ranges.contains rightToLeft c then .rightToLeft
  else if Ranges.contains arabicNumbers c then .arabicNumber
  else if Ranges.contains europeanNumbers c then .europeanNumber
  else if Ranges.contains nonspacingMarks c then .mark
  else if Ranges.contains neutralSigns c then .neutral
  else if Ranges.contains separators c then .separator
  else .leftToRight

/-- A label makes its name one with letters from right to left. -/
def isBidirectional (label : List Char) : Bool :=
  label.any fun c ↦ direction c = .rightToLeft || direction c = .arabicNumber

def lastDirection? (ds : List Direction) : Option Direction :=
  (ds.reverse.dropWhile (· = .mark)).head?

/-- The label has one direction. -/
def hasOneDirection (label : List Char) : Bool :=
  let ds := label.map direction
  match ds with
  | [] => true
  | .rightToLeft :: _ =>
    ds.all (fun d ↦ d ≠ .leftToRight ∧ d ≠ .separator) &&
    (lastDirection? ds).any (fun d ↦
      d = .rightToLeft ∨ d = .europeanNumber ∨ d = .arabicNumber) &&
    !(ds.any (· = .europeanNumber) && ds.any (· = .arabicNumber))
  | .leftToRight :: _ =>
    ds.all (fun d ↦ d ≠ .rightToLeft ∧ d ≠ .arabicNumber ∧ d ≠ .separator) &&
    (lastDirection? ds).any (fun d ↦ d = .leftToRight ∨ d = .europeanNumber)
  | _ => false

/-! ## Labels -/

/-- The label is what its own mapping gives, does not begin with a mark, and has joiners only where
they matter. -/
def isLabel (label : List Char) : Bool :=
  label.all (fun c ↦ map? c = some [c]) && Text.Normal.normalize label = label &&
    !label.head?.any isMark && joinersMatter [] label

end PasskeyCeremony.Url.Domain
