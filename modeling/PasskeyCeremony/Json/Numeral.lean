import PasskeyCeremony.Binary64.Shortest
import PasskeyCeremony.Json.Basic
import PasskeyCeremony.Text.Numeral

/-!
# Numbers in JSON text

Reading keeps at most 64 bits of the digits. The digits are taken one by one as long as the number
they make stays below `2 ^ 64`. The first digit of the whole part that does not fit closes the whole
part, and every further digit of it counts as a power of ten; digits of the fraction are taken on
from there, and the first one that does not fit closes the number. A whole part alone that fits is
an integer, apart from minus zero and from negative values beneath `-2 ^ 63`. Everything else is
the significand converted to a floating-point number and then scaled by a power of ten, each step
rounded, and an error if it overflows.

A floating-point number is written with the fewest digits that read back, positionally from `1e-5`
up to below `1e16` and always with a fraction there, otherwise with one digit before the point and
a signed exponent.
-/

namespace PasskeyCeremony.Json

open Text (isDigit digitValue digitsValue)

namespace Number

/-! ## Reading -/

/-- A significand stays below this bound. -/
def significandBound : Nat := Nat.pow 2 64

/-- Take digits as long as the significand fits: the new significand and the digits that remain. -/
def takeDigits (significand : Nat) : List Char → Nat × List Char
  | [] => (significand, [])
  | c :: rest =>
    let next := 10 * significand + digitValue c
    if next < significandBound then takeDigits next rest else (significand, c :: rest)

/-- An exponent beyond this bound decides the number without being computed. -/
def exponentBound : Nat := Nat.pow 2 31

/-- The significand, scaled by a power of ten. -/
def scaled? (negative : Bool) (significand : Nat) (power : Int) : Option Number := do
  let f ← Binary64.ofQuotient? negative significand 1
  let r ← f.scaleByTen? 3 power
  return .double r

def ofInteger? (negative : Bool) (digits : List Char) : Option Number :=
  match takeDigits 0 digits with
  | (n, []) =>
    if !negative then some (.integer n)
    else if 0 < n ∧ n ≤ Nat.pow 2 63 then some (.integer (-n))
    else scaled? true n 0
  | (n, left) => scaled? negative n left.length

/-- A number with a fraction, an exponent or both. The power is that of the exponent part. -/
def ofParts? (negative : Bool) (whole fraction : List Char) (power : Int) : Option Number :=
  let (n, left) := takeDigits 0 whole
  let (m, dropped) := takeDigits n fraction
  let own : Int := left.length - (fraction.length - dropped.length : Nat)
  if exponentBound ≤ power.natAbs then
    -- only a zero survives a huge power, and nothing survives a tiny one
    if m ≠ 0 ∧ 0 < power then none else some (.double (.zero negative))
  else scaled? negative m (own + power)

/-- The exponent part, if there is one: its sign, its digits and what follows. -/
def exponentPart? : List Char → Option (Option (Bool × List Char) × List Char)
  | c :: rest =>
    if c = 'e' ∨ c = 'E' then
      let (negative, digits) := match rest with
        | '-' :: r => (true, r)
        | '+' :: r => (false, r)
        | r => (false, r)
      let ds := digits.takeWhile isDigit
      if ds.isEmpty then none else some (some (negative, ds), digits.dropWhile isDigit)
    else some (none, c :: rest)
  | [] => some (none, [])

/-- The fraction part, if there is one: its digits and what follows. -/
def fractionPart? : List Char → Option (Option (List Char) × List Char)
  | '.' :: rest =>
    let ds := rest.takeWhile isDigit
    if ds.isEmpty then none else some (some ds, rest.dropWhile isDigit)
  | cs => some (none, cs)

/-- The whole part: digits without a leading zero, unless zero is all of it. -/
def wholePart? (cs : List Char) : Option (List Char × List Char) :=
  match cs.takeWhile isDigit with
  | [] => none
  | '0' :: _ :: _ => none
  | ds => some (ds, cs.dropWhile isDigit)

/-- The power that an exponent part stands for. -/
def powerOf : Option (Bool × List Char) → Int
  | none => 0
  | some (negative, ds) => if negative then -(digitsValue ds : Int) else digitsValue ds

/-- A number at the start of a text that does not begin with a minus sign. -/
def readMagnitude? (negative : Bool) (cs : List Char) : Option (Number × List Char) := do
  let (whole, rest) ← wholePart? cs
  let (fraction, rest) ← fractionPart? rest
  let (exponent, rest) ← exponentPart? rest
  let n ← match fraction, exponent with
    | none, none => ofInteger? negative whole
    | _, _ => ofParts? negative whole (fraction.getD []) (powerOf exponent)
  return (n, rest)

/-- A number at the start of a text, and what follows it. -/
def read? : List Char → Option (Number × List Char)
  | '-' :: rest => readMagnitude? true rest
  | cs => readMagnitude? false cs

/-! ## Writing -/

/-- The exponents, in scientific form, that are written positionally. -/
def isPositional (e : Int) : Bool := -5 ≤ e && e < 16

/-- A decimal in positional form, with at least one digit on either side of the point. -/
def writePositional (digits : List Char) (power : Int) : List Char :=
  let point := digits.length + power
  if 0 ≤ power then digits ++ List.replicate power.toNat '0' ++ ['.', '0']
  else if 0 < point then digits.take point.toNat ++ '.' :: digits.drop point.toNat
  else '0' :: '.' :: (List.replicate (-point).toNat '0' ++ digits)

/-- A decimal with one digit before the point and an exponent `e`. -/
def writeScientific (digits : List Char) (e : Int) : List Char :=
  let mantissa := match digits with
    | d :: [] => [d]
    | d :: rest => d :: '.' :: rest
    | [] => []
  mantissa ++ 'e' :: (if e < 0 then '-' else '+') :: (toString e.natAbs).toList

def writeDouble (x : Binary64) : List Char :=
  let magnitude :=
    if x.isZero then ['0', '.', '0']
    else
      let d := x.shortest
      let digits := (toString d.digits).toList
      let e := digits.length + d.power - 1
      if isPositional e then writePositional digits d.power else writeScientific digits e
  if x.negative then '-' :: magnitude else magnitude

def write : Number → List Char
  | .integer n => (toString n).toList
  | .double x => writeDouble x

end Number

end PasskeyCeremony.Json
