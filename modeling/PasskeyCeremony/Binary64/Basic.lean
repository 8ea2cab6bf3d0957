/-!
# Binary floating-point numbers of 64 bits

A finite number of the format is kept as its sign and two integers, `mantissa * 2 ^ exponent`, with
`mantissa < 2 ^ 53` and `-1074 ≤ exponent ≤ 971`. Nothing here goes through machine arithmetic:
every operation computes the exact rational result with natural numbers and rounds it once, to the
nearest number of the format and to the even one of two that are equally near. A result too large
for the format is `none`, never an infinity.

The only operations a number text needs are the conversion of an integer and multiplication or
division by a power of ten that is itself rounded to the format.
-/

namespace PasskeyCeremony

/-- A finite number `± mantissa * 2 ^ exponent`; zero has a sign too. -/
structure Binary64 where
  /-- The sign bit. -/
  negative : Bool
  /-- At most 53 bits. -/
  mantissa : Nat
  /-- The power of two, from `-1074` to `971`. -/
  exponent : Int
  deriving DecidableEq, Repr, Inhabited

namespace Binary64

/-- The quotient rounded to the nearest integer, and to the even one of two. -/
def roundQuotient (num den : Nat) : Nat :=
  let q := num / den
  let r := num % den
  if 2 * r < den then q else if den < 2 * r then q + 1 else q + q % 2

/-- `num / den * 2 ^ (-e)`, as a fraction of natural numbers. -/
def scaled (num den : Nat) (e : Int) : Nat × Nat :=
  if 0 ≤ e then (num, den * Nat.pow 2 e.toNat) else (num * Nat.pow 2 (-e).toNat, den)

def minExponent : Int := -1074

def maxExponent : Int := 971

/-- The exponent at which `num / den` has a mantissa of 53 bits, or the least one. -/
def exponentFor (num den : Nat) : Int :=
  let e : Int := num.log2 - den.log2
  -- the quotient lies between `2 ^ (e - 1)` and `2 ^ (e + 1)`
  let s := scaled num den e
  max (if s.1 < s.2 then e - 53 else e - 52) minExponent

/-- The magnitude of the format nearest to `num / den`, unless that is beyond the greatest one. -/
def nearest? (num den : Nat) : Option (Nat × Int) :=
  if num = 0 then some (0, minExponent)
  else
    let e := exponentFor num den
    let s := scaled num den e
    let m := roundQuotient s.1 s.2
    -- rounding up may need a bit more
    let r := if m = Nat.pow 2 53 then (Nat.pow 2 52, e + 1) else (m, e)
    if maxExponent < r.2 then none else some r

/-- The number of the given sign nearest to `num / den`. -/
def ofQuotient? (negative : Bool) (num den : Nat) : Option Binary64 :=
  (nearest? num den).map fun r ↦ ⟨negative, r.1, r.2⟩

def zero (negative : Bool) : Binary64 := ⟨negative, 0, minExponent⟩

def isZero (x : Binary64) : Bool := x.mantissa == 0

def fraction (x : Binary64) : Nat × Nat :=
  if 0 ≤ x.exponent then (x.mantissa * Nat.pow 2 x.exponent.toNat, 1)
  else (x.mantissa, Nat.pow 2 (-x.exponent).toNat)

/-- A power of ten, rounded to the format. -/
def powerOfTen? (k : Nat) : Option Binary64 := ofQuotient? false (Nat.pow 10 k) 1

/-- The product by a power of ten that has first been rounded to the format. -/
def timesPowerOfTen? (x : Binary64) (k : Nat) : Option Binary64 := do
  let p ← powerOfTen? k
  ofQuotient? x.negative (x.fraction.1 * p.fraction.1) (x.fraction.2 * p.fraction.2)

/-- The quotient by a power of ten that has first been rounded to the format. -/
def overPowerOfTen? (x : Binary64) (k : Nat) : Option Binary64 := do
  let p ← powerOfTen? k
  ofQuotient? x.negative (x.fraction.1 * p.fraction.2) (x.fraction.2 * p.fraction.1)

/-- The powers of ten that the format can hold. -/
def maxPowerOfTen : Nat := 308

/-- `x * 10 ^ k` for a power that the format can hold, by one multiplication or division. -/
def scaleOnce? (x : Binary64) (k : Int) : Option Binary64 :=
  if 0 ≤ k then x.timesPowerOfTen? k.natAbs else x.overPowerOfTen? k.natAbs

/-- `x * 10 ^ k`. Where the power is beneath the format, divisions by the largest power come first,
at most `n` of them, until the rest fits or nothing is left. -/
def scaleByTen? : Nat → Binary64 → Int → Option Binary64
  | 0, x, k => if k.natAbs ≤ maxPowerOfTen then x.scaleOnce? k else some (zero x.negative)
  | n + 1, x, k =>
    if k.natAbs ≤ maxPowerOfTen then x.scaleOnce? k
    else if x.isZero then some x
    else if 0 ≤ k then none
    else (x.overPowerOfTen? maxPowerOfTen).bind fun y ↦ scaleByTen? n y (k + maxPowerOfTen)

end Binary64

end PasskeyCeremony
