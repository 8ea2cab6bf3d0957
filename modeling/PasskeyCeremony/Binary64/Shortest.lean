import PasskeyCeremony.Binary64.Basic

/-!
# The shortest decimal that reads back

Among the decimals that are nearer to a number than to its neighbours in the format, the one with
the fewest digits, and of those the nearest. A decimal exactly half-way between two neighbours reads
back as the one with the even mantissa, so the ends of the interval belong to it exactly then.

The search runs over the grids `10 ^ k * ℤ` from coarse to fine. On each grid only the two points
next to the number can be the nearest one in the interval, and the first grid with a point inside
has the fewest digits, so seventeen grids at most are looked at below the number's own magnitude.
-/

namespace PasskeyCeremony.Binary64

/-- A decimal `digits * 10 ^ power`. -/
structure Decimal where
  /-- The digits, read as one number. -/
  digits : Nat
  /-- The power of ten of the last digit. -/
  power : Int
  deriving DecidableEq, Repr

/-- The decimals that read back as a number, in quarters of its unit in the last place. -/
structure Interval where
  /-- The lower end. -/
  low : Nat
  /-- The number itself. -/
  middle : Nat
  /-- The upper end. -/
  high : Nat
  /-- The ends belong to the interval. -/
  closed : Bool

/-- The interval of a positive number. Below a power of two the neighbour is half as far away. -/
def interval (x : Binary64) : Interval where
  low := 4 * x.mantissa - if x.mantissa = Nat.pow 2 52 ∧ minExponent < x.exponent then 1 else 2
  middle := 4 * x.mantissa
  high := 4 * x.mantissa + 2
  closed := x.mantissa % 2 == 0

/-- The grid point `d * 10 ^ k`, written as `d * a / b` quarters, lies in the interval. -/
def Interval.holds (i : Interval) (a b d : Nat) : Bool :=
  if i.closed then i.low * b ≤ d * a && d * a ≤ i.high * b
  else i.low * b < d * a && d * a < i.high * b

/-- The better of the two grid points around the number, if one is in the interval. -/
def Interval.pick? (i : Interval) (a b : Nat) : Option Nat :=
  let d := i.middle * b / a
  let below := i.middle * b - d * a
  let above := (d + 1) * a - i.middle * b
  match i.holds a b d, i.holds a b (d + 1) with
  | true, true => some (if below < above then d else if above < below then d + 1 else d + d % 2)
  | true, false => some d
  | false, true => some (d + 1)
  | false, false => none

/-- One step of the grid `10 ^ k`, in quarters of a unit `2 ^ e`, as a fraction. -/
def gridStep (e k : Int) : Nat × Nat :=
  (Nat.pow 10 k.toNat * Nat.pow 2 (2 - e).toNat,
    Nat.pow 10 (-k).toNat * Nat.pow 2 (e - 2).toNat)

/-- Search the grids from `10 ^ k` downwards. -/
def searchGrids (x : Binary64) : Nat → Int → Decimal
  | 0, k => ⟨x.interval.middle * (gridStep x.exponent k).2 / (gridStep x.exponent k).1, k⟩
  | n + 1, k =>
    let step := gridStep x.exponent k
    match x.interval.pick? step.1 step.2 with
    | some d => ⟨d, k⟩
    | none => searchGrids x n (k - 1)

/-- A power of ten above the magnitude: `0.30103` exceeds the decimal logarithm of two. -/
def topPower (x : Binary64) : Int :=
  ((x.mantissa.log2 + 1 + x.exponent) * 30103).fdiv 100000 + 2

/-- The shortest decimal that reads back as the magnitude of a number other than zero. -/
def shortest (x : Binary64) : Decimal := searchGrids x 24 (topPower x)

end PasskeyCeremony.Binary64
