/-!
# Decimal numerals

Reading a text as an unsigned number below a bound: an optional plus sign, then one or more ASCII
digits, and nothing else. Leading zeros are allowed and a minus sign is not, not even before zero.
The value is computed exactly and compared with the bound afterwards, so there is no width at which
it could wrap.

An index key of an object and the time-out in the settings are both read this way, below `2 ^ 32`
and below `2 ^ 64`.
-/

namespace PasskeyCeremony.Text

def isDigit (c : Char) : Bool := '0' ≤ c && c ≤ '9'

def digitValue (c : Char) : Nat := c.toNat - 0x30

def digitsValue (cs : List Char) : Nat := cs.foldl (fun n c ↦ 10 * n + digitValue c) 0

/-- One plus sign at the start is left out. -/
def dropPlus : List Char → List Char
  | '+' :: rest => rest
  | cs => cs

/-- The text as an unsigned number below `bound`. -/
def unsignedBelow? (bound : Nat) (cs : List Char) : Option Nat :=
  let digits := dropPlus cs
  if digits.isEmpty || !digits.all isDigit then none
  else if digitsValue digits < bound then some (digitsValue digits)
  else none

end PasskeyCeremony.Text
