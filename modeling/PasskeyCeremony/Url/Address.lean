import PasskeyCeremony.Text.Numeral
import PasskeyCeremony.Text.Split
import PasskeyCeremony.Url.Percent

/-!
# Numeric hosts

A host whose last label is a number is an IPv4 address or a fault. Its labels may be decimal, octal
with a leading zero or hexadecimal, and the last of fewer than four fills the remaining bytes.

An IPv6 address has eight groups of up to four hexadecimal digits. The last two may be written as an
IPv4 address, and one row of zero groups may be left out between two colons; writing leaves out the
first of the longest rows of at least two.
-/

namespace PasskeyCeremony.Url

open Text (isDigit digitsValue splitAt joinWith)

/-! ## Four bytes -/

namespace Ipv4

/-- The value of digits in a radix, if they are all digits of it. -/
def radixValue? (radix : Nat) (cs : List Char) : Option Nat :=
  cs.foldlM (fun n c ↦ (Percent.hexValue? c).bind fun v ↦
    if v < radix then some (n * radix + v) else none) 0

/-- The number that a label is written as: decimal, octal or hexadecimal. -/
def label? : List Char → Option Nat
  | [] => none
  | '0' :: 'x' :: ds => radixValue? 16 ds
  | '0' :: 'X' :: ds => radixValue? 16 ds
  | '0' :: d :: ds => radixValue? 8 (d :: ds)
  | ds => radixValue? 10 ds

def labels (host : List Char) : List (List Char) :=
  let parts := splitAt (· == '.') host
  if 1 < parts.length ∧ parts.getLast? = some [] then parts.dropLast else parts

/-- The host has to be an IPv4 address, because its last label is a number. -/
def endsInNumber (host : List Char) : Bool :=
  match (labels host).getLast? with
  | some l => (!l.isEmpty && l.all isDigit) || (label? l).isSome
  | none => false

/-- What a byte counts with so many bytes after it. -/
def place (after : Nat) : Nat := Nat.pow 256 after

/-- The address of up to four numbers: all but the last are bytes. -/
def ofNumbers? : List Nat → Option Nat
  | [a] => if a < place 4 then some a else none
  | [a, b] => if a < place 1 ∧ b < place 3 then some (a * place 3 + b) else none
  | [a, b, c] =>
    if a < place 1 ∧ b < place 1 ∧ c < place 2 then some (a * place 3 + b * place 2 + c)
    else none
  | [a, b, c, d] =>
    if a < place 1 ∧ b < place 1 ∧ c < place 1 ∧ d < place 1 then
      some (a * place 3 + b * place 2 + c * place 1 + d)
    else none
  | _ => none

def parse? (host : List Char) : Option Nat := ((labels host).mapM label?).bind ofNumbers?

def write (a : Nat) : List Char :=
  joinWith ['.'] ([a / place 3, a / place 2 % place 1, a / place 1 % place 1, a % place 1].map
    fun n ↦ (toString n).toList)

end Ipv4

/-! ## Eight groups -/

namespace Ipv6

/-- One group of one to four hexadecimal digits. -/
def group? (cs : List Char) : Option Nat :=
  if cs.isEmpty || 4 < cs.length then none else Ipv4.radixValue? 16 cs

/-- A byte in decimal, without a leading zero. -/
def byte? (cs : List Char) : Option Nat :=
  if cs.isEmpty || !cs.all isDigit then none
  else if 1 < cs.length && cs.head? == some '0' then none
  else if digitsValue cs < 256 then some (digitsValue cs) else none

/-- Two groups written as four bytes. -/
def bytes? (cs : List Char) : Option (List Nat) := do
  match ← (splitAt (· == '.') cs).mapM byte? with
  | [a, b, c, d] => return [a * 256 + b, c * 256 + d]
  | _ => none

/-- The groups between colons; the last part may be four bytes where that is allowed. -/
def groups? (allowBytes : Bool) (cs : List Char) : Option (List Nat) :=
  if cs.isEmpty then some []
  else
    let parts := splitAt (· == ':') cs
    match parts.getLast? with
    | some l =>
      if allowBytes && l.contains '.' then do
        return (← parts.dropLast.mapM group?) ++ (← bytes? l)
      else parts.mapM group?
    | none => none

/-- The text before and after the first double colon. -/
def splitDouble? : List Char → Option (List Char × List Char)
  | [] => none
  | ':' :: ':' :: rest => some ([], rest)
  | c :: rest => (splitDouble? rest).map fun r ↦ (c :: r.1, r.2)

/-- The eight groups that a text between brackets stands for. -/
def parse? (cs : List Char) : Option (List Nat) := do
  match splitDouble? cs with
  | none =>
    let gs ← groups? true cs
    if gs.length = 8 then return gs else none
  | some (left, right) =>
    let ls ← groups? false left
    let rs ← groups? true right
    if ls.length + rs.length < 8 then
      return ls ++ List.replicate (8 - ls.length - rs.length) 0 ++ rs
    else none

/-- The length of the row of zeros at the start. -/
def zerosAt (gs : List Nat) : Nat := (gs.takeWhile (· == 0)).length

/-- The place and length of the first of the longest rows of zeros, from a place on. -/
def longestZeros (place : Nat) : List Nat → Nat × Nat
  | [] => (place, 0)
  | g :: gs =>
    let here := zerosAt (g :: gs)
    let later := longestZeros (place + 1) gs
    if later.2 ≤ here then (place, here) else later

def writeGroup (n : Nat) : List Char := Nat.toDigits 16 n

/-- Groups with colons between them. -/
def writeGroups (gs : List Nat) : List Char := joinWith [':'] (gs.map writeGroup)

/-- The address, with the first of the longest rows of at least two zero groups left out. -/
def write (gs : List Nat) : List Char :=
  let z := longestZeros 0 gs
  if z.2 < 2 then writeGroups gs
  else writeGroups (gs.take z.1) ++ ':' :: ':' :: writeGroups (gs.drop (z.1 + z.2))

end Ipv6

end PasskeyCeremony.Url
