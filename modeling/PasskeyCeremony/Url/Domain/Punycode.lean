/-!
# Labels in ASCII

A label of a domain name with characters beyond ASCII is written in ASCII: first its ASCII
characters, then, after a hyphen, where the others have to be put in. They are taken in the order of
their code points; for each the number of steps is written that a counter takes through all places
and code points until it is reached. The numbers have variable length, and how they are divided into
digits adapts to the size of the numbers before.
-/

namespace PasskeyCeremony.Url.Domain.Punycode

/-- The number of digits. -/
def base : Nat := 36

def firstCode : Nat := 0x80

/-- Where the division into digits begins. -/
def firstBias : Nat := 72

def digitChar (d : Nat) : Char := Char.ofNat (if d < 26 then 0x61 + d else 0x30 + (d - 26))

def digit? (c : Char) : Option Nat :=
  if 'a' ≤ c ∧ c ≤ 'z' then some (c.toNat - 0x61)
  else if 'A' ≤ c ∧ c ≤ 'Z' then some (c.toNat - 0x41)
  else if '0' ≤ c ∧ c ≤ '9' then some (c.toNat - 0x30 + 26)
  else none

/-- A digit below this bound ends a number; the bound depends on the place of the digit. -/
def threshold (bias place : Nat) : Nat := max 1 (min 26 (place - bias))

theorem threshold_pos (bias place : Nat) : 0 < threshold bias place := by
  unfold threshold
  omega

/-- Divide until the number is small, counting the places. -/
def shrink (delta places : Nat) : Nat × Nat :=
  if 455 < delta then shrink (delta / 35) (places + base) else (delta, places)
termination_by delta
decreasing_by omega

/-- The division into digits after a number, given the count of characters so far. -/
def adapt (delta count : Nat) (isFirst : Bool) : Nat :=
  let damped := if isFirst then delta / 700 else delta / 2
  let (rest, places) := shrink (damped + damped / count) 0
  places + base * rest / (rest + 38)

/-! ## Writing -/

def writeNumber (bias place q : Nat) : List Char :=
  let t := threshold bias place
  if q < t then [digitChar q]
  else
    digitChar (t + (q - t) % (base - t)) :: writeNumber bias (place + base) ((q - t) / (base - t))
termination_by q
decreasing_by
  have h := threshold_pos bias place
  have := Nat.div_le_self (q - threshold bias place) (base - threshold bias place)
  omega

/-- What has been written of a label. -/
structure Written where
  /-- The digits. -/
  text : List Char
  /-- The steps since the last character. -/
  delta : Nat
  /-- The division into digits. -/
  bias : Nat
  /-- The count of characters that have their place. -/
  count : Nat

/-- Go by one character of the label, looking for those with a code point. -/
def pass (plain code : Nat) (w : Written) (c : Char) : Written :=
  if c.toNat < code then { w with delta := w.delta + 1 }
  else if c.toNat = code then
    ⟨w.text ++ writeNumber w.bias base w.delta, 0, adapt w.delta (w.count + 1) (w.count == plain),
      w.count + 1⟩
  else w

/-- Write the places of the code points, given in order, from one on. -/
def writeCodes (label : List Char) (plain start : Nat) (w : Written) :
    List Nat → List Char
  | [] => w.text
  | code :: rest =>
    let w := { w with delta := w.delta + (code - start) * (w.count + 1) }
    let w := label.foldl (pass plain code) w
    writeCodes label plain (code + 1) { w with delta := w.delta + 1 } rest

/-- A label in ASCII. -/
def encode (label : List Char) : List Char :=
  let plain := label.filter (·.toNat < firstCode)
  let codes := ((label.filter (firstCode ≤ ·.toNat)).map Char.toNat).eraseDups.mergeSort
  plain ++ (if plain.isEmpty then [] else ['-']) ++
    writeCodes label plain.length firstCode ⟨[], 0, firstBias, plain.length⟩ codes

/-! ## Reading -/

/-- Read a number from a place on: its value, and what follows it. -/
def readNumber? (bias place weight value : Nat) : List Char → Option (Nat × List Char)
  | [] => none
  | c :: rest => do
    let d ← digit? c
    let t := threshold bias place
    if d < t then return (value + d * weight, rest)
    else readNumber? bias (place + base) (weight * (base - t)) (value + d * weight) rest

/-- Put in characters, at most so many; `counter` and `code` say where the last one went. -/
def readCodes? (label : List Char) (bias counter code : Nat) : Nat → List Char → Option (List Char)
  | _, [] => some label
  | 0, _ :: _ => none
  | n + 1, text => do
    let (delta, rest) ← readNumber? bias base 1 0 text
    let count := label.length + 1
    let counter' := counter + delta
    let code := code + counter' / count
    let place := counter' % count
    guard (code.isValidChar)
    readCodes? (label.take place ++ Char.ofNat code :: label.drop place)
      (adapt delta count (counter == 0)) (place + 1) code n rest

/-- The label that a text in ASCII stands for. Without characters before it the hyphen is missing,
too. -/
def decode? (text : List Char) : Option (List Char) :=
  let digits := (text.reverse.takeWhile (· != '-')).reverse
  let plain := text.take (text.length - digits.length - 1)
  let digits := if plain.isEmpty then text else digits
  readCodes? plain firstBias 0 firstCode digits.length digits

end PasskeyCeremony.Url.Domain.Punycode
