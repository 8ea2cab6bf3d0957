import PasskeyCeremony.Text.Utf8

/-!
# Percent encoding

A byte is written as a percent sign and two capital hexadecimal digits. Which characters are encoded
is decided per component of an address by a set of ASCII characters; bytes of other characters are
encoded always. A percent sign itself is in none of the sets of an address, so what is encoded
already is left alone there.

A text that is to become one segment of a path is encoded by a stricter rule of its own: every byte
but those of the letters, the digits and `-`, `.`, `_`, `~`. That set does contain the percent sign,
and decoding gives the text back.
-/

namespace PasskeyCeremony.Url

open Text (Utf8.encodeChar Utf8.encode)

namespace Percent

def hexDigit (n : Nat) : Char :=
  if n < 10 then Char.ofNat (0x30 + n) else Char.ofNat (0x41 + (n - 10))

def encodeByte (b : UInt8) : List Char := ['%', hexDigit (b.toNat / 16), hexDigit (b.toNat % 16)]

/-- Control characters, and everything beyond ASCII. -/
def isControl (c : Char) : Bool := c.toNat < 0x20 || 0x7F ≤ c.toNat

def inFragmentSet (c : Char) : Bool := isControl c || c ∈ [' ', '"', '<', '>', '\x60']

def inPathSet (c : Char) : Bool := inFragmentSet c || c ∈ ['#', '?', '\x7b', '\x7d']

def inUserinfoSet (c : Char) : Bool :=
  inPathSet c || c ∈ ['/', ':', ';', '=', '@', '[', '\\', ']', '^', '|']

def inQuerySet (c : Char) : Bool := isControl c || c ∈ [' ', '"', '#', '<', '>']

def inSpecialQuerySet (c : Char) : Bool := inQuerySet c || c == '\x27'

def encodeChar (set : Char → Bool) (c : Char) : List Char :=
  if set c then (Utf8.encodeChar c).flatMap encodeByte else [c]

def encode (set : Char → Bool) (cs : List Char) : List Char := cs.flatMap (encodeChar set)

/-- Left as it is in a segment that is to be read back: letters, digits and four signs. -/
def isUnreserved (c : Char) : Bool :=
  ('A' ≤ c && c ≤ 'Z') || ('a' ≤ c && c ≤ 'z') || ('0' ≤ c && c ≤ '9') ||
    c ∈ ['-', '.', '_', '~']

/-- A text as one segment of a path. -/
def encodeSegment (cs : List Char) : List Char := encode (fun c ↦ !isUnreserved c) cs

def hexValue? (c : Char) : Option Nat :=
  if '0' ≤ c && c ≤ '9' then some (c.toNat - 0x30)
  else if 'A' ≤ c && c ≤ 'F' then some (c.toNat - 0x41 + 10)
  else if 'a' ≤ c && c ≤ 'f' then some (c.toNat - 0x61 + 10)
  else none

def byte? (c d : Char) : Option UInt8 := do
  return UInt8.ofNat (16 * (← hexValue? c) + (← hexValue? d))

/-- The bytes of a text, with every percent sign before two hexadecimal digits decoded. -/
def decode : List Char → List UInt8
  | [] => []
  | [c] => Utf8.encodeChar c
  | [c, d] => Utf8.encodeChar c ++ Utf8.encodeChar d
  | c :: d :: e :: rest =>
    if c = '%' then
      match byte? d e with
      | some b => b :: decode rest
      | none => Utf8.encodeChar c ++ decode (d :: e :: rest)
    else Utf8.encodeChar c ++ decode (d :: e :: rest)

end Percent

end PasskeyCeremony.Url
