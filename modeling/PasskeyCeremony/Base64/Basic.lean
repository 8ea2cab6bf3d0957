/-!
# Base64

The encodings of byte strings of RFC 4648: two alphabets that differ in the last two characters,
each with padding or without. Three bytes make four characters; a rest of one or two bytes makes
two or three, and the bits that the last character does not need are zero.

Decoding is given for the unpadded URL-safe form only and is strict: foreign characters, padding, a
length of `4 * n + 1` and trailing bits other than zero are refused, so that a byte string has
exactly one form.
-/

namespace PasskeyCeremony.Base64

/-- The two alphabets. -/
inductive Alphabet where
  /-- The last two characters are `+` and `/`. -/
  | standard
  /-- The last two characters are `-` and `_`. -/
  | urlSafe
  deriving DecidableEq, Repr

def Alphabet.char62 : Alphabet → Char
  | standard => '+'
  | urlSafe => '-'

def Alphabet.char63 : Alphabet → Char
  | standard => '/'
  | urlSafe => '_'

/-- The character for a number below 64. -/
def Alphabet.char (a : Alphabet) (n : Nat) : Char :=
  if n < 26 then Char.ofNat (0x41 + n)
  else if n < 52 then Char.ofNat (0x61 + (n - 26))
  else if n < 62 then Char.ofNat (0x30 + (n - 52))
  else if n = 62 then a.char62
  else a.char63

/-- The number that a character stands for. -/
def Alphabet.value? (a : Alphabet) (c : Char) : Option Nat :=
  if 'A' ≤ c && c ≤ 'Z' then some (c.toNat - 0x41)
  else if 'a' ≤ c && c ≤ 'z' then some (c.toNat - 0x61 + 26)
  else if '0' ≤ c && c ≤ '9' then some (c.toNat - 0x30 + 52)
  else if c = a.char62 then some 62
  else if c = a.char63 then some 63
  else none

/-- The encoding of a byte string, with or without padding. -/
def encode (a : Alphabet) (padded : Bool) : List UInt8 → List Char
  | [] => []
  | [x] =>
    let n := x.toNat
    a.char (n / 4) :: a.char (n % 4 * 16) :: if padded then ['=', '='] else []
  | [x, y] =>
    let n := x.toNat * 256 + y.toNat
    a.char (n / 1024) :: a.char (n / 16 % 64) :: a.char (n % 16 * 4) ::
      if padded then ['='] else []
  | x :: y :: z :: rest =>
    let n := (x.toNat * 256 + y.toNat) * 256 + z.toNat
    a.char (n / 262144) :: a.char (n / 4096 % 64) :: a.char (n / 64 % 64) :: a.char (n % 64) ::
      encode a padded rest

/-- The byte string of which a text is the unpadded URL-safe encoding. -/
def decodeUrl? : List Char → Option (List UInt8)
  | [] => some []
  | [_] => none
  | [c, d] => do
    let p ← Alphabet.urlSafe.value? c
    let q ← Alphabet.urlSafe.value? d
    if q % 16 = 0 then return [UInt8.ofNat (p * 4 + q / 16)] else none
  | [c, d, e] => do
    let p ← Alphabet.urlSafe.value? c
    let q ← Alphabet.urlSafe.value? d
    let r ← Alphabet.urlSafe.value? e
    let n := (p * 64 + q) * 64 + r
    if n % 4 = 0 then return [UInt8.ofNat (n / 1024), UInt8.ofNat (n / 4 % 256)] else none
  | c :: d :: e :: f :: rest => do
    let p ← Alphabet.urlSafe.value? c
    let q ← Alphabet.urlSafe.value? d
    let r ← Alphabet.urlSafe.value? e
    let s ← Alphabet.urlSafe.value? f
    let n := ((p * 64 + q) * 64 + r) * 64 + s
    let bytes ← decodeUrl? rest
    return UInt8.ofNat (n / 65536) :: UInt8.ofNat (n / 256 % 256) :: UInt8.ofNat (n % 256) :: bytes

/-- The text is the unpadded URL-safe encoding of some byte string. -/
def isUrlEncoding (cs : List Char) : Bool := (decodeUrl? cs).isSome

end PasskeyCeremony.Base64
