/-!
# UTF-8

Texts as byte strings and back. Decoding reads a byte string as a row of characters and faults: a
fault is a byte that starts no character, or as much of the start of a character as is well formed
before a byte that cannot go on with it. A strict reader accepts a byte string without faults; a
lenient one writes the replacement character for each of them.
-/

namespace PasskeyCeremony.Text.Utf8

def encodeChar (c : Char) : List UInt8 := String.utf8EncodeChar c

def encode (cs : List Char) : List UInt8 := cs.flatMap encodeChar

/-- The byte lies in a closed interval. -/
def between (low high : UInt8) (b : UInt8) : Bool := low ≤ b && b ≤ high

/-- The byte goes on with a character. -/
def isTail (b : UInt8) : Bool := between 0x80 0xBF b

/-- Six more bits. -/
def push (n : Nat) (b : UInt8) : Nat := n * 64 + b.toNat % 64

/-- The second byte may follow the first of three: no second spelling of a shorter character and no
surrogate. -/
def isSecondOfThree (b c : UInt8) : Bool :=
  if b = 0xE0 then between 0xA0 0xBF c else if b = 0xED then between 0x80 0x9F c else isTail c

/-- The second byte may follow the first of four: no second spelling of a shorter character and
nothing beyond the last character. -/
def isSecondOfFour (b c : UInt8) : Bool :=
  if b = 0xF0 then between 0x90 0xBF c else if b = 0xF4 then between 0x80 0x8F c else isTail c

/-- The characters of a byte string, with nothing in place of a fault. -/
def read : List UInt8 → List (Option Char)
  | [] => []
  | b :: t =>
    if b < 0x80 then some (Char.ofNat b.toNat) :: read t
    else if between 0xC2 0xDF b then
      match t with
      | [] => [none]
      | c :: t =>
        if isTail c then some (Char.ofNat (push (b.toNat % 32) c)) :: read t
        else none :: read (c :: t)
    else if between 0xE0 0xEF b then
      match t with
      | [] => [none]
      | c :: t =>
        if isSecondOfThree b c then
          match t with
          | [] => [none]
          | d :: t =>
            if isTail d then some (Char.ofNat (push (push (b.toNat % 16) c) d)) :: read t
            else none :: read (d :: t)
        else none :: read (c :: t)
    else if between 0xF0 0xF4 b then
      match t with
      | [] => [none]
      | c :: t =>
        if isSecondOfFour b c then
          match t with
          | [] => [none]
          | d :: t =>
            if isTail d then
              match t with
              | [] => [none]
              | e :: t =>
                if isTail e then
                  some (Char.ofNat (push (push (push (b.toNat % 8) c) d) e)) :: read t
                else none :: read (e :: t)
            else none :: read (d :: t)
        else none :: read (c :: t)
    else none :: read t

/-- The text of a byte string without faults. -/
def decode? (bytes : List UInt8) : Option (List Char) := (read bytes).mapM id

def replacement : Char := Char.ofNat 0xFFFD

/-- The text of a byte string, each fault replaced. -/
def decodeLenient (bytes : List UInt8) : List Char := (read bytes).map (·.getD replacement)

def byteOrderMark : List UInt8 := [0xEF, 0xBB, 0xBF]

def dropByteOrderMark : List UInt8 → List UInt8
  | 0xEF :: 0xBB :: 0xBF :: rest => rest
  | bytes => bytes

end PasskeyCeremony.Text.Utf8
