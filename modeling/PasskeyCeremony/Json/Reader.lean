import PasskeyCeremony.Json.Numeral

/-!
# Reading JSON text

A reader takes a text to the value at its start and the text that follows. Blanks may stand between
tokens, nothing may follow the document, and containers may be nested at most 127 deep. A string may
hold neither raw control characters nor half of a surrogate pair.

Readers that can nest are parameters of the loops over items and members, and the recursion is on
the depth that is left; the loops themselves run on a count that the length of the text bounds.
-/

namespace PasskeyCeremony.Json

namespace Reader

def isBlank (c : Char) : Bool := c == ' ' || c == '\n' || c == '\t' || c == '\r'

def skipBlanks (cs : List Char) : List Char := cs.dropWhile isBlank

def hexValue? (c : Char) : Option Nat :=
  if '0' ≤ c && c ≤ '9' then some (c.toNat - 0x30)
  else if 'a' ≤ c && c ≤ 'f' then some (c.toNat - 0x61 + 10)
  else if 'A' ≤ c && c ≤ 'F' then some (c.toNat - 0x41 + 10)
  else none

def hex4? (a b c d : Char) : Option Nat := do
  return 0x1000 * (← hexValue? a) + 0x100 * (← hexValue? b) + 0x10 * (← hexValue? c) +
    (← hexValue? d)

/-- The character that a backslash and a letter stand for. -/
def shortEscape? (c : Char) : Option Char :=
  if c = '"' then some '"'
  else if c = '\\' then some '\\'
  else if c = '/' then some '/'
  else if c = 'b' then some '\x08'
  else if c = 'f' then some '\x0c'
  else if c = 'n' then some '\n'
  else if c = 'r' then some '\r'
  else if c = 't' then some '\t'
  else none

def isHighSurrogate (n : Nat) : Bool := 0xD800 ≤ n && n < 0xDC00

def isLowSurrogate (n : Nat) : Bool := 0xDC00 ≤ n && n < 0xE000

/-- The character of a surrogate pair. -/
def ofSurrogates (high low : Nat) : Char :=
  Char.ofNat (0x10000 + (high - 0xD800) * 0x400 + (low - 0xDC00))

/-- The rest of a string after its opening quote: the characters, and what follows the closing
quote. -/
def stringRest? : List Char → Option (List Char × List Char)
  | [] => none
  | '"' :: rest => some ([], rest)
  | '\\' :: 'u' :: a :: b :: c :: d :: rest =>
    match hex4? a b c d with
    | none => none
    | some n =>
      if isHighSurrogate n then
        match rest with
        | '\\' :: 'u' :: e :: f :: g :: h :: rest' =>
          match hex4? e f g h with
          | none => none
          | some m =>
            if isLowSurrogate m then
              (stringRest? rest').map fun r ↦ (ofSurrogates n m :: r.1, r.2)
            else none
        | _ => none
      else if isLowSurrogate n then none
      else (stringRest? rest).map fun r ↦ (Char.ofNat n :: r.1, r.2)
  | '\\' :: c :: rest =>
    match shortEscape? c with
    | none => none
    | some d => (stringRest? rest).map fun r ↦ (d :: r.1, r.2)
  | c :: rest =>
    if c = '\\' ∨ c.toNat < 0x20 then none
    else (stringRest? rest).map fun r ↦ (c :: r.1, r.2)

/-- A string with its opening quote. -/
def string? : List Char → Option (String × List Char)
  | '"' :: rest => (stringRest? rest).map fun r ↦ (String.ofList r.1, r.2)
  | _ => none

variable (value : List Char → Option (Json × List Char))

/-- Items from the first of them to the closing bracket, at most `n`. -/
def items? : Nat → List Char → Option (List Json × List Char)
  | 0, _ => none
  | n + 1, cs => do
    let (v, rest) ← value cs
    match skipBlanks rest with
    | ',' :: rest =>
      let (vs, rest) ← items? n rest
      return (v :: vs, rest)
    | ']' :: rest => return ([v], rest)
    | _ => none

/-- The inside of an array after its opening bracket. -/
def arrayRest? (cs : List Char) : Option (List Json × List Char) :=
  match skipBlanks cs with
  | ']' :: rest => some ([], rest)
  | rest => items? value rest.length rest

/-- A key, a colon and a value. -/
def member? (cs : List Char) : Option ((String × Json) × List Char) := do
  let (key, rest) ← string? (skipBlanks cs)
  match skipBlanks rest with
  | ':' :: rest =>
    let (v, rest) ← value rest
    return ((key, v), rest)
  | _ => none

/-- Members from the first of them to the closing brace, at most `n`. -/
def members? : Nat → List Char → Option (List (String × Json) × List Char)
  | 0, _ => none
  | n + 1, cs => do
    let (m, rest) ← member? value cs
    match skipBlanks rest with
    | ',' :: rest =>
      let (ms, rest) ← members? n rest
      return (m :: ms, rest)
    | '\x7d' :: rest => return ([m], rest)
    | _ => none

/-- The inside of an object after its opening brace: the members as they are written. -/
def objectRest? (cs : List Char) : Option (List (String × Json) × List Char) :=
  match skipBlanks cs with
  | '\x7d' :: rest => some ([], rest)
  | rest => members? value rest.length rest

/-- A value inside which containers may be nested `depth` deep. -/
def value? : Nat → List Char → Option (Json × List Char)
  | depth, cs =>
    match skipBlanks cs with
    | 'n' :: 'u' :: 'l' :: 'l' :: rest => some (null, rest)
    | 't' :: 'r' :: 'u' :: 'e' :: rest => some (bool true, rest)
    | 'f' :: 'a' :: 'l' :: 's' :: 'e' :: rest => some (bool false, rest)
    | '"' :: rest => (stringRest? rest).map fun r ↦ (string (String.ofList r.1), r.2)
    | '[' :: rest =>
      match depth with
      | 0 => none
      | d + 1 => (arrayRest? (value? d) rest).map fun r ↦ (array r.1, r.2)
    | '\x7b' :: rest =>
      match depth with
      | 0 => none
      | d + 1 => (objectRest? (value? d) rest).map fun r ↦ (object (Members.ofList r.1), r.2)
    | rest => (Number.read? rest).map fun r ↦ (number r.1, r.2)

/-- Containers may be nested this deep. -/
def maxDepth : Nat := 127

end Reader

/-- The value that a text holds. -/
def parse? (text : List Char) : Option Json :=
  match Reader.value? Reader.maxDepth text with
  | some (v, rest) => if (Reader.skipBlanks rest).isEmpty then some v else none
  | none => none

/-- The members of the object that a text holds, in the order and as often as they are written. -/
def parseMembers? (text : List Char) : Option (List (String × Json)) :=
  match Reader.skipBlanks text with
  | '\x7b' :: rest =>
    match Reader.objectRest? (Reader.value? (Reader.maxDepth - 1)) rest with
    | some (ms, rest) => if (Reader.skipBlanks rest).isEmpty then some ms else none
    | none => none
  | _ => none

/-- The value that a text holds. -/
def ofText? (text : String) : Option Json := parse? text.toList

end PasskeyCeremony.Json
