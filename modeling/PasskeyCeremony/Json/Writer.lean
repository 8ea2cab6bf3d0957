import PasskeyCeremony.Json.Numeral

/-!
# Compact JSON text

A value without any blank between its tokens, with the members of objects in the order in which the
value holds them. In strings only the quote, the backslash and the control characters below the
blank are escaped, by their short form where there is one.
-/

namespace PasskeyCeremony.Json

def hexDigit (n : Nat) : Char :=
  if n < 10 then Char.ofNat (0x30 + n) else Char.ofNat (0x61 + (n - 10))

def writeChar (c : Char) : List Char :=
  if c = '"' then ['\\', '"']
  else if c = '\\' then ['\\', '\\']
  else if c = '\n' then ['\\', 'n']
  else if c = '\r' then ['\\', 'r']
  else if c = '\t' then ['\\', 't']
  else if c = '\x08' then ['\\', 'b']
  else if c = '\x0c' then ['\\', 'f']
  else if c.toNat < 0x20 then
    ['\\', 'u', '0', '0', hexDigit (c.toNat / 16), hexDigit (c.toNat % 16)]
  else [c]

def writeString (s : String) : List Char := '"' :: s.toList.flatMap writeChar ++ ['"']

mutual

/-- The text of a value. -/
def write : Json → List Char
  | null => "null".toList
  | bool true => "true".toList
  | bool false => "false".toList
  | number n => n.write
  | string s => writeString s
  | array items => '[' :: writeItems items ++ [']']
  | object ms => '\x7b' :: writeMembers ms ++ ['\x7d']

def writeItems : List Json → List Char
  | [] => []
  | v :: [] => write v
  | v :: rest => write v ++ ',' :: writeItems rest

def writeMembers : List (String × Json) → List Char
  | [] => []
  | (k, v) :: [] => writeString k ++ ':' :: write v
  | (k, v) :: rest => writeString k ++ ':' :: (write v ++ ',' :: writeMembers rest)

end

def toText (v : Json) : String := String.ofList v.write

end PasskeyCeremony.Json
