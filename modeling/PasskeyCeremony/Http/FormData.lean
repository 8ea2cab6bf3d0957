import PasskeyCeremony.Text.Split
import PasskeyCeremony.Url.Percent

/-!
# Fields in a request body

The fields of a form as one text: names and values with an equals sign between them and ampersands
between the fields. Letters, digits and four signs stand for themselves, a space is written as a
plus sign, and every other character is percent encoded.
-/

namespace PasskeyCeremony.Http.FormData

def contentType : String := "application/x-www-form-urlencoded"

/-- A character that stands for itself. -/
def isPlain (c : Char) : Bool :=
  ('A' ≤ c && c ≤ 'Z') || ('a' ≤ c && c ≤ 'z') || ('0' ≤ c && c ≤ '9') ||
    c ∈ ['*', '-', '.', '_']

def encodeChar (c : Char) : List Char :=
  if isPlain c then [c]
  else if c = ' ' then ['+']
  else (Text.Utf8.encodeChar c).flatMap Url.Percent.encodeByte

/-- A name or value. -/
def encodeText (s : String) : List Char := s.toList.flatMap encodeChar

def encodeField (field : String × String) : List Char :=
  encodeText field.1 ++ '=' :: encodeText field.2

def encode (fields : List (String × String)) : String :=
  String.ofList (Text.joinWith ['&'] (fields.map encodeField))

end PasskeyCeremony.Http.FormData
