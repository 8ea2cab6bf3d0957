import PasskeyCeremony.Text.Utf8

/-!
# The text of a body

A body is bytes. Which text they stand for depends on the charset that the content type names, and
a client leaves this to the library that makes its requests. The library is a parameter here
(`TextReader`). It has a text for every body, because bytes that stand for no character are
replaced.

What is documented of the library is a hypothesis (`TextReader.Lawful`). Bodies are UTF-8 unless
their content type names another charset, and a byte order mark at the start decides for UTF-8
against any content type; the mark is not part of the text. What other charsets are, and how their
bytes are read, is left open.
-/

namespace PasskeyCeremony.Http

/-- How a library makes a text of the bytes of a body, given the content type. -/
class TextReader where
  /-- The text of a body. -/
  read : Option String → List UInt8 → List Char

/-- Content types whose bodies are UTF-8, because they name it or name no charset. -/
inductive IsUtf8Type : Option String → Prop where
  | absent : IsUtf8Type none
  | bare {type : String} (htype : ';' ∉ type.toList) : IsUtf8Type (some type)
  | named {type : String} (htype : ';' ∉ type.toList) :
      IsUtf8Type (some (type ++ "; charset=utf-8"))

/-- What is documented of a library. -/
structure TextReader.Lawful (texts : TextReader) : Prop where
  /-- A body is UTF-8 where the content type says nothing else. -/
  utf8 : ∀ contentType bytes text, IsUtf8Type contentType → ¬Text.Utf8.byteOrderMark <+: bytes →
    Text.Utf8.decode? bytes = some text → texts.read contentType bytes = text
  /-- A body with a byte order mark is UTF-8 whatever the content type says. -/
  marked : ∀ contentType bytes text, Text.Utf8.decode? bytes = some text →
    texts.read contentType (Text.Utf8.byteOrderMark ++ bytes) = text

end PasskeyCeremony.Http
