import PasskeyCeremony.Text.Blank
import PasskeyCeremony.Text.Case

/-!
# The rule for passkey names

A name is accepted without the blanks at its ends. It must not be empty, the text as it was typed
must have at most fifty characters, the name may hold letters, digits, blanks, underscores and
hyphens of ASCII only, and no passkey may have that name already, in whatever case. The checks come
in this order, and the first that fails decides.

Names are compared trimmed and in lowercase, so the names in use are kept in that form.
-/

namespace PasskeyCeremony

def maxNameLength : Nat := 50

/-- Why a text is refused as a name. -/
inductive NameFault where
  /-- There is nothing but blanks. -/
  | empty
  /-- There are too many characters. -/
  | tooLong (length : Nat)
  /-- There are characters that names may not hold. -/
  | invalidCharacters
  /-- The name is in use. -/
  | duplicate
  deriving DecidableEq, Repr

namespace NameFault

/-- What the user is told about names in general. -/
def advice : String :=
  "Use only letters, numbers, spaces, underscores and hyphens (max " ++ toString maxNameLength ++
    " characters)"

def message : NameFault → String
  | empty | invalidCharacters => advice
  | tooLong n =>
    "Name is too long: " ++ toString n ++ "/" ++ toString maxNameLength ++ " characters"
  | duplicate => "A passkey with this name already exists, please choose a different name"

end NameFault

def isNameChar (c : Char) : Bool :=
  ('a' ≤ c && c ≤ 'z') || ('A' ≤ c && c ≤ 'Z') || ('0' ≤ c && c ≤ '9') ||
    c == ' ' || c == '_' || c == '-'

/-- The form in which names are compared. -/
def comparisonName (label : String) : String := Text.toLower (Text.trim label)

/-- The names in use, from the labels that the page shows. -/
def namesInUse (labels : List String) : List String := labels.map comparisonName

/-- Check a text against the rule and the names in use: the name, or why it is refused. -/
def validateName (inUse : List String) (text : String) : Except NameFault String :=
  let name := Text.trim text
  if name.isEmpty then .error .empty
  else if maxNameLength < text.length then .error (.tooLong text.length)
  else if !name.toList.all isNameChar then .error .invalidCharacters
  else if Text.toLower name ∈ inUse then .error .duplicate
  else .ok name

/-- A collection of names without repetition, in order. -/
def sortedNames (names : List String) : List String :=
  names.eraseDups.mergeSort fun a b ↦ a ≤ b

end PasskeyCeremony
