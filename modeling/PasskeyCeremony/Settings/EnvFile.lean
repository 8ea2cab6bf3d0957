import PasskeyCeremony.Settings.Basic
import PasskeyCeremony.Text.Alphanumeric
import PasskeyCeremony.Text.Blank

/-!
# Variables from a file

A file of assignments that adds to the variables of the environment. A line holds a key, an equals
sign and a value, possibly after the word `export`; blank lines and comments are passed over. Inside
single quotes everything stands for itself; elsewhere a backslash escapes one of a few characters
and a dollar sign is followed by the name of a variable: letters and numbers, or anything in braces.
Outside quotes a blank ends the value, and only a comment may follow. A quoted value may run over
several lines.

A variable that is set already keeps its value. The first line that is not well formed ends the
reading; what was assigned before it stays assigned.
-/

namespace PasskeyCeremony.Settings.EnvFile

open Text (isBlank)

/-! ## Lines -/

/-- Where in a line the reading stands, as far as the end of the line is concerned. -/
inductive LineState where
  /-- The line may end here. -/
  | complete
  /-- After a blank, where a comment may begin. -/
  | blank
  /-- After a backslash. -/
  | escape
  /-- Inside single quotes. -/
  | strong
  /-- After a backslash inside single quotes. -/
  | strongEscape
  /-- Inside double quotes. -/
  | weak
  /-- After a backslash inside double quotes. -/
  | weakEscape
  deriving DecidableEq, Repr

/-- What begins with a character outside quotes. -/
def LineState.opening? (c : Char) : Option LineState :=
  if c = '\\' then some escape
  else if c = '"' then some weak
  else if c = '\x27' then some strong
  else none

/-- The state after a character that does not begin a comment. -/
def LineState.next (s : LineState) (c : Char) : LineState :=
  match s with
  | blank => (opening? c).getD complete
  | complete =>
    if isBlank c && c != '\n' && c != '\r' then blank else (opening? c).getD complete
  | escape => complete
  | weak => if c = '\\' then weakEscape else if c = '"' then complete else weak
  | weakEscape => weak
  | strong => if c = '\\' then strongEscape else if c = '\x27' then complete else strong
  | strongEscape => strong

/-- Read on to the end of a line: the text up to a comment, and the state, or nothing where there is
a comment. -/
def readLine (s : LineState) : List Char → List Char × Option LineState
  | [] => ([], some s)
  | c :: rest =>
    if s = .blank ∧ c = '#' then ([], none)
    else
      let r := readLine (s.next c) rest
      (c :: r.1, r.2)

def dropLineBreak (cs : List Char) : List Char :=
  match cs.reverse with
  | '\n' :: '\r' :: rest => rest.reverse
  | '\n' :: rest => rest.reverse
  | _ => cs

/-- The lines of a text, each with its line break. -/
def physicalLines : List Char → List (List Char)
  | [] => []
  | c :: rest =>
    if c = '\n' then [c] :: physicalLines rest
    else
      match physicalLines rest with
      | line :: lines => (c :: line) :: lines
      | [] => [[c]]

/-- The lines with those joined that a quoted value or an escape runs over. A last element of
nothing stands for a line that does not end. -/
def logicalLines (begun : List Char) (s : LineState) : List (List Char) → List (Option (List Char))
  | [] => if s = .complete then [] else [none]
  | line :: lines =>
    let text := begun ++ line
    if (text.dropWhile isBlank).head? = some '#' then some [] :: logicalLines [] .complete lines
    else
      match readLine s line with
      | (kept, none) => some (begun ++ kept) :: logicalLines [] .complete lines
      | (_, some .complete) => some (dropLineBreak text) :: logicalLines [] .complete lines
      | (_, some s) => logicalLines text s lines

/-! ## Values -/

/-- What a value is being read as. -/
inductive Mode where
  /-- Characters stand for themselves, apart from a few. -/
  | bare
  /-- Every character stands for itself. -/
  | strong
  /-- A character is escaped. -/
  | escape
  /-- The value has ended. -/
  | ended
  /-- The name of a variable. -/
  | name (name : List Char)
  /-- The name of a variable in braces. -/
  | braced (name : List Char)
  deriving DecidableEq, Repr

/-- The value of a variable, empty where it is not set. -/
def valueOf (env : Environment) (name : List Char) : List Char :=
  ((env.lookup (String.ofList name)).getD "").toList

/-- The character that an escape stands for. -/
def escaped? (c : Char) : Option Char :=
  if c ∈ ['\\', '\x27', '"', '$', ' '] then some c else if c = 'n' then some '\n' else none

/-- Read the rest of a value; `weak` says whether it is inside double quotes. -/
def readValue? (env : Environment) (weak : Bool) (mode : Mode) : List Char → Option (List Char)
  | [] =>
    match mode with
    | .strong => none
    | .braced _ => none
    | .name n => if weak then none else some (valueOf env n)
    | _ => if weak then none else some []
  | c :: rest =>
    match mode with
    | .ended =>
      if c = ' ' ∨ c = '\t' then readValue? env weak .ended rest
      else if c = '#' then if weak then none else some []
      else none
    | .escape =>
      match escaped? c with
      | some d => (readValue? env weak .bare rest).map (d :: ·)
      | none => none
    | .strong =>
      if c = '\x27' then readValue? env weak .bare rest
      else (readValue? env weak .strong rest).map (c :: ·)
    | .name n =>
      if Text.isAlphanumeric c then readValue? env weak (.name (n ++ [c])) rest
      else if c = '\x7b' ∧ n = [] then readValue? env weak (.braced []) rest
      else if c = '$' then (readValue? env weak (.name []) rest).map (valueOf env n ++ ·)
      else (readValue? env weak .bare rest).map (valueOf env n ++ c :: ·)
    | .braced n =>
      if c = '\x7d' then (readValue? env weak .bare rest).map (valueOf env n ++ ·)
      else readValue? env weak (.braced (n ++ [c])) rest
    | .bare =>
      if c = '$' then readValue? env weak (.name []) rest
      else if c = '\\' then readValue? env weak .escape rest
      else if c = '"' then readValue? env (!weak) .bare rest
      else if weak then (readValue? env weak .bare rest).map (c :: ·)
      else if c = '\x27' then readValue? env weak .strong rest
      else if c = ' ' ∨ c = '\t' then readValue? env weak .ended rest
      else (readValue? env weak .bare rest).map (c :: ·)

/-! ## Assignments -/

def isKeyStart (c : Char) : Bool := ('a' ≤ c && c ≤ 'z') || ('A' ≤ c && c ≤ 'Z') || c == '_'

def isKeyChar (c : Char) : Bool := isKeyStart c || ('0' ≤ c && c ≤ '9') || c == '.'

/-- A key, the blanks after it left out, and what follows. -/
def readKey? (cs : List Char) : Option (List Char × List Char) :=
  match cs with
  | c :: _ =>
    if isKeyStart c then some (cs.takeWhile isKeyChar, (cs.dropWhile isKeyChar).dropWhile isBlank)
    else none
  | [] => none

/-- The key of an assignment, and what follows its equals sign. The word `export` may come first,
and may be a key itself. -/
def readAssigned? (cs : List Char) : Option (List Char × List Char) := do
  let (key, rest) ← readKey? cs
  match rest with
  | '=' :: rest => return (key, rest)
  | _ =>
    if key = "export".toList then
      let (key, rest) ← readKey? rest
      match rest with
      | '=' :: rest => return (key, rest)
      | _ => none
    else none

/-- What a line holds. -/
inductive Line where
  /-- An assignment. -/
  | assignment (key value : String)
  /-- Nothing. -/
  | blank
  /-- Something that is not well formed. -/
  | malformed

/-- Read a line, given the variables that are set. -/
def readAssignment (env : Environment) (line : List Char) : Line :=
  let cs := (Text.Chars.trimEnd line).dropWhile isBlank
  if cs.isEmpty || cs.head? == some '#' then .blank
  else
    match readAssigned? cs with
    | none => .malformed
    | some (key, rest) =>
      let text := rest.dropWhile isBlank
      if text.isEmpty || text.head? == some '#' then .assignment (String.ofList key) ""
      else
        match readValue? env false .bare text with
        | some value => .assignment (String.ofList key) (String.ofList value)
        | none => .malformed

def assign (env : Environment) (key value : String) : Environment :=
  if (env.lookup key).isSome then env else env ++ [(key, value)]

/-- Carry out the assignments of lines, up to the first line that is not well formed. -/
def assignAll (env : Environment) : List (Option (List Char)) → Environment
  | [] => env
  | none :: _ => env
  | some line :: rest =>
    match readAssignment env line with
    | .malformed => env
    | .blank => assignAll env rest
    | .assignment key value => assignAll (assign env key value) rest

def byteOrderMark : Char := Char.ofNat 0xFEFF

/-- The environment with the variables of a file added. -/
def load (env : Environment) (text : String) : Environment :=
  let cs := match text.toList with
    | c :: rest => if c = byteOrderMark then rest else c :: rest
    | [] => []
  assignAll env (logicalLines [] .complete (physicalLines cs))

end PasskeyCeremony.Settings.EnvFile
