import PasskeyCeremony.Url.Basic

/-!
# Reading and resolving addresses

A text is read either alone or relative to another address, the base. Blanks and control characters
at the ends are left out first, and tabs and line breaks everywhere. A text with a scheme stands for
itself, except that a special scheme which is also that of the base may be followed by a relative
path. A text without a scheme takes from the base what it does not replace: two slashes replace the
authority and all after it, one slash the path, any other text the last segment of the path, a
question mark the query and a number sign the fragment.

Dot segments are resolved while the segments are collected: a single dot adds nothing, a double dot
removes the segment before it, and either of them at the end leaves an empty last segment. In local
files a drive letter is never removed, and empty segments at the start are left out.
-/

namespace PasskeyCeremony.Url

open Text (splitAt)

/-- Backslashes separate segments like slashes, where the rules are special. -/
def isSlash (kind : SchemeKind) (c : Char) : Bool := c == '/' || (kind.isSpecial && c == '\\')

def isEitherSlash (c : Char) : Bool := c == '/' || c == '\\'

def endsPath (c : Char) : Bool := c == '?' || c == '#'

/-- The text without blanks at its ends and line breaks inside. -/
def clean (cs : List Char) : List Char :=
  let edge := fun (c : Char) ↦ decide (c.toNat ≤ 0x20)
  ((cs.dropWhile edge).reverse.dropWhile edge).reverse.filter fun c ↦
    !(c == '\t' || c == '\n' || c == '\r')

/-! ## Scheme -/

def isLetter (c : Char) : Bool := ('a' ≤ c && c ≤ 'z') || ('A' ≤ c && c ≤ 'Z')

def isSchemeChar (c : Char) : Bool :=
  isLetter c || ('0' ≤ c && c ≤ '9') || c == '+' || c == '-' || c == '.'

/-- The scheme, in lowercase, and what follows its colon. -/
def splitScheme? (cs : List Char) : Option (String × List Char) :=
  match cs with
  | c :: _ =>
    if isLetter c then
      match cs.dropWhile isSchemeChar with
      | ':' :: rest => some (String.ofList ((cs.takeWhile isSchemeChar).map Char.toLower), rest)
      | _ => none
    else none
  | [] => none

/-! ## Query and fragment -/

/-- The text of an encoded component. -/
def component (set : Char → Bool) (cs : List Char) : String :=
  String.ofList (Percent.encode set cs)

def readFragment : List Char → Option String
  | '#' :: rest => some (component Percent.inFragmentSet rest)
  | _ => none

/-- The query and the fragment that follow a path. -/
def readTail (kind : SchemeKind) : List Char → Option String × Option String
  | '?' :: rest =>
    let set := if kind.isSpecial then Percent.inSpecialQuerySet else Percent.inQuerySet
    (some (component set (rest.takeWhile (· != '#'))), readFragment (rest.dropWhile (· != '#')))
  | rest => (none, readFragment rest)

/-! ## Segments -/

/-- A dot, plain or encoded, is left out at the start. -/
def dropDot? : List Char → Option (List Char)
  | '.' :: rest => some rest
  | '%' :: '2' :: 'e' :: rest => some rest
  | '%' :: '2' :: 'E' :: rest => some rest
  | _ => none

def isSingleDot (cs : List Char) : Bool := dropDot? cs == some []

def isDoubleDot (cs : List Char) : Bool := (dropDot? cs).bind dropDot? == some []

/-- A letter and a colon or a bar. -/
def isDriveLetter : List Char → Bool
  | [c, d] => isLetter c && (d == ':' || d == '|')
  | _ => false

/-- A letter and a colon. -/
def isNormalDriveLetter : List Char → Bool
  | [c, d] => isLetter c && d == ':'
  | _ => false

/-- Remove the last segment, unless it is the drive letter of a local file. -/
def shorten (kind : SchemeKind) (segments : List String) : List String :=
  match kind, segments with
  | .file, [s] => if isNormalDriveLetter s.toList then [s] else []
  | _, ss => ss.dropLast

/-- A segment as it is kept: encoded, and with a colon in a drive letter at the start of a local
file's path. -/
def keptSegment (kind : SchemeKind) (first : Bool) (cs : List Char) : String :=
  match kind, first, isDriveLetter cs, cs with
  | .file, true, true, c :: _ => String.ofList [c, ':']
  | _, _, _, cs => component Percent.inPathSet cs

def addSegment (kind : SchemeKind) (segments : List String) (last : Bool) (cs : List Char) :
    List String :=
  if isDoubleDot cs then
    if last then shorten kind segments ++ [""] else shorten kind segments
  else if isSingleDot cs then
    if last then segments ++ [""] else segments
  else segments ++ [keptSegment kind segments.isEmpty cs]

def addSegments (kind : SchemeKind) (segments : List String) : List (List Char) → List String
  | [] => segments
  | [cs] => addSegment kind segments true cs
  | cs :: rest => addSegments kind (addSegment kind segments false cs) rest

/-- Leave out empty segments at the start, as long as another one follows. -/
def dropEmptySegments : List String → List String
  | s :: t :: rest => if s.isEmpty then dropEmptySegments (t :: rest) else s :: t :: rest
  | ss => ss

/-- The path that continues given segments with the part of a text before query and fragment. -/
def readPath (kind : SchemeKind) (segments : List String) (cs : List Char) : List String :=
  let ss := addSegments kind segments (splitAt (isSlash kind) (cs.takeWhile (!endsPath ·)))
  if kind = .file then dropEmptySegments ss else ss

/-- The part of a text from query or fragment on. -/
def pathTail (cs : List Char) : List Char := cs.dropWhile (!endsPath ·)

/-- An address with the path, query and fragment of a text. -/
def withPath (scheme : String) (authority : Option Authority) (segments : List String)
    (cs : List Char) : Url :=
  let kind := kindOf scheme
  let tail := readTail kind (pathTail cs)
  ⟨scheme, authority, .segments (readPath kind segments cs), tail.1, tail.2⟩

/-- The path after an authority: one slash at its start belongs to the first segment. Without
special rules there may be no path at all. -/
def afterAuthority (scheme : String) (authority : Authority) (cs : List Char) : Url :=
  let kind := kindOf scheme
  match cs with
  | c :: rest =>
    if isSlash kind c then withPath scheme (some authority) [] rest
    else if !kind.isSpecial && endsPath c then
      let tail := readTail kind cs
      ⟨scheme, some authority, .segments [], tail.1, tail.2⟩
    else withPath scheme (some authority) [] cs
  | [] =>
    if kind.isSpecial then withPath scheme (some authority) [] []
    else ⟨scheme, some authority, .segments [], none, none⟩

/-! ## Authority -/

def specialHost (cs : List Char) : Except Fault Host :=
  match cs with
  | '[' :: rest =>
    match rest.getLast?, Ipv6.parse? rest.dropLast with
    | some ']', some gs => .ok (.ipv6 gs)
    | _, _ => .error .invalidIpv6
  | _ =>
    match Domain.ofHost? cs with
    | none => .error .invalidDomain
    | some [] => .error .emptyHost
    | some name =>
      if Ipv4.endsInNumber name then
        match Ipv4.parse? name with
        | some a => .ok (.ipv4 a)
        | none => .error .invalidIpv4
      else .ok (.domain (String.ofList name))

/-- A character that the host of an address without special rules may not hold. -/
def isForbiddenInHost (c : Char) : Bool :=
  c.toNat == 0 || c ∈ ['\t', '\n', '\r', ' ', '#', '/', ':', '<', '>', '?', '@', '[', '\\', ']',
    '^', '|']

def plainHost (cs : List Char) : Except Fault (Option Host) :=
  match cs with
  | [] => .ok none
  | '[' :: rest =>
    match rest.getLast?, Ipv6.parse? rest.dropLast with
    | some ']', some gs => .ok (some (.ipv6 gs))
    | _, _ => .error .invalidIpv6
  | _ =>
    if cs.any isForbiddenInHost then .error .invalidHostCharacter
    else .ok (some (.domain (component Percent.isControl cs)))

/-- The host at the start of a text, up to a colon outside brackets, and what follows. -/
def splitHost (brackets : Bool) : List Char → List Char × List Char
  | [] => ([], [])
  | c :: rest =>
    if c = ':' ∧ !brackets then ([], c :: rest)
    else
      let inside := if c = '[' then true else if c = ']' then false else brackets
      let r := splitHost inside rest
      (c :: r.1, r.2)

/-- The host, if the rules allow it. -/
def readHost (kind : SchemeKind) (cs : List Char) : Except Fault (Option Host) :=
  if kind.isSpecial then
    if cs.isEmpty then .error .emptyHost else (specialHost cs).map some
  else plainHost cs

/-- The port after a colon, unless it is the one of the scheme, and what follows it. Of the marks
that end an authority only a backslash can still follow. -/
def readPort (scheme : String) (cs : List Char) : Except Fault (Option Nat × List Char) :=
  let digits := cs.takeWhile Text.isDigit
  let rest := cs.dropWhile Text.isDigit
  if 65535 < Text.digitsValue digits then .error .invalidPort
  else if !rest.isEmpty && rest.head? != some '\\' then .error .invalidPort
  else if digits.isEmpty then .ok (none, rest)
  else
    let port := Text.digitsValue digits
    .ok (if defaultPort? scheme = some port then none else some port, rest)

def readUserinfo (cs : List Char) : String × String :=
  let set := Percent.inUserinfoSet
  (component set (cs.takeWhile (· != ':')), component set ((cs.dropWhile (· != ':')).drop 1))

/-- The text before the last at sign, if there is one, and the text after it. -/
def splitUserinfo (cs : List Char) : Option (List Char) × List Char :=
  let after := (cs.reverse.takeWhile (· != '@')).reverse
  if after.length = cs.length then (none, cs)
  else (some (cs.take (cs.length - after.length - 1)), after)

/-- The address with the authority and path that follow two slashes. -/
def readAuthority (scheme : String) (cs : List Char) : Except Fault Url := do
  let kind := kindOf scheme
  let ends := fun c ↦ isSlash kind c || endsPath c
  let (userinfo, hostAndPort) := splitUserinfo (cs.takeWhile (!ends ·))
  let rest := cs.dropWhile (!ends ·)
  if userinfo = some [] ∧ hostAndPort = [] ∧ rest ≠ [] then throw .emptyHost
  let (username, password) := readUserinfo (userinfo.getD [])
  let (hostText, portText) := splitHost false hostAndPort
  let host ← readHost kind hostText
  if host = none ∧ portText ≠ [] then throw .emptyHost
  let (port, more) ← readPort scheme (portText.drop 1)
  if host = none ∧ ¬(username.isEmpty ∧ password.isEmpty) then throw .emptyHost
  return afterAuthority scheme ⟨username, password, host, port⟩ (more ++ rest)

/-! ## Local files -/

/-- The authority of a local file. -/
def fileAuthority (host : Option Host) : Authority := ⟨"", "", host, none⟩

/-- The text begins with a drive letter that is a whole segment. -/
def startsWithDrive (cs : List Char) : Bool :=
  isDriveLetter (cs.take 2) &&
    match cs.drop 2 with
    | [] => true
    | c :: _ => isEitherSlash c || endsPath c

/-- The path of a local file begins with a drive letter, which makes its host void. -/
def hasDrive (cs : List Char) : Bool :=
  match splitAt isEitherSlash (cs.takeWhile (!endsPath ·)) with
  | first :: _ => isDriveLetter first
  | [] => false

/-- The address of a local file after two slashes. -/
def readFileHost (cs : List Char) : Except Fault Url := do
  let ends := fun c ↦ isEitherSlash c || endsPath c
  let hostText := cs.takeWhile (!ends ·)
  let rest := cs.dropWhile (!ends ·)
  if isDriveLetter hostText then return withPath "file" (some (fileAuthority none)) [] cs
  if hostText.isEmpty then return withPath "file" (some (fileAuthority none)) [] rest
  let host ← specialHost hostText
  if host = .domain "localhost" then return withPath "file" (some (fileAuthority none)) [] rest
  let path := match rest with
    | c :: r => if isEitherSlash c then r else rest
    | [] => []
  let kept := if hasDrive path then none else some host
  return withPath "file" (some (fileAuthority kept)) [] path

/-- The first segment of a base. -/
def firstSegment? (u : Url) : Option String :=
  match u.path with
  | .segments (s :: _) => some s
  | _ => none

/-- The segments of a base. -/
def segmentsOf (u : Url) : List String :=
  match u.path with
  | .segments ss => ss
  | .rootless _ => []

/-- The address of a local file after one slash: host or drive letter come from the base. -/
def readFileRoot (base : Option Url) (cs : List Char) : Url :=
  let authority (host : Option Host) := some (fileAuthority host)
  match base with
  | none => withPath "file" (authority none) [] cs
  | some b =>
    if startsWithDrive cs then withPath "file" (authority none) [] cs
    else
      match b.firstSegment? with
      | some s =>
        if isNormalDriveLetter s.toList then withPath "file" (authority none) [s] cs
        else withPath "file" (authority (b.authority.bind (·.host))) [] cs
      | none => withPath "file" (authority (b.authority.bind (·.host))) [] cs

/-! ## Relative addresses -/

/-- Replace query and fragment. -/
def withTail (u : Url) (cs : List Char) : Url :=
  let tail := readTail (kindOf u.scheme) cs
  { u with query := tail.1, fragment := tail.2 }

/-- Replace the last segment of the path, and what follows it. -/
def withLastSegment (u : Url) (cs : List Char) : Url :=
  withPath u.scheme u.authority (shorten (kindOf u.scheme) u.segmentsOf) cs

/-- The address of a local file, relative to a base of that kind if there is one. -/
def readFile (base : Option Url) (cs : List Char) : Except Fault Url :=
  match cs, base with
  | c :: d :: rest, _ =>
    if isEitherSlash c && isEitherSlash d then readFileHost rest
    else if isEitherSlash c then .ok (readFileRoot base (d :: rest))
    else
      match base with
      | none => .ok (withPath "file" (some (fileAuthority none)) [] cs)
      | some b =>
        if c = '?' then .ok (b.withTail cs)
        else if c = '#' then .ok { b with fragment := readFragment cs }
        else if startsWithDrive cs then .ok (withPath "file" (some (fileAuthority none)) [] cs)
        else .ok (b.withLastSegment cs)
  | [], some b => .ok b.withoutFragment
  | [c], some b =>
    if isEitherSlash c then .ok (readFileRoot base [])
    else if c = '?' then .ok (b.withTail cs)
    else if c = '#' then .ok { b with fragment := readFragment cs }
    else .ok (b.withLastSegment cs)
  | [c], none =>
    .ok (withPath "file" (some (fileAuthority none)) [] (if isEitherSlash c then [] else cs))
  | [], none => .ok (withPath "file" (some (fileAuthority none)) [] [])

/-- An address relative to a base with segments. -/
def readRelative (base : Url) (cs : List Char) : Except Fault Url :=
  match cs with
  | [] => .ok base.withoutFragment
  | '#' :: _ => .ok { base with fragment := readFragment cs }
  | '?' :: _ => .ok (base.withTail cs)
  | '/' :: '/' :: rest => readAuthority base.scheme rest
  | c :: rest =>
    if isEitherSlash c then
      match rest with
      | d :: _ =>
        if isEitherSlash d then readAuthority base.scheme (rest.dropWhile isEitherSlash)
        else .ok (withPath base.scheme base.authority [] rest)
      | [] => .ok (withPath base.scheme base.authority [] rest)
    else .ok (base.withLastSegment cs)

/-! ## The whole address -/

/-- An address whose scheme has no special rules. -/
def readOther (scheme : String) (cs : List Char) : Except Fault Url :=
  match cs with
  | '/' :: '/' :: rest => readAuthority scheme rest
  | '/' :: rest => .ok (withPath scheme none [] rest)
  | _ =>
    let tail := readTail .other (pathTail cs)
    let text := component Percent.isControl (cs.takeWhile (!endsPath ·))
    .ok ⟨scheme, none, .rootless text, tail.1, tail.2⟩

/-- The rest of a text after its scheme. -/
def readAfterScheme (base : Option Url) (scheme : String) (cs : List Char) : Except Fault Url :=
  match kindOf scheme with
  | .file => readFile (base.filter (·.scheme == "file")) cs
  | .other => readOther scheme cs
  | .network =>
    match base.filter fun b ↦ b.scheme == scheme && (cs.takeWhile isEitherSlash).length < 2 with
    | some b => readRelative b cs
    | none => readAuthority scheme (cs.dropWhile isEitherSlash)

/-- A text without a scheme, relative to a base. -/
def readWithoutScheme (base : Url) (cs : List Char) : Except Fault Url :=
  match cs, base.path with
  | '#' :: _, _ => .ok { base with fragment := readFragment cs }
  | _, .rootless _ => .error .relativeToRootless
  | _, .segments _ =>
    if kindOf base.scheme = .file then readFile (some base) cs else readRelative base cs

/-- The address that a text stands for, relative to a base if there is one. -/
def read (base : Option Url) (text : List Char) : Except Fault Url :=
  let cs := clean text
  match splitScheme? cs with
  | some (scheme, rest) => readAfterScheme base scheme rest
  | none =>
    match base with
    | none => .error .relativeWithoutBase
    | some b => readWithoutScheme b cs

def ofText (text : String) : Except Fault Url := read none text.toList

/-- Resolve a path or an address against a base. -/
def resolve (base : Url) (text : String) : Except Fault Url := read (some base) text.toList

end PasskeyCeremony.Url
