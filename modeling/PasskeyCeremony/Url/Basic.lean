import PasskeyCeremony.Url.Address
import PasskeyCeremony.Url.Domain
import PasskeyCeremony.Url.Fault

/-!
# Addresses

A parsed address: scheme, authority, path, query and fragment, each in its encoded form. A path is
either a list of segments, written with a slash before each of them, or a text without such
structure. Schemes differ in what they require; six of them are special: they always have segments,
five of them always have a host, and each of the five has a port that is left out when written.
-/

namespace PasskeyCeremony

/-- The host of an address. -/
inductive Url.Host where
  /-- A name. -/
  | domain (name : String)
  /-- Four bytes as one number. -/
  | ipv4 (address : Nat)
  /-- Eight groups. -/
  | ipv6 (groups : List Nat)
  deriving DecidableEq, Repr

/-- What stands between the two slashes and the path. -/
structure Url.Authority where
  /-- The user name, possibly empty. -/
  username : String
  /-- The password, possibly empty. -/
  password : String
  /-- The host, if it is not empty. -/
  host : Option Url.Host
  /-- The port, if it is not the one of the scheme. -/
  port : Option Nat
  deriving DecidableEq, Repr

/-- The path of an address. -/
inductive Url.Path where
  /-- Segments, each written after a slash. -/
  | segments (segments : List String)
  /-- A text without structure. -/
  | rootless (text : String)
  deriving DecidableEq, Repr

/-- An address. -/
structure Url where
  /-- The scheme, in lowercase. -/
  scheme : String
  /-- The authority, if there is one. -/
  authority : Option Url.Authority
  /-- The path. -/
  path : Url.Path
  /-- The query, without its question mark. -/
  query : Option String
  /-- The fragment, without its number sign. -/
  fragment : Option String
  deriving DecidableEq, Repr

namespace Url

/-! ## Schemes -/

/-- The rules that a scheme follows. -/
inductive SchemeKind where
  /-- The scheme of local files. -/
  | file
  /-- A scheme that requires a host. -/
  | network
  /-- Any other scheme. -/
  | other
  deriving DecidableEq, Repr

/-- The rules of a scheme. -/
def kindOf (scheme : String) : SchemeKind :=
  if scheme = "file" then .file
  else if scheme ∈ ["http", "https", "ws", "wss", "ftp"] then .network
  else .other

/-- The scheme has special rules. -/
def SchemeKind.isSpecial : SchemeKind → Bool
  | .other => false
  | _ => true

def defaultPort? (scheme : String) : Option Nat :=
  if scheme = "http" ∨ scheme = "ws" then some 80
  else if scheme = "https" ∨ scheme = "wss" then some 443
  else if scheme = "ftp" then some 21
  else none

/-- The address can be requested over HTTP. -/
def isHttp (u : Url) : Bool := u.scheme == "http" || u.scheme == "https"

/-! ## Writing -/

def Host.write : Host → List Char
  | .domain name => name.toList
  | .ipv4 a => Ipv4.write a
  | .ipv6 gs => '[' :: Ipv6.write gs ++ [']']

def Authority.write (a : Authority) : List Char :=
  a.username.toList ++
  (if a.password.isEmpty then [] else ':' :: a.password.toList) ++
  (if a.username.isEmpty && a.password.isEmpty then [] else ['@']) ++
  (match a.host with
    | some h => h.write
    | none => []) ++
  (match a.port with
    | some p => ':' :: (toString p).toList
    | none => [])

def writeSegments (segments : List String) : List Char := segments.flatMap fun s ↦ '/' :: s.toList

def Path.write : Path → List Char
  | .segments ss => writeSegments ss
  | .rootless t => t.toList

/-- Without an authority, a path must not begin with two slashes: a dot segment keeps them apart. -/
def pathGuard (u : Url) : List Char :=
  match u.authority, u.path with
  | none, .segments ("" :: _ :: _) => ['/', '.']
  | _, _ => []

/-- A component with its mark, if it is there. -/
def writeComponent (mark : Char) : Option String → List Char
  | some t => mark :: t.toList
  | none => []

def write (u : Url) : List Char :=
  u.scheme.toList ++ ':' ::
    ((match u.authority with
      | some a => '/' :: '/' :: a.write
      | none => []) ++ u.pathGuard ++ u.path.write ++ writeComponent '?' u.query ++
      writeComponent '#' u.fragment)

def toText (u : Url) : String := String.ofList u.write

def withoutFragment (u : Url) : Url := { u with fragment := none }

end Url

end PasskeyCeremony
