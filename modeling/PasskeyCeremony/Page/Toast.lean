import PasskeyCeremony.Json.Basic
import PasskeyCeremony.Log
import PasskeyCeremony.Page.Markup

/-!
# Toasts

Short notices for the user. A toast keeps the message as it is and carries it escaped for the page;
its kind decides the colour. On a host without a page the message goes to the log instead, at the
level that fits its kind.

A server can leave up to three messages for the next page: one of success, one of information and
one of an error. They are shown in that order.
-/

namespace PasskeyCeremony

/-- How serious a toast is. -/
inductive Toast.Kind where
  | error
  | warning
  | info
  | success
  deriving DecidableEq, Repr

/-- A notice, ready to be shown. -/
structure Toast where
  /-- The message as it was given. -/
  message : String
  /-- How serious it is. -/
  kind : Toast.Kind
  /-- The message inside markup. -/
  html : String
  /-- The style classes. -/
  classes : String
  deriving DecidableEq, Repr

namespace Toast

def Kind.name : Kind → String
  | error => "error"
  | warning => "warning"
  | info => "info"
  | success => "success"

def Kind.color : Kind → String
  | error => "red"
  | warning => "orange"
  | info => "blue"
  | success => "green"

def Kind.level : Kind → Log.Level
  | error => .error
  | warning => .warn
  | info | success => .info

def of (message : String) (kind : Kind) : Toast :=
  ⟨message, kind, Page.Markup.escapeText message, "rounded " ++ kind.color⟩

def logLine (t : Toast) : Log.Line := ⟨t.kind.level, t.message⟩

end Toast

/-- Messages that the server left for the page. -/
structure Flash where
  /-- What succeeded. -/
  success : Option String
  /-- What the user should know. -/
  info : Option String
  /-- What failed. -/
  error : Option String
  deriving DecidableEq

namespace Flash

/-- A message of a document: a string, or nothing where it is null or missing. -/
def message? : Option Json → Option (Option String)
  | none => some none
  | some .null => some none
  | some (.string s) => some (some s)
  | some _ => none

/-- The messages that a document holds, by their names or as a list of the three. -/
def ofJson? : Json → Option Flash
  | .object ms => do
    return ⟨← message? (Members.get? ms "success"), ← message? (Members.get? ms "info"),
      ← message? (Members.get? ms "error")⟩
  | .array [s, i, e] => do
    return ⟨← message? (some s), ← message? (some i), ← message? (some e)⟩
  | _ => none

/-- The toasts of the messages, in the order in which they are shown. -/
def toasts (f : Flash) : List Toast :=
  (f.success.map (Toast.of · .success)).toList ++ (f.info.map (Toast.of · .info)).toList ++
    (f.error.map (Toast.of · .error)).toList

end Flash

end PasskeyCeremony
