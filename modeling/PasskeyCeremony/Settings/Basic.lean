import PasskeyCeremony.Log
import PasskeyCeremony.Text.Case
import PasskeyCeremony.Text.Numeral

/-!
# Settings

What a client takes from the variables of its environment. A variable that is not set has a default.
A switch is read without regard to case, and the window of a conditional request has to be a
positive number of milliseconds below `2 ^ 64`; any other value is warned about and replaced by the
default, so the window is never zero (`window_pos`).
-/

namespace PasskeyCeremony

/-- The variables that are set, with their values. -/
abbrev Environment := List (String × String)

/-- The settings of a client. -/
structure Settings where
  /-- What the paths of the passkey endpoints begin with. -/
  routePrefix : String
  /-- Where users without a passkey are sent. -/
  accountSetupPath : String
  /-- Try a conditional request first, when a user authenticates. -/
  conditionalMediation : Bool
  /-- How many milliseconds a conditional request may take. -/
  conditionalWindow : Nat
  deriving DecidableEq, Repr

namespace Settings

/-! ## The variables -/

def rawRoutePrefix (env : Environment) : String :=
  (env.lookup "PASSKEY_ROUTE_PREFIX").getD "/passkey"

/-- The page for users without a passkey. -/
def accountSetup (env : Environment) : String :=
  (env.lookup "PASSKEY_ACCOUNT_SETUP_PATH").getD "/user-account"

def dropSlashes (s : String) : String :=
  String.ofList (s.toList.reverse.dropWhile (· == '/')).reverse

/-- The value of a switch; a value that is neither on nor off is warned about and off. -/
def mediationSwitch : Option String → Logged Bool
  | none => .quiet false
  | some value =>
    let v := Text.toLower value
    if v ∈ ["true", "1", "yes"] then .quiet true
    else if v ∈ ["false", "0", "no"] then .quiet false
    else ⟨false, [⟨.warn, s!"Invalid conditional mediation flag: {v}. Using default 'false'"⟩]⟩

/-- The window when none is set. -/
def defaultWindow : Nat := 500

/-- Windows are below this bound. -/
def windowBound : Nat := Nat.pow 2 64

/-- The window of a conditional request; a value that is no positive number is warned about. -/
def window : Option String → Logged Nat
  | none => .quiet defaultWindow
  | some value =>
    match Text.unsignedBelow? windowBound value.toList with
    | some (n + 1) => .quiet (n + 1)
    | _ =>
      ⟨defaultWindow, [⟨.warn,
        s!"Invalid conditional mediation timeout: {value}. Using default {defaultWindow}ms"⟩]⟩

theorem window_pos (value : Option String) : 0 < (window value).value := by
  unfold window
  split
  · exact Nat.succ_pos _
  · split <;> exact Nat.succ_pos _

/-! ## The settings -/

def ofEnvironment (env : Environment) : Logged Settings :=
  .zipWith
    (fun mediation window ↦
      ⟨dropSlashes (rawRoutePrefix env), accountSetup env, mediation, window⟩)
    (mediationSwitch (env.lookup "PASSKEY_CONDITIONAL_MEDIATION"))
    (window (env.lookup "PASSKEY_CONDITIONAL_TIMEOUT_MS"))

def endpoint (s : Settings) (name : String) : String := s.routePrefix ++ "/" ++ name

end Settings

end PasskeyCeremony
