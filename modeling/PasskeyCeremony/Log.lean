/-!
# Log lines

What a step leaves in the log is part of its result: a value together with the lines written on
the way, in order. Nothing reads the lines back, so the value of a step never depends on them.
-/

namespace PasskeyCeremony

/-- How much a log line matters. -/
inductive Log.Level where
  | debug
  | info
  | warn
  | error
  deriving DecidableEq, Repr

/-- One line of the log. -/
structure Log.Line where
  /-- How much it matters. -/
  level : Log.Level
  /-- What it says. -/
  text : String
  deriving DecidableEq, Repr

/-- A value and the lines logged while it was computed, the oldest first. -/
structure Logged (α : Type) where
  /-- The value. -/
  value : α
  /-- The lines. -/
  log : List Log.Line

namespace Logged

variable {α β : Type}

def quiet (a : α) : Logged α := ⟨a, []⟩

def map (f : α → β) (x : Logged α) : Logged β := ⟨f x.value, x.log⟩

/-- Two values one after the other, combined. -/
def zipWith {γ : Type} (f : α → β → γ) (x : Logged α) (y : Logged β) : Logged γ :=
  ⟨f x.value y.value, x.log ++ y.log⟩

/-- Go on with a further step. -/
def andThen (x : Logged α) (f : α → Logged β) : Logged β :=
  ⟨(f x.value).value, x.log ++ (f x.value).log⟩

@[simp] theorem value_quiet (a : α) : (quiet a).value = a := rfl
@[simp] theorem log_quiet (a : α) : (quiet a).log = [] := rfl
@[simp] theorem value_map (f : α → β) (x : Logged α) : (x.map f).value = f x.value := rfl
@[simp] theorem log_map (f : α → β) (x : Logged α) : (x.map f).log = x.log := rfl

@[simp] theorem value_zipWith {γ : Type} (f : α → β → γ) (x : Logged α) (y : Logged β) :
    (zipWith f x y).value = f x.value y.value := rfl

@[simp] theorem log_zipWith {γ : Type} (f : α → β → γ) (x : Logged α) (y : Logged β) :
    (zipWith f x y).log = x.log ++ y.log := rfl

@[simp] theorem value_andThen (x : Logged α) (f : α → Logged β) :
    (x.andThen f).value = (f x.value).value := rfl

@[simp] theorem log_andThen (x : Logged α) (f : α → Logged β) :
    (x.andThen f).log = x.log ++ (f x.value).log := rfl

end Logged

end PasskeyCeremony
