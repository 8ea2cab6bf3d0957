import PasskeyCeremony.Ceremony.Action

/-!
# Programs of actions

A ceremony is a program: it either has a result, or does an action and goes on with whatever it is
told in answer. A program knows nothing of its surroundings; run in some, it leaves a trace of its
actions with their answers. The surroundings may leave an action without an answer, which is where
the run ends; a caller that drops a ceremony while it waits shows in the same way.

Programs are finite however long the surroundings go on, so running them needs no bound.
-/

namespace PasskeyCeremony

/-- A program of actions with a result. -/
inductive Program (α : Type) : Type where
  /-- Nothing is left to do. -/
  | done (result : α)
  /-- Do an action and go on with the answer. -/
  | ask (action : Action) (next : action.Answer → Program α)

namespace Program

variable {α β γ σ : Type}

def perform (action : Action) : Program action.Answer := ask action done

def bind : Program α → (α → Program β) → Program β
  | done a, f => f a
  | ask q next, f => ask q fun answer ↦ (next answer).bind f

instance : Monad Program where
  pure := done
  bind := bind

@[simp] theorem pure_eq (a : α) : (pure a : Program α) = done a := rfl

@[simp] theorem done_bind (a : α) (f : α → Program β) : done a >>= f = f a := rfl

@[simp] theorem ask_bind (q : Action) (next : q.Answer → Program α) (f : α → Program β) :
    ask q next >>= f = ask q fun answer ↦ next answer >>= f := rfl

@[simp] theorem bind_done (p : Program α) : p >>= done = p := by
  induction p with
  | done a => rfl
  | ask q next ih => simp [ih]

theorem bind_assoc (p : Program α) (f : α → Program β) (g : β → Program γ) :
    p >>= f >>= g = p >>= fun a ↦ f a >>= g := by
  induction p with
  | done a => rfl
  | ask q next ih => simp [ih]

instance : LawfulMonad Program :=
  LawfulMonad.mk' Program bind_done (fun _ _ ↦ rfl) bind_assoc

end Program

/-! ## Running -/

/-- An action and its answer, if it got one. -/
structure Event where
  /-- What was done. -/
  action : Action
  /-- What was answered. -/
  answer : Option action.Answer

/-- Surroundings with states of their own: how they answer an action, if they do. -/
structure Surroundings (σ : Type) where
  /-- The answer to an action, and the state afterwards. -/
  respond : σ → (action : Action) → Option action.Answer × σ

/-- What came of a program. -/
structure Run (σ α : Type) where
  /-- The result, if the program came to its end. -/
  result : Option α
  /-- The actions, in order. -/
  events : List Event
  /-- The state of the surroundings at the end. -/
  state : σ

def Program.run {σ α : Type} (w : Surroundings σ) : Program α → σ → Run σ α
  | done a, s => ⟨some a, [], s⟩
  | ask q next, s =>
    match w.respond s q with
    | (none, s) => ⟨none, [⟨q, none⟩], s⟩
    | (some answer, s) =>
      let rest := (next answer).run w s
      ⟨rest.result, ⟨q, some answer⟩ :: rest.events, rest.state⟩

/-! ## Programs that may fail -/

/-- A program that has a result or fails. -/
abbrev Attempt (α : Type) := ExceptT Failure Program α

namespace Attempt

variable {α : Type}

/-- A program that does not fail. -/
def ofProgram (p : Program α) : Attempt α := ExceptT.lift p

/-- Go on with a value, or fail. -/
def ofExcept (x : Except Failure α) : Attempt α := ExceptT.mk (.done x)

end Attempt

end PasskeyCeremony
