/-!
# Prompts as machines

A prompt serves any number of calls, and is given by its moves. A move is one uninterrupted piece of
one call, between two points at which the call may have to wait, so every interleaving of calls is a
sequence of moves, and a call dropped by its caller is one more move. What the view is told comes
out of the moves; the timing of a particular view is not part of them.

Calls have numbers, in the order in which they begin.
-/

namespace PasskeyCeremony

namespace Machine

/-- What a move leads to. -/
structure Progress (σ ε ρ : Type) where
  /-- The state after the move. -/
  state : σ
  /-- What the view was told, and what it handed over. -/
  calls : List ε
  /-- How the call ended, if the move ended it. -/
  result : Option ρ
  deriving DecidableEq, Repr

/-- What came of a sequence of moves. Whatever happened is kept with the number of its call. -/
structure History (σ ε ρ : Type) where
  /-- The state after the moves. -/
  state : σ
  /-- What the view was told, and what it handed over, in order. -/
  calls : List (Nat × ε)
  /-- How the calls ended that did, in order. -/
  results : List (Nat × ρ)
  deriving DecidableEq, Repr

end Machine

open Machine (Progress History)

/-- A prompt with states `σ` and moves `μ`. Its view is told, and hands over, things in `ε`, and its
calls end with results in `ρ`. -/
structure Machine (σ μ ε ρ : Type) where
  /-- A prompt that has not been used. -/
  initial : σ
  /-- The number of the next call. -/
  nextNumber : σ → Nat
  /-- No call is pending. -/
  IsIdle : σ → Prop
  /-- The call that makes a move. A call that begins has not made one yet. -/
  caller? : μ → Option Nat
  /-- Make a move, if the call is at a point where it can. -/
  step : σ → μ → Option (Progress σ ε ρ)

namespace Machine

variable {σ μ ε ρ : Type} (M : Machine σ μ ε ρ)

/-- The number of the call that a move belongs to. -/
def number (s : σ) (m : μ) : Nat := (M.caller? m).getD (M.nextNumber s)

/-- Make moves one after the other, if each of them can be made. -/
def run (s : σ) : List μ → Option (History σ ε ρ)
  | [] => some ⟨s, [], []⟩
  | m :: rest => do
    let p ← M.step s m
    let h ← run p.state rest
    let n := M.number s m
    return ⟨h.state, p.calls.map (n, ·) ++ h.calls, (p.result.map (n, ·)).toList ++ h.results⟩

end Machine

end PasskeyCeremony
