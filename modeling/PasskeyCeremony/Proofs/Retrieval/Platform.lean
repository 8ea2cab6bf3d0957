import PasskeyCeremony.Proofs.Ceremony.History
import PasskeyCeremony.Session.Surroundings

/-!
# Surroundings with a platform that keeps time

A program only sees whether a reply came within a window. Why it came or not is a matter of the
surroundings: a retrieval has a reply that takes its time, or never comes, and whoever waits for it
gets the reply if the delay is not longer than the window. `Surroundings.Platform` says this of
arbitrary surroundings; it leaves open what the platform answers to which retrieval, and everything
that is not the platform. The scripted surroundings of a session have such a platform
(`Session.platform`).

Surroundings with a platform leave no action of a retrieval without an answer, other than waiting
for a reply that never comes.
-/

namespace PasskeyCeremony

open Session (DelayedReply)

namespace Surroundings

variable {σ : Type} (w : Surroundings σ)

/-- A platform that keeps time, as a part of surroundings. -/
structure Platform where
  /-- What the platform says about involving the user conditionally. -/
  available : σ → Bool
  /-- The reply to the retrieval that has begun, and how long it takes. -/
  pending : σ → DelayedReply
  answers_askConditional : ∀ s, (w.respond s .askConditional).1 = some (available s)
  answers_retrieve : ∀ s r, (w.respond s (.retrieve r)).1 = some ()
  answers_await : ∀ s, (w.respond s .await).1 = (pending s).delay.map fun _ ↦ (pending s).reply
  /-- A reply that comes at the very end of the window still counts. -/
  answers_awaitWithin : ∀ s window,
    (w.respond s (.awaitWithin window)).1 = some ((pending s).within? window)
  answers_abandon : ∀ s, (w.respond s .abandon).1 = some ()
  answers_abort : ∀ s, (w.respond s .abort).1 = some ()

variable {w}

/-- The reply to a retrieval that begins after other actions. -/
def Platform.replyTo (p : w.Platform) (s : σ) (before : List Action) (r : Retrieval) :
    DelayedReply :=
  p.pending (w.after s (before ++ [.retrieve r]))

theorem Platform.respond_await (p : w.Platform) (s : σ) (before : List Action) (r : Retrieval) :
    (w.respond (w.after s (before ++ [.retrieve r])) .await).1 =
      (p.replyTo s before r).delay.map fun _ ↦ (p.replyTo s before r).reply :=
  p.answers_await _

theorem Platform.respond_awaitWithin (p : w.Platform) (s : σ) (before : List Action)
    (r : Retrieval) (window : Nat) :
    (w.respond (w.after s (before ++ [.retrieve r])) (.awaitWithin window)).1 =
      some ((p.replyTo s before r).within? window) :=
  p.answers_awaitWithin _ window

end Surroundings

/-- The platform of the scripted surroundings. -/
def Session.platform : Session.surroundings.Platform where
  available s := s.conditional.getD false
  pending s := s.outstanding.getD ⟨none, .ok none⟩
  answers_askConditional _ := rfl
  answers_retrieve _ _ := rfl
  answers_await s := by
    change (s.outstanding.bind fun r ↦ r.delay.map fun _ ↦ r.reply) = _
    cases s.outstanding <;> rfl
  answers_awaitWithin s window := by
    change some (s.outstanding.bind (·.within? window)) = _
    cases s.outstanding <;> rfl
  answers_abandon _ := rfl
  answers_abort _ := rfl

namespace Session.DelayedReply

variable {r : DelayedReply} {window : Nat}

theorem within?_of_le {d : Nat} (hdelay : r.delay = some d) (hle : d ≤ window) :
    r.within? window = some r.reply := by
  rw [within?, hdelay]
  exact if_pos (by simpa using hle)

theorem within?_of_forall_lt (h : ∀ d, r.delay = some d → window < d) :
    r.within? window = none := by
  rw [within?]
  cases hdelay : r.delay with
  | none => rfl
  | some d =>
    have hlt := h d hdelay
    exact if_neg (by simpa using hlt)

end Session.DelayedReply

end PasskeyCeremony
