import PasskeyCeremony.Proofs.Ceremony.Closing
import PasskeyCeremony.Proofs.Retrieval.Platform

/-!
# Navigation by requests

A navigator that leaves the page by a request to the server fails where the address is none or the
request is lost, and the naming prompt fails where its dialog cannot be shown. So a session with
such a navigator is orderly (`orderly_of_requesting`), and the outcomes in it stand for what
happened.
-/

namespace PasskeyCeremony.Session

namespace State

variable {s : State} {base : Url}

/-- Leave the page by a request to the address that a text stands for. -/
def leave (s : State) (base : Url) (href context : String) (request : Url → Http.Request) :
    Except Failure Unit × State :=
  match Url.resolve base href with
  | .error fault => (.error (.url fault), s)
  | .ok url => s.navigate context (request url)

theorem submit_of_requesting (hnavigator : s.navigator = .requesting base) (form : Form) :
    s.submit form =
      (s.record [.form form]).leave base form.action "submitting form" (formRequest · form) := by
  have hrecord : (s.record [.form form]).navigator = .requesting base := hnavigator
  rw [submit]
  rw [hrecord]
  rfl

theorem redirect_of_requesting (hnavigator : s.navigator = .requesting base) (path : String) :
    s.redirect path = (s.record [.redirect path]).leave base path "redirecting"
      (⟨.get, ·, none, none, none⟩) := by
  have hrecord : (s.record [.redirect path]).navigator = .requesting base := hnavigator
  rw [redirect]
  rw [hrecord]
  rfl

theorem answer_redirect {path : String} {url : Url} (hnavigator : s.navigator = .requesting base)
    (hurl : Url.resolve base path = .ok url) :
    (surroundings.respond s (.redirect path)).1 =
      some ((s.record [.redirect path]).navigate "redirecting"
        ⟨.get, url, none, none, none⟩).1 := by
  have hredirect := redirect_of_requesting hnavigator path
  rw [leave, hurl] at hredirect
  exact congrArg (fun r ↦ some r.1) hredirect

theorem navigator_leave (href context : String) (request : Url → Http.Request) :
    (s.leave base href context request).2.navigator = s.navigator := by
  rw [leave]
  split
  · rfl
  · rw [navigate]
    split
    · split
      · rename_i hsend
        exact congrArg (·.2.navigator) hsend.symm
      · rename_i hsend
        exact congrArg (·.2.navigator) hsend.symm
    · rfl

/-- The page is not left for want of an address or because the request is lost. -/
theorem fault_of_leave {href context : String} {request : Url → Http.Request} {f : Failure}
    (h : (s.leave base href context request).1 = .error f) :
    (∃ fault, f = .url fault) ∨ ∃ detail, f = .network context detail := by
  rw [leave] at h
  split at h
  · exact Or.inl ⟨_, (Except.error.inj h).symm⟩
  · rw [navigate] at h
    split at h
    · split at h
      · cases h
      · exact Or.inr ⟨_, (Except.error.inj h).symm⟩
    · exact Or.inr ⟨_, (Except.error.inj h).symm⟩

/-- Nothing changes the navigator, unless it follows a script of failures. -/
theorem navigator_respond (hnavigator : s.navigator = .requesting base) (q : Action) :
    (s.respond q).2.navigator = .requesting base := by
  cases q with
  | submit form =>
    change (s.submit form).2.navigator = .requesting base
    rw [submit_of_requesting hnavigator, navigator_leave]
    exact hnavigator
  | redirect path =>
    change (s.redirect path).2.navigator = .requesting base
    rw [redirect_of_requesting hnavigator, navigator_leave]
    exact hnavigator
  | send _ | askConditional | create _ | retrieve _ | await | awaitWithin _ | abandon | abort
  | confirm _ | chooseName _ | notify _ => exact hnavigator

theorem navigator_after (hnavigator : s.navigator = .requesting base) (actions : List Action) :
    (surroundings.after s actions).navigator = .requesting base := by
  induction actions generalizing s with
  | nil => exact hnavigator
  | cons q actions ih => exact ih (navigator_respond hnavigator q)

theorem unavailable_of_chooseName {inUse : List String} {f : Failure}
    (h : (s.chooseName inUse).1 = some (.error f)) : ∃ prompt, f = .promptUnavailable prompt := by
  obtain ⟨result, -, hanswer⟩ := Option.map_eq_some_iff.mp h
  cases result with
  | ended ending => cases hanswer
  | unavailable => exact ⟨_, (Except.error.inj hanswer).symm⟩

end State

/-- **A session that navigates by requests is orderly**, whatever is done in it. -/
theorem orderly_of_requesting {α : Type} (p : Program α) {s : State} {base : Url}
    (hnavigator : s.navigator = .requesting base) : Orderly (p.run surroundings s).events := by
  have hanswer : ∀ (q : Action) (answer : q.Answer),
      ⟨q, some answer⟩ ∈ (p.run surroundings s).events →
        ∃ s', s'.navigator = .requesting base ∧ (State.respond s' q).1 = some answer := by
    intro q answer he
    obtain ⟨before, after, hsplit⟩ := List.append_of_mem he
    exact ⟨_, State.navigator_after hnavigator _, (p.answer_of_run surroundings s hsplit).symm⟩
  constructor
  · intro form f he
    obtain ⟨s', hnavigator', hrespond⟩ := hanswer _ _ he
    have hleave : (s'.submit form).1 = .error f := Option.some.inj hrespond
    rw [State.submit_of_requesting hnavigator'] at hleave
    rcases State.fault_of_leave hleave with ⟨_, rfl⟩ | ⟨_, rfl⟩ <;>
      exact ⟨Failure.noConfusion, rfl⟩
  · intro path f he
    obtain ⟨s', hnavigator', hrespond⟩ := hanswer _ _ he
    have hleave : (s'.redirect path).1 = .error f := Option.some.inj hrespond
    rw [State.redirect_of_requesting hnavigator'] at hleave
    rcases State.fault_of_leave hleave with ⟨_, rfl⟩ | ⟨_, rfl⟩ <;>
      exact ⟨Failure.noConfusion, rfl⟩
  · intro inUse f he
    obtain ⟨s', -, hrespond⟩ := hanswer _ _ he
    obtain ⟨_, rfl⟩ := State.unavailable_of_chooseName hrespond
    exact Failure.noConfusion

end PasskeyCeremony.Session
