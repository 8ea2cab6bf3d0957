import PasskeyCeremony.Ceremony.Outcome
import PasskeyCeremony.Ceremony.Retrieval

/-!
# Surroundings that differ in diagnoses

An exception of the platform and a lost request come with a text for diagnosis, and a name that is
not recognised is one more such text. Two answers are alike if they differ in such texts only, and
two surroundings are if they go on to give answers that are alike. Where it is said of a request
that refusals of it are not read, the bodies of refusals may differ as well.

`Program.Matches` compares two programs, action by action, when they are given answers that are
alike. It is closed under putting programs together, so a ceremony is compared with itself piece by
piece; `Matches.run` carries the comparison over to runs. Failures are compared by what the user is
told about them, which never depends on the text for diagnosis (`Failure.Alike.toast`).
-/

namespace PasskeyCeremony

/-! ## Texts for diagnosis -/

/-- A name that carries a meaning. -/
def Exception.IsRecognised (name : String) : Prop :=
  name = "AbortError" ∨ name = "NotAllowedError" ∨ name = "InvalidStateError"

/-- Exceptions that differ in their texts, or in names of which none is recognised. -/
def Exception.Alike (e e' : Exception) : Prop :=
  e.name = e'.name ∨ (¬IsRecognised e.name ∧ ¬IsRecognised e'.name)

/-- Failures of the platform with the same meaning. -/
inductive PlatformFailure.Alike : PlatformFailure → PlatformFailure → Prop where
  | aborted {d d' : String} : Alike (.aborted d) (.aborted d')
  | notAllowed {d d' : String} : Alike (.notAllowed d) (.notAllowed d')
  | invalidState {d d' : String} : Alike (.invalidState d) (.invalidState d')
  | other {name name' d d' : String} : Alike (.other name d) (.other name' d')

/-- Failures that differ in texts for diagnosis. -/
inductive Failure.Alike : Failure → Failure → Prop where
  | refl (f : Failure) : Alike f f
  | network {context d d' : String} : Alike (.network context d) (.network context d')
  | platform {p p' : PlatformFailure} (h : p.Alike p') : Alike (.platform p) (.platform p')

/-- Answers that are equal, or refusals that differ in their bodies where those are not read. -/
def Http.Response.Alike (unread : Prop) (a a' : Http.Response) : Prop :=
  a = a' ∨ (unread ∧ a.isSuccess = false ∧ a' = { a with body := a'.body })

/-- Both have values, or both fail, in ways that are related. -/
inductive Likewise {ε α : Type} (failures : ε → ε → Prop) (values : α → α → Prop) :
    Except ε α → Except ε α → Prop where
  | ok {a a' : α} (h : values a a') : Likewise failures values (.ok a) (.ok a')
  | error {e e' : ε} (h : failures e e') : Likewise failures values (.error e) (.error e')

/-- Answers to an action that differ in texts for diagnosis, and in bodies that are not read. -/
def Action.AnswersAlike (unread : Http.Request → Prop) : (q : Action) → q.Answer → q.Answer → Prop
  | send r => Likewise (fun _ _ ↦ True) (Http.Response.Alike (unread r))
  | create _ | await => Likewise Exception.Alike Eq
  | awaitWithin _ => Option.Rel (Likewise Exception.Alike Eq)
  | chooseName _ => Likewise Failure.Alike Eq
  | submit _ | redirect _ => Likewise Failure.Alike Eq
  | askConditional | retrieve _ | abandon | abort | confirm _ | notify _ => Eq

/-- Surroundings whose answers stay alike while their states are related. -/
structure Surroundings.Alike {σ τ : Type} (unread : Http.Request → Prop) (w : Surroundings σ)
    (w' : Surroundings τ) (related : σ → τ → Prop) : Prop where
  answers : ∀ s t, related s t → ∀ q,
    Option.Rel (q.AnswersAlike unread) (w.respond s q).1 (w'.respond t q).1
  states : ∀ s t, related s t → ∀ q, related (w.respond s q).2 (w'.respond t q).2

/-- Runs with the same actions, results that are related, and states that are. -/
structure Run.Alike {σ τ α : Type} (related : σ → τ → Prop) (ends : α → α → Prop) (r : Run σ α)
    (r' : Run τ α) : Prop where
  result : Option.Rel ends r.result r'.result
  actions : r.events.map (·.action) = r'.events.map (·.action)
  state : related r.state r'.state

/-! ## What the user is told -/

theorem Likewise.refl {ε α : Type} {failures : ε → ε → Prop} {values : α → α → Prop}
    (hfailures : ∀ e, failures e e) (hvalues : ∀ a, values a a) (x : Except ε α) :
    Likewise failures values x x := by
  cases x with
  | ok a => exact .ok (hvalues a)
  | error e => exact .error (hfailures e)

theorem Action.answersAlike_of_eq {unread : Http.Request → Prop} {q : Action}
    {answer? answer?' : Option q.Answer} (h : answer? = answer?') :
    Option.Rel (q.AnswersAlike unread) answer? answer?' := by
  obtain rfl := h
  cases answer? with
  | none => exact .none
  | some answer =>
    refine .some ?_
    have hexception : ∀ e : Exception, e.Alike e := fun _ ↦ Or.inl rfl
    cases q with
    | send r =>
      match answer with
      | .ok a => exact .ok (Or.inl rfl)
      | .error l => exact .error trivial
    | create _ | await => exact .refl hexception (fun _ ↦ rfl) answer
    | awaitWithin _ =>
      match answer with
      | none => exact .none
      | some reply => exact .some (.refl hexception (fun _ ↦ rfl) reply)
    | chooseName _ | submit _ | redirect _ => exact .refl .refl (fun _ ↦ rfl) answer
    | askConditional | retrieve _ | abandon | abort | confirm _ | notify _ => exact rfl

/-- The meaning of an exception does not depend on its text, nor on a name that is not
recognised. -/
theorem Exception.Alike.classify {e e' : Exception} (h : e.Alike e') :
    e.classify.Alike e'.classify := by
  rw [Exception.classify, Exception.classify]
  rcases h with hname | ⟨hother, hother'⟩
  · rw [hname]
    split
    · exact .aborted
    split
    · exact .notAllowed
    split
    · exact .invalidState
    · exact .other
  · simp only [IsRecognised, not_or] at hother hother'
    rw [if_neg hother.1, if_neg hother.2.1, if_neg hother.2.2, if_neg hother'.1,
      if_neg hother'.2.1, if_neg hother'.2.2]
    exact .other

theorem PlatformFailure.Alike.isBenign {p p' : PlatformFailure} (h : p.Alike p') :
    p.isBenign = p'.isBenign := by
  cases h <;> rfl

theorem PlatformFailure.Alike.toast {p p' : PlatformFailure} (h : p.Alike p') (op : Operation) :
    (p.report op).toast = (p'.report op).toast := by
  cases h <;> rfl

/-- **No text for diagnosis is shown.** -/
theorem Failure.Alike.toast {f f' : Failure} (h : f.Alike f') (op : Operation) :
    (f.report op).toast = (f'.report op).toast := by
  cases h with
  | refl => rfl
  | network => rfl
  | platform hp => exact hp.toast op

theorem Program.report_congr {f f' : Failure} (h : f.Alike f') (op : Operation) :
    report op f = report op f' := by
  rw [report, report, h.toast op]

/-! ## Programs that are given answers alike -/

namespace Program

variable {α β : Type} {unread : Http.Request → Prop} {ends : α → α → Prop}

/-- The programs do the same as long as they are given answers that are alike, and their results are
related. -/
inductive Matches (unread : Http.Request → Prop) (ends : α → α → Prop) :
    Program α → Program α → Prop where
  | done {a a' : α} (h : ends a a') : Matches unread ends (done a) (done a')
  | ask {q : Action} {next next' : q.Answer → Program α}
      (h : ∀ answer answer', q.AnswersAlike unread answer answer' →
        Matches unread ends (next answer) (next' answer')) :
      Matches unread ends (ask q next) (ask q next')

theorem Matches.mono {p p' : Program α} {ends' : α → α → Prop} (h : Matches unread ends p p')
    (hends : ∀ a a', ends a a' → ends' a a') : Matches unread ends' p p' := by
  induction h with
  | done h => exact .done (hends _ _ h)
  | ask _ ih => exact .ask ih

theorem Matches.bind {p p' : Program α} {f f' : α → Program β} {ends' : β → β → Prop}
    (h : Matches unread ends p p')
    (hf : ∀ a a', ends a a' → Matches unread ends' (f a) (f' a')) :
    Matches unread ends' (p >>= f) (p' >>= f') := by
  induction h with
  | done h => exact hf _ _ h
  | ask _ ih => exact .ask ih

/-- **Programs that match run alike** in surroundings that are alike. -/
theorem Matches.run {σ τ : Type} {w : Surroundings σ} {w' : Surroundings τ}
    {related : σ → τ → Prop} {p p' : Program α} (h : Matches unread ends p p')
    (hw : w.Alike unread w' related) {s : σ} {t : τ} (hst : related s t) :
    (p.run w s).Alike related ends (p'.run w' t) := by
  induction h generalizing s t with
  | done h => exact ⟨.some h, rfl, hst⟩
  | @ask q next next' _ ih =>
    have hanswers := hw.answers s t hst q
    have hstates := hw.states s t hst q
    rw [Program.run, Program.run]
    rcases hleft : w.respond s q with ⟨answer?, s'⟩
    rcases hright : w'.respond t q with ⟨answer?', t'⟩
    rw [hleft, hright] at hanswers hstates
    cases hanswers with
    | none => exact ⟨.none, rfl, hstates⟩
    | some hanswer =>
      obtain ⟨hresult, hactions, hstate⟩ := ih _ _ hanswer hstates
      exact ⟨hresult, congrArg (q :: ·) hactions, hstate⟩

end Program

/-! ## The pieces of a ceremony -/

namespace Attempt

variable {α β : Type} {unread : Http.Request → Prop}

/-- The attempts do the same as long as they are given answers that are alike, and come to the same
value or to failures that are alike. -/
abbrev Matches (unread : Http.Request → Prop) (x x' : Attempt α) : Prop :=
  Program.Matches unread (Likewise Failure.Alike Eq) x.run x'.run

theorem matches_ofExcept {x x' : Except Failure α} (h : Likewise Failure.Alike Eq x x') :
    Matches unread (ofExcept x) (ofExcept x') := .done h

/-- Values may differ in between, as long as what follows does not tell them apart. -/
theorem matches_bind_of {values : α → α → Prop} {x x' : Attempt α} {f f' : α → Attempt β}
    (hx : Program.Matches unread (Likewise Failure.Alike values) x.run x'.run)
    (hf : ∀ a a', values a a' → Matches unread (f a) (f' a')) :
    Matches unread (x >>= f) (x' >>= f') := by
  rw [Matches, ExceptT.run_bind, ExceptT.run_bind]
  refine hx.bind fun r r' hr ↦ ?_
  cases hr with
  | ok h => exact hf _ _ h
  | error h => exact .done (.error h)

theorem matches_bind {x x' : Attempt α} {f f' : α → Attempt β} (hx : Matches unread x x')
    (hf : ∀ a, Matches unread (f a) (f' a)) : Matches unread (x >>= f) (x' >>= f') := by
  refine matches_bind_of hx fun a a' h ↦ ?_
  obtain rfl := h
  exact hf a

/-! ### The server -/

theorem matches_exchange (context : String) (request : Http.Request) :
    Program.Matches unread (Likewise Failure.Alike (Http.Response.Alike (unread request)))
      (exchange context request).run (exchange context request).run := by
  rw [exchange, ExceptT.run_mk]
  split
  · refine .ask fun answer answer' hanswer ↦ ?_
    cases hanswer with
    | ok h => exact .done (.ok h)
    | error _ => exact .done (.error .network)
  · exact .done (.error (.refl _))

theorem fetchOptions_of_endpoint {c : Client} {name context csrfToken : String}
    {read : Http.Response → Except Failure α} {url : Url} (hurl : c.endpoint name = .ok url) :
    fetchOptions c name context csrfToken read =
      exchange context (Client.optionsRequest url csrfToken) >>= fun a ↦ ofExcept (read a) := by
  rw [fetchOptions, hurl]
  rfl

theorem matches_fetchOptions {c : Client} {name context csrfToken : String}
    {read : Http.Response → Except Failure α}
    (hread : ∀ url, c.endpoint name = .ok url → unread (Client.optionsRequest url csrfToken) →
      ∀ a a', a.isSuccess = false → a' = { a with body := a'.body } → read a = read a') :
    Matches unread (fetchOptions c name context csrfToken read)
      (fetchOptions c name context csrfToken read) := by
  cases hurl : c.endpoint name with
  | error f =>
    rw [fetchOptions, hurl]
    exact .done (.error (.refl f))
  | ok url =>
    rw [fetchOptions_of_endpoint hurl]
    refine matches_bind_of (matches_exchange context _) fun a a' h ↦ ?_
    have hsame : read a = read a' := by
      rcases h with rfl | ⟨hunread, hfailed, hbody⟩
      · rfl
      · exact hread url hurl hunread a a' hfailed hbody
    rw [hsame]
    exact matches_ofExcept (.refl .refl (fun _ ↦ rfl) _)

/-! ### The platform -/

theorem matches_credentialOf {reply reply' : PlatformReply}
    (h : Likewise Exception.Alike Eq reply reply') :
    Likewise Failure.Alike Eq (credentialOf reply) (credentialOf reply') := by
  cases h with
  | ok h =>
    obtain rfl := h
    exact .refl .refl (fun _ ↦ rfl) _
  | error h => exact .error (.platform h.classify)

theorem matches_create (options : CreationOptions) :
    Matches unread (create options) (create options) :=
  .ask fun _ _ hreply ↦ .done (matches_credentialOf hreply)

theorem matches_retrieve (options : RequestOptions) :
    Matches unread (retrieve options) (retrieve options) :=
  .ask fun _ _ _ ↦ .ask fun _ _ hreply ↦ .done (matches_credentialOf hreply)

theorem matches_retrieveWithin (window : Nat) (options : RequestOptions) :
    Matches unread (retrieveWithin window options) (retrieveWithin window options) := by
  refine .ask fun available available' h ↦ ?_
  obtain rfl : available = available' := h
  cases available with
  | false => exact matches_retrieve options
  | true =>
    refine .ask fun _ _ _ ↦ .ask fun reply reply' hreply ↦ ?_
    cases hreply with
    | none => exact .ask fun _ _ _ ↦ .ask fun _ _ _ ↦ matches_retrieve options
    | some h => exact .done (matches_credentialOf h)

/-! ### The page -/

theorem matches_confirm (q : Question) : Matches unread (confirm q) (confirm q) := by
  refine .ask fun answer answer' h ↦ ?_
  obtain rfl : answer = answer' := h
  exact .done (.ok rfl)

theorem matches_notify (toast : Toast) : Matches unread (notify toast) (notify toast) :=
  .ask fun _ _ _ ↦ .done (.ok rfl)

theorem matches_chooseName (inUse : List String) :
    Matches unread (chooseName inUse) (chooseName inUse) :=
  .ask fun _ _ h ↦ .done h

theorem matches_submit (form : Form) : Matches unread (submit form) (submit form) :=
  .ask fun _ _ h ↦ .done h

theorem matches_redirect (path : String) : Matches unread (redirect path) (redirect path) :=
  .ask fun _ _ h ↦ .done h

end Attempt

theorem Program.matches_report {unread : Http.Request → Prop} (op : Operation) {f f' : Failure}
    (h : f.Alike f') : Matches unread Eq (report op f) (report op f') := by
  rw [report_congr h op, report]
  split
  · exact .ask fun _ _ _ ↦ .done rfl
  · exact .done rfl

end PasskeyCeremony
