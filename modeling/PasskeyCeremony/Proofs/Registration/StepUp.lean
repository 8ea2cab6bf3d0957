import PasskeyCeremony.Proofs.Ceremony.Kinds
import PasskeyCeremony.Proofs.Options.Request
import PasskeyCeremony.Proofs.Registration.Course

/-!
# The step-up gate

A user who has a passkey registers another one only after using it. `Gated` says so of the events of
a registration, in terms of the kinds of actions alone: whatever enrols (a request after the first
one, the creation, the choice of a name, the form) comes after a complete step-up, no part of a
step-up comes after that, and the form carries the credential that the step-up gave. Without a
passkey no part of a step-up occurs at all.

`register_gated` holds of every run in any surroundings. It is read off the course of a registration
(`Registration.Next`) by three inversions, one for each kind of action: what comes before an
enrolment, before a part of the step-up, and before the form.
-/

namespace PasskeyCeremony

/-! ## Kinds of actions -/

namespace Action

/-- The action belongs to the registration proper; of requests this counts those after the first
one of a registration. -/
def isEnrolment : Action → Bool
  | send _ | create _ | chooseName _ | submit _ => true
  | _ => false

/-- The action asks the user for a confirmation or deals with a retrieval. -/
def isStepUp : Action → Bool
  | confirm _ | askConditional | retrieve _ | await | awaitWithin _ | abandon | abort => true
  | _ => false

theorem isEnrolment_of_isStepUp {q : Action} (h : q.isStepUp = true) : q.isEnrolment = false := by
  cases q <;> first | rfl | exact absurd h Bool.false_ne_true

theorem isSubmission_of_isEnrolment {q : Action} (h : q.isEnrolment = false) :
    q.isSubmission = false := by
  cases q <;> first | rfl | exact absurd h.symm Bool.false_ne_true

end Action

namespace Registration

variable {c : Client} {csrfToken : String} {inUse : List String}

/-! ## What comes before an action -/

private theorem Cleared.eq_cons {existing : Option Credential} {cleared : List Event}
    (h : Cleared c csrfToken existing cleared) :
    ∃ first rest options, cleared = first :: rest ∧ StepUpIssued c csrfToken options first ∧
      (∀ e ∈ rest, e.action.isStepUp = true) ∧
      ((options.hasRegistered = false ∧ existing = none ∧ rest = []) ∨
        ∃ credential answer, options.hasRegistered = true ∧ existing = some credential ∧
          rest = stepUpEvents options credential answer) := by
  cases h with
  | free hissued hfree =>
    exact ⟨_, [], _, rfl, hissued, by simp, Or.inl ⟨hfree, rfl, rfl⟩⟩
  | stepUp hissued hregistered =>
    refine ⟨_, _, _, rfl, hissued, ?_, Or.inr ⟨_, _, hregistered, rfl, rfl⟩⟩
    simp [stepUpEvents, Action.isStepUp]

/-- Nothing that enrols comes before the way is cleared, except for the very first request. -/
private theorem Next.enrolment {h : List Event} {q : Action} (hnext : Next c csrfToken inUse h q)
    (hq : q.isEnrolment = true) :
    h = [] ∨ ∃ existing cleared more, h = cleared ++ more ∧ Cleared c csrfToken existing cleared ∧
      (∀ e ∈ more, e.action.isStepUp = false) ∧
      ∀ f, q = .submit f → ∃ created name, f = form c created csrfToken name existing := by
  cases hnext with
  | ask _ => exact Or.inl rfl
  | confirm _ _ | retrieve _ _ | await _ _ | inform _ _ | notify => simp [Action.isEnrolment] at hq
  | options hcleared _ =>
    exact Or.inr ⟨_, _, [], by simp, hcleared, by simp, by simp⟩
  | create hcleared hissued =>
    refine Or.inr ⟨_, _, _, rfl, hcleared, ?_, by simp⟩
    obtain ⟨_, _⟩ := hissued
    simp [Action.isStepUp]
  | name hcleared hissued =>
    refine Or.inr ⟨_, _, _, rfl, hcleared, ?_, by simp⟩
    obtain ⟨_, _⟩ := hissued
    simp [Action.isStepUp]
  | submit hcleared hissued =>
    refine Or.inr ⟨_, _, _, rfl, hcleared, ?_, ?_⟩
    · obtain ⟨_, _⟩ := hissued
      simp [Action.isStepUp]
    · rintro f hf
      exact ⟨_, _, (Action.submit.inj hf).symm⟩

/-- A part of the step-up follows upon options with a registered passkey and other parts of the
step-up only. -/
private theorem Next.stepUp {h : List Event} {q : Action} (hnext : Next c csrfToken inUse h q)
    (hq : q.isStepUp = true) :
    ∃ first rest options, h = first :: rest ∧ StepUpIssued c csrfToken options first ∧
      options.hasRegistered = true ∧ ∀ e ∈ rest, e.action.isEnrolment = false := by
  cases hnext with
  | ask _ | options _ _ | create _ _ | name _ _ | submit _ _ | notify =>
    simp [Action.isStepUp] at hq
  | confirm hissued hregistered => exact ⟨_, _, _, rfl, hissued, hregistered, by simp⟩
  | retrieve hissued hregistered =>
    exact ⟨_, _, _, rfl, hissued, hregistered, by simp [Action.isEnrolment]⟩
  | await hissued hregistered =>
    exact ⟨_, _, _, rfl, hissued, hregistered, by simp [Action.isEnrolment]⟩
  | inform hissued hregistered =>
    exact ⟨_, _, _, rfl, hissued, hregistered, by simp [Action.isEnrolment]⟩

/-- A form is submitted after exactly one request for options, one creation and one choice of a
name, each of which had its result. -/
private theorem Next.submit_inv {h : List Event} {f : Form}
    (hnext : Next c csrfToken inUse h (.submit f)) :
    ∃ existing cleared options issued created name, Cleared c csrfToken existing cleared ∧
      CreationIssued c csrfToken options issued ∧
      h = cleared ++ [issued, ⟨.create options, some (.ok (some created))⟩,
        ⟨.chooseName inUse, some (.ok (some name))⟩] ∧
      f = form c created csrfToken name existing := by
  cases hnext with
  | submit hcleared hissued => exact ⟨_, _, _, _, _, _, hcleared, hissued, rfl, rfl⟩

/-! ## The gate -/

/-- What the step-up gate promises of the events of a registration. -/
structure Gated (c : Client) (csrfToken : String) (inUse : List String) (events : List Event) :
    Prop where
  /-- Nothing enrols unless the first event is a successful answer with options for a step-up. -/
  issued : ∀ before e after, events = before ++ e :: after → e.action.isEnrolment = true →
    before ≠ [] → ∃ url a options rest, c.endpoint "registration-auth-options" = .ok url ∧
      a.Issues RequestOptions.parse? options ∧
      before = ⟨.send (Client.optionsRequest url csrfToken), some (.ok a)⟩ :: rest
  /-- Where these options list a credential, whatever enrols comes after a complete step-up. From
  then on there is no part of a step-up, and a form carries the credential of the step-up. -/
  stepUp : ∀ options first rest, StepUpIssued c csrfToken options first →
    events = first :: rest → options.allowed ≠ [] →
    ∀ before e after, rest = before ++ e :: after → e.action.isEnrolment = true →
      ∃ credential answer more, before = stepUpEvents options credential answer ++ more ∧
        (∀ e' ∈ more ++ e :: after, e'.action.isStepUp = false) ∧
        ∀ f, e.action = .submit f → f.fields.filter (fun field ↦ field.1 == "credentials") =
          [("credentials", credential.normalizedText)]
  /-- Where they list none, no part of a step-up occurs, and a form carries no such credential. -/
  free : ∀ options first rest, StepUpIssued c csrfToken options first →
    events = first :: rest → options.allowed = [] →
    (∀ e ∈ events, e.action.isStepUp = false) ∧
      ∀ e ∈ events, ∀ f, e.action = .submit f →
        f.fields.filter (fun field ↦ field.1 == "credentials") = []
  /-- At most one form is submitted. -/
  submitted_once : (events.filter fun e ↦ e.action.isSubmission).length ≤ 1
  /-- A form comes after exactly one request for creation options, one creation with the options
  that were issued and one choice of a name, and it carries what these gave. -/
  submitted : ∀ before e after f, events = before ++ e :: after → e.action = .submit f →
    ∃ options issued created name, CreationIssued c csrfToken options issued ∧
      before.tail.filter (fun e ↦ e.action.isEnrolment) =
        [issued, ⟨.create options, some (.ok (some created))⟩,
          ⟨.chooseName inUse, some (.ok (some name))⟩] ∧
      f.action = c.settings.endpoint "register" ∧
      f.fields.filter (fun field ↦ field.1 != "credentials") =
        [("passkey", created.normalizedText), ("csrfToken", csrfToken), ("passkeyName", name)]

section Course

variable {events : List Event}
  (hcourse : ∀ before e after, events = before ++ e :: after →
    Next c csrfToken inUse before e.action)

include hcourse

private theorem issued_of_course {before after : List Event} {e : Event}
    (hsplit : events = before ++ e :: after) (he : e.action.isEnrolment = true)
    (hbefore : before ≠ []) :
    ∃ url a options rest, c.endpoint "registration-auth-options" = .ok url ∧
      a.Issues RequestOptions.parse? options ∧
      before = ⟨.send (Client.optionsRequest url csrfToken), some (.ok a)⟩ :: rest := by
  rcases (hcourse before e after hsplit).enrolment he with hnil | ⟨_, _, more, rfl, hcleared, -, -⟩
  · exact absurd hnil hbefore
  · obtain ⟨first, rest, options, rfl, hissued, -, -⟩ := hcleared.eq_cons
    obtain ⟨hurl, hread⟩ := hissued
    exact ⟨_, _, _, _, hurl, readStepUpOptions_eq_ok_iff.mp hread, rfl⟩

private theorem not_isStepUp_of_course {first e e' : Event} {before after : List Event}
    (hsplit : events = first :: before ++ e :: after) (he : e.action.isEnrolment = true)
    (he' : e' ∈ after) : e'.action.isStepUp = false := by
  rw [← Bool.not_eq_true]
  intro hstepUp
  -- `e` would come before a part of the step-up, where nothing enrols
  obtain ⟨between, later, rfl⟩ := List.append_of_mem he'
  have hnext := hcourse (first :: before ++ e :: between) e' later (by rw [hsplit]; simp)
  obtain ⟨first', rest, _, hcons, -, -, hrest⟩ := hnext.stepUp hstepUp
  obtain ⟨-, rfl⟩ := List.cons.inj hcons
  have hmem : e ∈ before ++ e :: between := by simp
  rw [hrest e hmem] at he
  exact Bool.false_ne_true he

private theorem stepUp_of_course {options : RequestOptions} {first e : Event}
    {before after : List Event} (hissued : StepUpIssued c csrfToken options first)
    (hallowed : options.allowed ≠ []) (hsplit : events = first :: before ++ e :: after)
    (he : e.action.isEnrolment = true) :
    ∃ credential answer more, before = stepUpEvents options credential answer ++ more ∧
      (∀ e' ∈ more ++ e :: after, e'.action.isStepUp = false) ∧
      ∀ f, e.action = .submit f → f.fields.filter (fun field ↦ field.1 == "credentials") =
        [("credentials", credential.normalizedText)] := by
  rcases (hcourse _ e after hsplit).enrolment he with
    hnil | ⟨_, _, more, hmore, hcleared, hlater, hform⟩
  · simp at hnil
  obtain ⟨first', rest, options', rfl, hissued', -, hexisting⟩ := hcleared.eq_cons
  obtain ⟨rfl, rfl⟩ := List.cons.inj hmore
  obtain rfl := hissued.unique hissued'
  rcases hexisting with ⟨hfree, -, -⟩ | ⟨credential, answer, -, rfl, rfl⟩
  · rw [RequestOptions.hasRegistered_iff.mpr hallowed] at hfree
    exact absurd hfree (by simp)
  refine ⟨credential, answer, more, rfl, ?_, ?_⟩
  · intro e' hmem
    rcases List.mem_append.mp hmem with hmem | hmem
    · exact hlater e' hmem
    rcases List.mem_cons.mp hmem with rfl | hmem
    · rw [← Bool.not_eq_true]
      intro hstepUp
      rw [Action.isEnrolment_of_isStepUp hstepUp] at he
      exact Bool.false_ne_true he
    · exact not_isStepUp_of_course hcourse hsplit he hmem
  · intro f hf
    obtain ⟨created, name, rfl⟩ := hform f hf
    simp [form]

private theorem free_of_course {options : RequestOptions} {first : Event} {rest : List Event}
    (hissued : StepUpIssued c csrfToken options first) (hevents : events = first :: rest)
    (hallowed : options.allowed = []) :
    (∀ e ∈ events, e.action.isStepUp = false) ∧
      ∀ e ∈ events, ∀ f, e.action = .submit f →
        f.fields.filter (fun field ↦ field.1 == "credentials") = [] := by
  -- no split of the events can begin with options that list a credential
  have hfirst : ∀ {first' options' more before e after}, events = before ++ e :: after →
      before = first' :: more → StepUpIssued c csrfToken options' first' →
      options'.hasRegistered = false := by
    rintro first' options' more before e after hsplit rfl hissued'
    rw [hevents] at hsplit
    obtain ⟨rfl, -⟩ := List.cons.inj hsplit
    obtain rfl := hissued.unique hissued'
    simp [RequestOptions.hasRegistered, hallowed]
  constructor
  · intro e he
    rw [← Bool.not_eq_true]
    intro hstepUp
    obtain ⟨before, after, hsplit⟩ := List.append_of_mem he
    obtain ⟨first', more, options', hbefore, hissued', hregistered, -⟩ :=
      (hcourse before e after hsplit).stepUp hstepUp
    rw [hfirst hsplit hbefore hissued'] at hregistered
    exact Bool.false_ne_true hregistered
  · intro e he f hf
    obtain ⟨before, after, hsplit⟩ := List.append_of_mem he
    have hnext := hcourse before e after hsplit
    rw [hf] at hnext
    obtain ⟨existing, _, _, _, created, name, hcleared, -, hbefore, rfl⟩ := hnext.submit_inv
    obtain ⟨first', more, options', rfl, hissued', -, hexisting⟩ := hcleared.eq_cons
    rcases hexisting with ⟨-, rfl, -⟩ | ⟨_, _, hregistered, -, -⟩
    · simp [form]
    · rw [hfirst hsplit hbefore hissued'] at hregistered
      exact absurd hregistered Bool.false_ne_true

private theorem submitted_of_course {before after : List Event} {e : Event} {f : Form}
    (hsplit : events = before ++ e :: after) (hf : e.action = .submit f) :
    (∀ e' ∈ before, e'.action.isSubmission = false) ∧
    ∃ options issued created name, CreationIssued c csrfToken options issued ∧
      before.tail.filter (fun e ↦ e.action.isEnrolment) =
        [issued, ⟨.create options, some (.ok (some created))⟩,
          ⟨.chooseName inUse, some (.ok (some name))⟩] ∧
      f.action = c.settings.endpoint "register" ∧
      f.fields.filter (fun field ↦ field.1 != "credentials") =
        [("passkey", created.normalizedText), ("csrfToken", csrfToken), ("passkeyName", name)] := by
  have hnext := hcourse before e after hsplit
  rw [hf] at hnext
  obtain ⟨existing, _, options, issued, created, name, hcleared, hissued, rfl, rfl⟩ :=
    hnext.submit_inv
  obtain ⟨first, rest, _, rfl, hfirst, hrest, -⟩ := hcleared.eq_cons
  have hnone : ∀ e' ∈ rest, e'.action.isEnrolment = false := fun e' he' ↦
    Action.isEnrolment_of_isStepUp (hrest e' he')
  refine ⟨?_, options, issued, created, name, hissued, ?_, rfl, ?_⟩
  · intro e' he'
    obtain ⟨_, _⟩ := hfirst
    obtain ⟨_, _⟩ := hissued
    rcases List.mem_append.mp he' with hmem | hmem
    · rcases List.mem_cons.mp hmem with rfl | hmem
      · rfl
      · exact Action.isSubmission_of_isEnrolment (hnone e' hmem)
    · simp only [List.mem_cons, List.not_mem_nil, or_false] at hmem
      rcases hmem with rfl | rfl | rfl <;> rfl
  · -- the parts of the step-up are filtered out, and what is left enrols
    obtain ⟨_, _⟩ := hissued
    rw [List.cons_append, List.tail_cons, List.filter_append,
      List.filter_eq_nil_iff.mpr fun e' he' ↦ by simp [hnone e' he']]
    simp [Action.isEnrolment]
  · cases existing <;> simp [form]

end Course

end Registration

/-- **The step-up gate** holds in every run of a registration. -/
theorem register_gated {σ : Type} (w : Surroundings σ) (s : σ) (c : Client) (csrfToken : String)
    (inUse : List String) :
    Registration.Gated c csrfToken inUse ((register c csrfToken inUse).run w s).events := by
  obtain ⟨hcourse, -⟩ := (register_follows c csrfToken inUse).course w s
  constructor
  · exact fun _ _ _ ↦ Registration.issued_of_course hcourse
  · rintro options first rest hissued hevents hallowed before e after rfl he
    exact Registration.stepUp_of_course hcourse hissued hallowed hevents he
  · exact fun _ _ _ ↦ Registration.free_of_course hcourse
  · refine length_filter_le_one fun before e after hsplit he ↦ ?_
    cases haction : e.action <;> simp [haction, Action.isSubmission] at he
    exact (Registration.submitted_of_course hcourse hsplit haction).1
  · exact fun _ _ _ _ hsplit hf ↦ (Registration.submitted_of_course hcourse hsplit hf).2

end PasskeyCeremony
