import PasskeyCeremony.Proofs.Authentication.Course
import PasskeyCeremony.Proofs.Registration.Course
import PasskeyCeremony.Session.Sample

/-!
# The token of the page

A ceremony is started with the token of the page. All that it sends bears this token: a request as a
header, a form as one of its fields. What may be sent is fixed by the courses of the ceremonies, so
this is read off their rules (`Next.bears`).

A token may hold characters that no header can hold. Then the first request cannot be put on the
wire, and since every ceremony begins with a request, nothing else happens either: the user is told,
or the caller of a deletion is. The courses say what may come next and not what must, so for this
the programs themselves are computed, from the one piece that they begin with
(`Attempt.fetchOptions_of_not_isHeaderValue`).
-/

namespace PasskeyCeremony

variable {csrfToken : String}

/-! ## What bears the token -/

/-- The request is one for options or one to delete, with the token as a header. -/
inductive Http.Request.Bears (csrfToken : String) : Http.Request → Prop where
  | options (url : Url) :
      Bears csrfToken ⟨.post, url, some csrfToken, some "application/x-www-form-urlencoded", none⟩
  | deletion (url : Url) (credential : String) :
      Bears csrfToken ⟨.delete, url, some csrfToken, some "text/plain", some credential⟩

/-- The form has one field for the token, and it holds the token. -/
def Form.Bears (csrfToken : String) (form : Form) : Prop :=
  form.fields.filter (fun field ↦ field.1 = "csrfToken") = [("csrfToken", csrfToken)]

/-- What the action sends bears the token. -/
def Action.Bears (csrfToken : String) : Action → Prop
  | send request => request.Bears csrfToken
  | submit form => form.Bears csrfToken
  | _ => True

theorem Registration.bears_form (c : Client) (created : Credential) (csrfToken name : String)
    (existing : Option Credential) : (form c created csrfToken name existing).Bears csrfToken := by
  rw [Form.Bears, form]
  cases existing <;> simp

theorem Authentication.bears_form (target : String) (credential : Credential) (csrfToken : String) :
    (form target credential csrfToken).Bears csrfToken := by
  rw [Form.Bears, form]
  simp

theorem Registration.Next.bears {c : Client} {inUse : List String} {h : List Event} {q : Action}
    (hnext : Next c csrfToken inUse h q) : q.Bears csrfToken := by
  cases hnext with
  | ask _ | options _ _ => exact .options _
  | submit _ _ => exact bears_form _ _ _ _ _
  | confirm _ _ | retrieve _ _ | await _ _ | inform _ _ | create _ _ | name _ _ | notify =>
    exact trivial

theorem Authentication.Next.bears {c : Client} {target : String} {h : List Event} {q : Action}
    (hnext : Next c target csrfToken h q) : q.Bears csrfToken := by
  cases hnext with
  | ask _ => exact .options _
  | retrieve _ hretrieving => cases hretrieving <;> exact trivial
  | submit _ _ => exact bears_form _ _ _
  | redirect _ _ | tell _ _ _ => exact trivial

theorem Deletion.Next.bears {c : Client} {id : String} {h : List Event} {q : Action}
    (hnext : Next c id csrfToken h q) : q.Bears csrfToken := by
  cases hnext with
  | ask _ _ => exact .options _
  | delete _ _ _ => exact .deletion _ _
  | redirect _ | retrieve _ | await _ => exact trivial

/-- What every next action has, every action of a run has. -/
theorem Program.Follows.forall_events {σ α : Type} {p : Program α}
    {next : List Event → Action → Prop} {ends : List Event → α → Prop} {good : Action → Prop}
    (hp : p.Follows next ends []) (hgood : ∀ h q, next h q → good q) (w : Surroundings σ) (s : σ) :
    ∀ e ∈ (p.run w s).events, good e.action := by
  intro e he
  obtain ⟨before, after, hsplit⟩ := List.append_of_mem he
  exact hgood before e.action ((hp.course w s).1 before e after hsplit)

/-! ## A token that no header can hold -/

/-- The failures of a request that is not sent: it has no address, or cannot be put on the wire. -/
inductive Failure.Unsent : Failure → Prop where
  | network (context detail : String) : Unsent (.network context detail)
  | url (fault : Url.Fault) : Unsent (.url fault)

namespace Failure.Unsent

variable {f : Failure}

theorem isBenign (h : f.Unsent) : f.isBenign = false := by
  cases h <;> rfl

theorem exists_toast (h : f.Unsent) (op : Operation) :
    ∃ toast, (f.report op).toast = some toast := by
  cases h <;> exact ⟨_, rfl⟩

end Failure.Unsent

theorem Http.Request.isSendable_of_not_isHeaderValue (h : Http.isHeaderValue csrfToken = false)
    (url : Url) : (Client.optionsRequest url csrfToken).isSendable = false := by
  rw [isSendable, Client.optionsRequest, Option.all_some, h, Bool.and_false]

namespace Attempt

theorem exchange_of_not_isSendable {request : Http.Request} (h : request.isSendable = false)
    (context : String) :
    exchange context request =
      ofExcept (.error (.network context "the request cannot be sent")) := by
  rw [exchange, h, if_neg Bool.false_ne_true]
  rfl

/-- **No options are fetched** with a token that is no header value; the failure is that of a
request not sent. -/
theorem fetchOptions_of_not_isHeaderValue {α : Type} (h : Http.isHeaderValue csrfToken = false)
    (c : Client) (name context : String) (read : Http.Response → Except Failure α) :
    ∃ f : Failure, f.Unsent ∧ fetchOptions c name context csrfToken read = ofExcept (.error f) := by
  rw [fetchOptions]
  cases hurl : c.endpoint name with
  | error f =>
    obtain ⟨fault, rfl⟩ := Client.exists_fault_of_endpoint hurl
    exact ⟨_, .url fault, rfl⟩
  | ok url =>
    have hunsendable := Http.Request.isSendable_of_not_isHeaderValue h url
    refine ⟨_, .network context "the request cannot be sent", ?_⟩
    change (exchange context (Client.optionsRequest url csrfToken) >>= fun a ↦
      ofExcept (read a)) = _
    rw [exchange_of_not_isSendable hunsendable]
    rfl

/-- No options for signing in are issued for a token that is no header value, nor is it learnt
that there are no passkeys. -/
theorem requestOptions?_of_not_isHeaderValue (h : Http.isHeaderValue csrfToken = false)
    (c : Client) :
    ∃ f : Failure, f.Unsent ∧ requestOptions? c csrfToken = ofExcept (.error f) := by
  obtain ⟨f, hf, hfetch⟩ := fetchOptions_of_not_isHeaderValue h c "auth-options" requestContext
    readRequestOptions
  refine ⟨f, hf, ?_⟩
  rw [requestOptions?, requestOptions, hfetch]
  cases hf <;> rfl

end Attempt

/-- The run is one toast and comes to a failure, or to nothing where not even the toast is taken
notice of. -/
def FailsAtOnce {σ : Type} (w : Surroundings σ) (s : σ) (r : Run σ Outcome) : Prop :=
  ∃ toast, r.events = [⟨.notify toast, (w.respond s (.notify toast)).1⟩] ∧
    r.result = (w.respond s (.notify toast)).1.map fun _ ↦ .failed

theorem failsAtOnce_report {σ : Type} {op : Operation} {f : Failure} (hf : f.Unsent)
    (w : Surroundings σ) (s : σ) :
    FailsAtOnce w s ((do Program.report op f; return .failed : Program Outcome).run w s) := by
  obtain ⟨toast, htoast⟩ := hf.exists_toast op
  have hprogram : (do Program.report op f; return .failed : Program Outcome) =
      .ask (.notify toast) fun _ ↦ .done .failed := by
    rw [Program.report, htoast]
    rfl
  rw [hprogram]
  refine ⟨toast, ?_⟩
  rw [Program.run]
  rcases w.respond s (.notify toast) with ⟨_ | _, s'⟩ <;> exact ⟨rfl, rfl⟩

theorem register_of_not_isHeaderValue (h : Http.isHeaderValue csrfToken = false) (c : Client)
    (inUse : List String) : ∃ f : Failure, f.Unsent ∧
      register c csrfToken inUse = (do Program.report .registration f; return .failed) := by
  obtain ⟨f, hf, hfetch⟩ := Attempt.fetchOptions_of_not_isHeaderValue h c
    "registration-auth-options" requestContext readStepUpOptions
  refine ⟨f, hf, ?_⟩
  rw [register, Registration.attempt, Attempt.stepUpOptions, hfetch]
  rfl

theorem authenticate_of_not_isHeaderValue (h : Http.isHeaderValue csrfToken = false) (c : Client)
    (target : String) : ∃ f : Failure, f.Unsent ∧
      authenticate c target csrfToken = (do Program.report .authentication f; return .failed) := by
  obtain ⟨f, hf, hoptions⟩ := Attempt.requestOptions?_of_not_isHeaderValue h c
  refine ⟨f, hf, ?_⟩
  rw [authenticate_eq, Authentication.attempt, hoptions]
  change Authentication.conclude (.error f) = _
  rw [Authentication.conclude, hf.isBenign, if_neg Bool.false_ne_true]

theorem delete_of_not_isHeaderValue (h : Http.isHeaderValue csrfToken = false) (c : Client)
    (id : String) : ∃ f : Failure, (delete c id csrfToken).run = .done (.error f) := by
  obtain ⟨f, -, hoptions⟩ := Attempt.requestOptions?_of_not_isHeaderValue h c
  refine ⟨f, ?_⟩
  rw [delete, hoptions]
  rfl

/-! ## Every run -/

/-- **All that ceremonies send bears the token of the page**, and with a token that no header can
hold nothing is sent, the platform is not asked, and the user is not asked either. -/
theorem ceremonies_bear_token {σ : Type} (w : Surroundings σ) (s : σ) (c : Client)
    (csrfToken target id : String) (inUse : List String) :
    (∀ e ∈ ((register c csrfToken inUse).run w s).events, e.action.Bears csrfToken) ∧
      (∀ e ∈ ((authenticate c target csrfToken).run w s).events, e.action.Bears csrfToken) ∧
      (∀ e ∈ ((delete c id csrfToken).run.run w s).events, e.action.Bears csrfToken) ∧
      (Http.isHeaderValue csrfToken = false →
        FailsAtOnce w s ((register c csrfToken inUse).run w s) ∧
        FailsAtOnce w s ((authenticate c target csrfToken).run w s) ∧
        ((delete c id csrfToken).run.run w s).events = [] ∧
        ∃ f, ((delete c id csrfToken).run.run w s).result = some (.error f)) := by
  refine ⟨?_, ?_, ?_, fun htoken ↦ ⟨?_, ?_, ?_⟩⟩
  · exact (register_follows c csrfToken inUse).forall_events
      (fun _ _ hnext ↦ Registration.Next.bears hnext) w s
  · exact (authenticate_follows c target csrfToken).forall_events
      (fun _ _ hnext ↦ Authentication.Next.bears hnext) w s
  · exact (delete_follows c id csrfToken).forall_events
      (fun _ _ hnext ↦ Deletion.Next.bears hnext) w s
  · obtain ⟨f, hf, hregister⟩ := register_of_not_isHeaderValue htoken c inUse
    rw [hregister]
    exact failsAtOnce_report hf w s
  · obtain ⟨f, hf, hauthenticate⟩ := authenticate_of_not_isHeaderValue htoken c target
    rw [hauthenticate]
    exact failsAtOnce_report hf w s
  · obtain ⟨f, hdelete⟩ := delete_of_not_isHeaderValue htoken c id
    rw [hdelete]
    exact ⟨rfl, f, rfl⟩

/-- With a line break in the token, the ceremonies fail in scripted surroundings, where toasts are
taken notice of. -/
theorem ceremonies_bear_token_line_break :
    ∃ (c : Client) (s : Session.State), Http.isHeaderValue "a\nb" = false ∧
      ((register c "a\nb" []).run Session.surroundings s).result = some .failed ∧
      ((authenticate c "/" "a\nb").run Session.surroundings s).result = some .failed ∧
      ((delete c "id" "a\nb").run.run Session.surroundings s).events = [] := by
  have htoken : Http.isHeaderValue "a\nb" = false := by decide
  obtain ⟨-, -, -, hrefused⟩ := ceremonies_bear_token Session.surroundings
    (Session.Sample.session []) Session.Sample.client "a\nb" "/" "id" []
  obtain ⟨⟨toast, -, hregister⟩, ⟨toast', -, hauthenticate⟩, hdelete, -⟩ := hrefused htoken
  exact ⟨_, _, htoken, hregister, hauthenticate, hdelete⟩

end PasskeyCeremony
