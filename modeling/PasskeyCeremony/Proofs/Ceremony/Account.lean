import PasskeyCeremony.Proofs.Ceremony.Closing
import PasskeyCeremony.Proofs.Session.Navigation
import PasskeyCeremony.Session.Sample

/-!
# What an outcome stands for

The caller of a registration or an authentication learns the outcome and nothing else, so it has to
agree with what the user saw and with what left the page. `Accounts` says what each outcome stands
for, and `outcome_accounts` that it does so in every run whose page is orderly. How a ceremony
closes is known by then (`Closes`), and every fact about the outcome is read off the decisive
events, of which there are at most two.
-/

namespace PasskeyCeremony

/-! ## What was told -/

def Event.toast? (e : Event) : Option Toast :=
  match e.action with
  | .notify toast => some toast
  | _ => none

/-- The toasts that were shown, in order. -/
def shownToasts (events : List Event) : List Toast := events.filterMap Event.toast?

theorem shownToasts_decisive (events : List Event) :
    shownToasts (decisive events) = shownToasts events := by
  rw [shownToasts, decisive, List.filterMap_filter, shownToasts]
  congr 1
  funext e
  obtain ⟨q, answer⟩ := e
  cases q <;> first | rfl | exact ite_self none

theorem shownToasts_eq_nil_of_lost {events : List Event}
    (hlost : ∀ e ∈ decisive events, e.IsLost) : shownToasts events = [] := by
  rw [← shownToasts_decisive, shownToasts, List.filterMap_eq_nil_iff]
  intro e he
  cases hlost e he <;> rfl

/-! ## What an outcome stands for -/

/-- What the outcome of a ceremony stands for. -/
structure Accounts (op : Operation) (c : Client) (csrfToken : String) (events : List Event)
    (outcome : Outcome) : Prop where
  /-- It is said that a form was submitted just where one was. -/
  submitted_iff : outcome = .submitted ↔ ∃ form, ⟨.submit form, some (.ok ())⟩ ∈ events
  /-- Where a form was submitted there was no other submission, and nothing was told. -/
  submitted : outcome = .submitted →
    (events.filter fun e ↦ e.action.isSubmission).length = 1 ∧ shownToasts events = []
  /-- It is said that something failed just where the user was told about an error or warned. -/
  failed_iff : outcome = .failed ↔
    ∃ toast ∈ shownToasts events, toast.kind = .error ∨ toast.kind = .warning
  /-- Where something failed there was one toast, and it was the last thing to happen. -/
  failed : outcome = .failed →
    ∃ before toast, events = before ++ [⟨.notify toast, some ()⟩] ∧ shownToasts before = []
  /-- Where the user did not go through with it, the page was not left, and nobody tried. -/
  cancelled : outcome = .cancelled → ∀ e ∈ events,
    e.action.isSubmission = false ∧ e.action.isRedirect = false
  /-- A user who would not use the passkey they have was told that this is the end. -/
  declined : outcome = .cancelled → refusal ∈ events →
    shownToasts events = [Registration.declined]
  /-- A user who did not go through with it for another reason was told nothing. -/
  dismissed : outcome = .cancelled → refusal ∉ events → shownToasts events = []
  /-- It is said that the user was sent elsewhere just where they tried to sign in, the server said
  that there are no passkeys, and the redirect succeeded. -/
  redirected_iff : outcome = .redirected ↔ op = .authentication ∧
    (∃ url a, c.endpoint "auth-options" = .ok url ∧
      Deletion.asked csrfToken url (.ok a) ∈ events ∧ a.status = 400) ∧
    ⟨.redirect c.settings.accountSetupPath, some (.ok ())⟩ ∈ events
  /-- Where the user was sent elsewhere nothing else happened. -/
  redirected : outcome = .redirected → ∃ url a, a.status = 400 ∧
    events = [Deletion.asked csrfToken url (.ok a),
      ⟨.redirect c.settings.accountSetupPath, some (.ok ())⟩]

/-! ## What is read off -/

namespace Closes

variable {op : Operation} {c : Client} {csrfToken : String} {events : List Event}
  {outcome : Outcome}

theorem submitted_of_mem (h : Closes op c csrfToken events outcome) {form : Form}
    (hmem : ⟨.submit form, some (.ok ())⟩ ∈ events) : outcome = .submitted := by
  have hdecides := mem_decisive hmem rfl
  cases h with
  | submitted _ => rfl
  | dismissed hdecisive | declined hdecisive =>
    rw [hdecisive] at hdecides
    simp [refusal] at hdecides
  | redirected _ _ _ => simp at hmem
  | failed hlost _ =>
    rw [decisive_append, List.mem_append] at hdecides
    rcases hdecides with hdecides | hdecides
    · cases hlost _ hdecides
    · cases List.mem_singleton.mp hdecides

theorem redirected_of_mem (h : Closes op c csrfToken events outcome) {path : String}
    (hmem : ⟨.redirect path, some (.ok ())⟩ ∈ events) : outcome = .redirected := by
  have hdecides := mem_decisive hmem rfl
  cases h with
  | submitted hdecisive =>
    rw [decisive_append, hdecisive] at hdecides
    cases List.mem_singleton.mp hdecides
  | dismissed hdecisive | declined hdecisive =>
    rw [hdecisive] at hdecides
    simp [refusal] at hdecides
  | redirected _ _ _ => rfl
  | failed hlost _ =>
    rw [decisive_append, List.mem_append] at hdecides
    rcases hdecides with hdecides | hdecides
    · cases hlost _ hdecides
    · cases List.mem_singleton.mp hdecides

/-- A toast that tells about an error or warns shows that the flow failed. -/
theorem failed_of_mem (h : Closes op c csrfToken events outcome) {toast : Toast}
    (hmem : toast ∈ shownToasts events) (hkind : toast.kind = .error ∨ toast.kind = .warning) :
    outcome = .failed := by
  rw [← shownToasts_decisive] at hmem
  cases h with
  | submitted hdecisive =>
    rw [decisive_append, hdecisive] at hmem
    cases hmem
  | dismissed hdecisive =>
    rw [hdecisive] at hmem
    cases hmem
  | declined hdecisive =>
    rw [hdecisive] at hmem
    obtain rfl : toast = Registration.declined := List.mem_singleton.mp hmem
    rcases hkind with hkind | hkind <;> cases hkind
  | redirected _ _ _ => cases hmem
  | failed _ _ => rfl

theorem submitted_once (h : Closes op c csrfToken events .submitted) :
    (events.filter fun e ↦ e.action.isSubmission).length = 1 ∧ shownToasts events = [] := by
  obtain @⟨before, form, hdecisive⟩ := h
  have hbefore : before.filter (fun e ↦ e.action.isSubmission) = [] := by
    rw [List.filter_eq_nil_iff]
    intro e he hsubmission
    have hpage : e.action.isPage = true := by
      by_contra hpage
      rw [Action.isSubmission_of_isPage (eq_false_of_ne_true hpage)] at hsubmission
      cases hsubmission
    have hdecides := mem_decisive he (isDecisive_of_isPage hpage)
    rw [hdecisive] at hdecides
    cases hdecides
  constructor
  · rw [List.filter_append, hbefore]
    rfl
  · rw [← shownToasts_decisive, decisive_append, hdecisive]
    rfl

theorem stays_of_cancelled (h : Closes op c csrfToken events .cancelled) {e : Event}
    (he : e ∈ events) : e.action.isSubmission = false ∧ e.action.isRedirect = false := by
  cases hpage : e.action.isPage with
  | false => exact ⟨Action.isSubmission_of_isPage hpage, Action.isRedirect_of_isPage hpage⟩
  | true =>
    have hdecides := mem_decisive he (isDecisive_of_isPage hpage)
    cases h with
    | dismissed hdecisive =>
      rw [hdecisive] at hdecides
      cases hdecides
    | declined hdecisive =>
      rw [hdecisive, List.mem_cons, List.mem_singleton] at hdecides
      rcases hdecides with rfl | rfl <;> exact ⟨rfl, rfl⟩

/-- **An outcome stands for what happened.** -/
theorem accounts (h : Closes op c csrfToken events outcome) :
    Accounts op c csrfToken events outcome where
  submitted_iff := by
    refine ⟨?_, fun ⟨_, hmem⟩ ↦ h.submitted_of_mem hmem⟩
    rintro rfl
    obtain @⟨before, form, _⟩ := h
    exact ⟨form, List.mem_append_right _ List.mem_cons_self⟩
  submitted := by
    rintro rfl
    exact h.submitted_once
  failed_iff := by
    refine ⟨?_, fun ⟨_, hmem, hkind⟩ ↦ h.failed_of_mem hmem hkind⟩
    rintro rfl
    obtain _ | _ | _ | _ | @⟨before, toast, _, hkind⟩ := h
    exact ⟨toast, by simp [shownToasts, Event.toast?], hkind⟩
  failed := by
    rintro rfl
    obtain _ | _ | _ | _ | @⟨before, toast, hlost, _⟩ := h
    exact ⟨before, toast, rfl, shownToasts_eq_nil_of_lost hlost⟩
  cancelled := by
    rintro rfl e he
    exact h.stays_of_cancelled he
  declined := by
    rintro rfl hrefusal
    rw [← shownToasts_decisive]
    cases h with
    | dismissed hdecisive =>
      have hdecides := mem_decisive hrefusal rfl
      rw [hdecisive] at hdecides
      cases hdecides
    | declined hdecisive =>
      rw [hdecisive]
      rfl
  dismissed := by
    rintro rfl hrefusal
    rw [← shownToasts_decisive]
    cases h with
    | dismissed hdecisive =>
      rw [hdecisive]
      rfl
    | declined hdecisive =>
      have hmem : refusal ∈ decisive events := by
        rw [hdecisive]
        exact List.mem_cons_self
      exact absurd (List.mem_filter.mp hmem).1 hrefusal
  redirected_iff := by
    refine ⟨?_, fun ⟨_, _, hmem⟩ ↦ h.redirected_of_mem hmem⟩
    rintro rfl
    obtain _ | _ | _ | ⟨hop, hurl, hstatus⟩ := h
    exact ⟨hop, ⟨_, _, hurl, List.mem_cons_self, hstatus⟩,
      List.mem_cons_of_mem _ List.mem_cons_self⟩
  redirected := by
    rintro rfl
    obtain _ | _ | _ | ⟨_, _, hstatus⟩ := h
    exact ⟨_, _, hstatus, rfl⟩

end Closes

/-! ## Every run -/

/-- The ceremonies that come to an outcome. -/
inductive IsCeremony (c : Client) (csrfToken : String) : Operation → Program Outcome → Prop where
  | registration (inUse : List String) :
      IsCeremony c csrfToken .registration (register c csrfToken inUse)
  | authentication (target : String) :
      IsCeremony c csrfToken .authentication (authenticate c target csrfToken)

/-- **The outcome of a ceremony stands for what happened.** There is one in every run in which
everything is answered. -/
theorem outcome_accounts {σ : Type} (w : Surroundings σ) (s : σ) (c : Client) (csrfToken : String)
    {op : Operation} {p : Program Outcome} (hp : IsCeremony c csrfToken op p)
    (horderly : Orderly (p.run w s).events) :
    ((∀ e ∈ (p.run w s).events, e.answer ≠ none) → ∃ outcome, (p.run w s).result = some outcome) ∧
      ∀ outcome, (p.run w s).result = some outcome →
        Accounts op c csrfToken (p.run w s).events outcome := by
  refine ⟨Program.exists_result_of_answered w p s, fun outcome hresult ↦ ?_⟩
  cases hp with
  | registration inUse =>
    have hends := ((register_follows c csrfToken inUse).course w s).2 outcome hresult
    exact (hends.closes horderly).accounts
  | authentication target =>
    have hends := ((authenticate_follows c target csrfToken).course w s).2 outcome hresult
    exact (hends.closes horderly).accounts

/-- A server that says that there are no passkeys, and a page that leads elsewhere. -/
theorem outcome_redirected :
    ∃ (s : Session.State) (c : Client),
      Orderly ((authenticate c "/login" "token").run Session.surroundings s).events ∧
      ((authenticate c "/login" "token").run Session.surroundings s).result = some .redirected ∧
      Accounts .authentication c "token"
        ((authenticate c "/login" "token").run Session.surroundings s).events .redirected := by
  let s : Session.State :=
    { Session.Sample.session [("POST /passkey/auth-options",
        [.answer Session.Sample.unregistered])] with
      navigator := .requesting (Session.Sample.address [""]) }
  let request :=
    Client.optionsRequest (Session.Sample.address ["passkey", "auth-options"]) "token"
  have hurl : Url.resolve (Session.Sample.address [""]) "/user-account" =
      .ok (Session.Sample.address ["user-account"]) := rfl
  have hplays : (authenticate Session.Sample.client "/login" "token").Plays Session.surroundings s
      [⟨.send request, some (.ok Session.Sample.unregistered)⟩,
        ⟨.redirect "/user-account", some (.ok ())⟩]
      (some .redirected) := by
    have hleft : (Session.surroundings.respond (s.record [.request request])
        (.redirect "/user-account")).1 = some (.ok ()) := by
      rw [Session.State.answer_redirect rfl hurl]
      rfl
    refine .step rfl rfl ?_
    exact .step rfl hleft (Program.plays_done _ _)
  have horderly := Session.orderly_of_requesting (s := s)
    (authenticate Session.Sample.client "/login" "token") rfl
  exact ⟨s, _, horderly, hplays.2, (outcome_accounts Session.surroundings s Session.Sample.client
    "token" (.authentication "/login") horderly).2 _ hplays.2⟩

end PasskeyCeremony
