import PasskeyCeremony.Proofs.Authentication.Course
import PasskeyCeremony.Session.Sample

/-!
# The order of an authentication

`Ordered` says in which order an authentication does what it does, in terms of kinds of actions and
of the answers alone: one request for options comes first, the platform is used only with options
that were issued, a user without a passkey is sent elsewhere and the platform is left alone, and one
form is submitted with the credential that the retrieval gave. `authenticate_ordered` holds of every
run in any surroundings.

A redirect can fail like anything else, and then the user is told. So a redirect is not the last
thing that happens to a user without a passkey, and `redirect_not_last` has a session where it is
not; what is told is fixed by the answer to the redirect (`redirectToast`).
-/

namespace PasskeyCeremony

namespace Authentication

open Deletion (OptionsIssued asked retrieval)

/-- What the user is told after a redirect: why it failed, unless that is benign. -/
def redirectToast : Option (Except Failure Unit) → Option Toast
  | some (.error f) => if f.isBenign then none else (f.report .authentication).toast
  | _ => none

/-- What is promised of the order of the events of an authentication. -/
structure Ordered (c : Client) (target csrfToken : String) (events : List Event) : Prop where
  /-- The first event is the request for options, unless that cannot be made. Then the user is
  told, and that is all. -/
  first : ∀ e rest, events = e :: rest →
    (∃ url, c.endpoint "auth-options" = .ok url ∧
      e.action = .send (Client.optionsRequest url csrfToken)) ∨
      rest = [] ∧ e.action.isToast = true
  /-- There is no other request. -/
  requested : ∀ before e after request, events = before ++ e :: after → e.action = .send request →
    before = []
  /-- The platform is used after an answer with options only. -/
  platform : ∀ before e after, events = before ++ e :: after → e.action.isPlatform = true →
    ∃ url a options rest, c.endpoint "auth-options" = .ok url ∧
      a.Issues RequestOptions.parse? options ∧ before = asked csrfToken url (.ok a) :: rest
  /-- Where the server says that there are no passkeys, one redirect follows, to the page where one
  can be set up. After it there is at most a toast that tells why it failed. -/
  unregistered : ∀ url a rest, events = asked csrfToken url (.ok a) :: rest → a.status = 400 →
    ∃ answer later, rest = ⟨.redirect c.settings.accountSetupPath, answer⟩ :: later ∧
      later.map (·.action) = (redirectToast answer).toList.map .notify
  /-- After any other answer that issues no options, and where there is no answer, the user is told
  something and nothing else happens. -/
  refused : ∀ url answer rest, events = asked csrfToken url answer :: rest →
    (∀ a, answer = .ok a → a.status ≠ 400 ∧ ∀ options, ¬a.Issues RequestOptions.parse? options) →
      ∀ e ∈ rest, e.action.isToast = true
  /-- At most one form is submitted. -/
  submitted_once : (events.filter fun e ↦ e.action.isSubmission).length ≤ 1
  /-- A form is submitted after a retrieval had a credential as its reply, to the target, and it
  carries this credential and the token, in this order. -/
  submitted : ∀ before e after f, events = before ++ e :: after → e.action = .submit f →
    ∃ first own options credential, before = first :: own ∧
      OptionsIssued c csrfToken options first ∧
      Retrieved c.settings options own (.ok (some credential)) ∧ f.action = target ∧
      f.fields = [("credentials", credential.normalizedText), ("csrfToken", csrfToken)]
  /-- A conditional retrieval begins only where the settings want it and the platform has just said
  that it offers it. -/
  conditional : ∀ before e after r, events = before ++ e :: after → e.action = .retrieve r →
    r.mediation = .conditional → c.settings.conditionalMediation = true ∧
      ∃ first, before = [first, ⟨.askConditional, some true⟩]

variable {c : Client} {target csrfToken : String}

/-! ## What comes before an action -/

private theorem Next.first {q : Action} (hnext : Next c target csrfToken [] q) :
    (∃ url, c.endpoint "auth-options" = .ok url ∧
      q = .send (Client.optionsRequest url csrfToken)) ∨ q.isToast = true := by
  cases hnext with
  | ask hurl => exact Or.inl ⟨_, hurl, rfl⟩
  | tell _ _ _ => exact Or.inr rfl

private theorem Next.answered {h : List Event} {q : Action} (hnext : Next c target csrfToken h q)
    (hq : q.isToast = false) (hne : h ≠ []) :
    ∃ url a rest, c.endpoint "auth-options" = .ok url ∧ h = asked csrfToken url (.ok a) :: rest ∧
      ((a.status = 400 ∧ rest = [] ∧ q = .redirect c.settings.accountSetupPath) ∨
        ∃ options, readRequestOptions a = .ok options ∧
          (Retrieving c.settings options rest q ∨
            ∃ credential, Retrieved c.settings options rest (.ok (some credential)) ∧
              q = .submit (form target credential csrfToken))) := by
  cases hnext with
  | ask _ => exact absurd rfl hne
  | redirect hurl hstatus => exact ⟨_, _, [], hurl, rfl, Or.inl ⟨hstatus, rfl, rfl⟩⟩
  | retrieve hissued hretrieving =>
    obtain ⟨hurl, hread⟩ := hissued
    exact ⟨_, _, _, hurl, rfl, Or.inr ⟨_, hread, Or.inl hretrieving⟩⟩
  | submit hissued hretrieved =>
    obtain ⟨hurl, hread⟩ := hissued
    exact ⟨_, _, _, hurl, rfl, Or.inr ⟨_, hread, Or.inr ⟨_, hretrieved, rfl⟩⟩⟩
  | tell _ _ _ => cases hq

private theorem Next.requested {h : List Event} {request : Http.Request}
    (hnext : Next c target csrfToken h (.send request)) : h = [] := by
  by_contra hne
  obtain ⟨_, _, _, -, -, ⟨-, -, hq⟩ | ⟨_, -, hretrieving | ⟨_, -, hq⟩⟩⟩ := hnext.answered rfl hne
  · cases hq
  · exact Bool.false_ne_true hretrieving.isPlatform.1
  · cases hq

private theorem Next.platform {h : List Event} {q : Action} (hnext : Next c target csrfToken h q)
    (hq : q.isPlatform = true) :
    ∃ url a options rest, c.endpoint "auth-options" = .ok url ∧
      a.Issues RequestOptions.parse? options ∧ h = asked csrfToken url (.ok a) :: rest ∧
      Retrieving c.settings options rest q := by
  have htoast : q.isToast = false := Action.isToast_of_isPage (Action.isPage_of_isPlatform hq)
  have hne : h ≠ [] := by
    rintro rfl
    rcases hnext.first with ⟨_, -, rfl⟩ | htold
    · cases hq
    · rw [htoast] at htold
      cases htold
  obtain ⟨url, a, rest, hurl, rfl, ⟨-, -, rfl⟩ | ⟨options, hread, hretrieving | ⟨_, -, rfl⟩⟩⟩ :=
    hnext.answered htoast hne
  · cases hq
  · exact ⟨url, a, options, rest, hurl, readRequestOptions_eq_ok_iff.mp hread, rfl, hretrieving⟩
  · cases hq

private theorem Next.submitted {h : List Event} {f : Form}
    (hnext : Next c target csrfToken h (.submit f)) :
    ∃ first own options credential, h = first :: own ∧ OptionsIssued c csrfToken options first ∧
      Retrieved c.settings options own (.ok (some credential)) ∧
      f = form target credential csrfToken := by
  cases hnext with
  | submit hissued hretrieved => exact ⟨_, _, _, _, rfl, hissued, hretrieved, rfl⟩
  | retrieve _ hretrieving => exact absurd hretrieving.isPlatform.1 Bool.false_ne_true

private theorem Retrieving.conditional {settings : Settings} {options : RequestOptions}
    {own : List Event} {r : Retrieval} (hretrieving : Retrieving settings options own (.retrieve r))
    (hr : r.mediation = .conditional) :
    settings.conditionalMediation = true ∧ own = [⟨.askConditional, some true⟩] := by
  cases hretrieving with
  | offer hon => exact ⟨hon, rfl⟩
  | dialog _ => cases hr

private theorem Next.refused {url : Url} {answer : Except Http.Lost Http.Response}
    {rest : List Event} {q : Action}
    (hnext : Next c target csrfToken (asked csrfToken url answer :: rest) q)
    (hrefused : ∀ a, answer = .ok a →
      a.status ≠ 400 ∧ ∀ options, ¬a.Issues RequestOptions.parse? options) : q.isToast = true := by
  by_contra hq
  obtain ⟨_, a, _, -, hh, hcase⟩ := hnext.answered (eq_false_of_ne_true hq) (List.cons_ne_nil _ _)
  cases hh
  rcases hcase with ⟨hstatus, -, -⟩ | ⟨options, hread, -⟩
  · exact (hrefused a rfl).1 hstatus
  · exact (hrefused a rfl).2 options (readRequestOptions_eq_ok_iff.mp hread)

/-- What follows an answer that there are no passkeys. -/
private theorem Next.unregistered {url : Url} {a : Http.Response} {rest : List Event} {q : Action}
    (hnext : Next c target csrfToken (asked csrfToken url (.ok a) :: rest) q)
    (hstatus : a.status = 400) :
    (rest = [] ∧ q = .redirect c.settings.accountSetupPath) ∨
      ∃ answer toast, rest = [⟨.redirect c.settings.accountSetupPath, answer⟩] ∧
        redirectToast answer = some toast ∧ q = .notify toast := by
  cases hq : q.isToast with
  | false =>
    obtain ⟨_, _, _, -, hh, ⟨-, rfl, rfl⟩ | ⟨options, hread, -⟩⟩ :=
      hnext.answered hq (List.cons_ne_nil _ _)
    · cases hh
      exact Or.inl ⟨rfl, rfl⟩
    · cases hh
      rw [readRequestOptions_eq_noRegistered_iff.mpr hstatus] at hread
      cases hread
  | true =>
    cases hnext with
    | tell hfails hbenign htoast =>
      refine Or.inr ⟨_, _, hfails.of_unregistered rfl hstatus, ?_, rfl⟩
      simpa [redirectToast, hbenign] using htoast
    | redirect _ _ => cases hq
    | retrieve _ hretrieving =>
      rw [Action.isToast_of_isPage (Action.isPage_of_isPlatform hretrieving.isPlatform.1)] at hq
      cases hq
    | submit _ _ => cases hq

private theorem Ends.unregistered {h rest : List Event} {outcome : Outcome} {url : Url}
    {a : Http.Response} (hends : Ends c target csrfToken h outcome)
    (hh : h = asked csrfToken url (.ok a) :: rest) (hstatus : a.status = 400) :
    ∃ answer later, rest = ⟨.redirect c.settings.accountSetupPath, answer⟩ :: later ∧
      later.map (·.action) = (redirectToast answer).toList.map .notify := by
  cases hends with
  | submitted hissued _ =>
    cases hh
    exact (hissued.not_refused (readRequestOptions_eq_noRegistered_iff.mpr hstatus)).elim
  | redirected _ _ =>
    cases hh
    exact ⟨_, [], rfl, rfl⟩
  | cancelled hfails hbenign =>
    exact ⟨_, [], hfails.of_unregistered hh hstatus, by simp [redirectToast, hbenign]⟩
  | silent hfails htoast =>
    exact ⟨_, [], hfails.of_unregistered hh hstatus, by simp [redirectToast, htoast]⟩
  | @told h f toast hfails hbenign htoast =>
    cases h with
    | nil => cases hh
    | cons first own =>
      obtain ⟨rfl, rfl⟩ := List.cons.inj hh
      rw [hfails.of_unregistered rfl hstatus]
      exact ⟨_, [⟨.notify toast, some ()⟩], rfl, by simp [redirectToast, hbenign, htoast]⟩

/-! ## Every run -/

section Course

variable {events : List Event} {result : Option Outcome}
  (hcourse : ∀ before e after, events = before ++ e :: after →
    Next c target csrfToken before e.action)

include hcourse

private theorem last_of_isToast (before : List Event) {after : List Event} {e : Event}
    (hsplit : events = before ++ e :: after) (he : e.action.isToast = true) : after = [] := by
  cases after with
  | nil => rfl
  | cons e' after =>
    have hnext := hcourse (before ++ [e]) e' after (by rw [hsplit, List.append_cons])
    rw [hnext.isToast (List.mem_append_right _ List.mem_cons_self)] at he
    cases he

private theorem refused_of_course {url : Url} {answer : Except Http.Lost Http.Response}
    {rest : List Event} (hevents : events = asked csrfToken url answer :: rest)
    (hrefused : ∀ a, answer = .ok a →
      a.status ≠ 400 ∧ ∀ options, ¬a.Issues RequestOptions.parse? options) {e : Event}
    (he : e ∈ rest) : e.action.isToast = true := by
  obtain ⟨before, after, rfl⟩ := List.append_of_mem he
  exact (hcourse (asked csrfToken url answer :: before) e after hevents).refused hrefused

private theorem submitted_once_of_course :
    (events.filter fun e ↦ e.action.isSubmission).length ≤ 1 := by
  refine length_filter_le_one fun before e after hsplit he e' he' ↦ ?_
  cases haction : e.action <;> simp [haction, Action.isSubmission] at he
  have hnext := hcourse before e after hsplit
  rw [haction] at hnext
  obtain ⟨_, _, _, _, rfl, hissued, hretrieved, -⟩ := hnext.submitted
  exact Action.isSubmission_of_isPage (isPage_of_retrieved hissued hretrieved he')

/-- After an answer that there are no passkeys, a redirect follows and then perhaps a toast. Whether
it does is decided by the end of the run. -/
private theorem unregistered_of_course {url : Url} {a : Http.Response} {rest : List Event}
    (hended : ∀ outcome, result = some outcome → Ends c target csrfToken events outcome)
    (hopen : result = none → ∃ before q, events = before ++ [⟨q, none⟩])
    (hevents : events = asked csrfToken url (.ok a) :: rest) (hstatus : a.status = 400) :
    ∃ answer later, rest = ⟨.redirect c.settings.accountSetupPath, answer⟩ :: later ∧
      later.map (·.action) = (redirectToast answer).toList.map .notify := by
  cases hresult : result with
  | some outcome => exact (hended outcome hresult).unregistered hevents hstatus
  | none =>
    -- the last event has no answer, so it is neither the first one nor a redirect that failed
    match rest with
    | [] => cases answer_eq_none_of_open (hopen hresult) [] hevents
    | [e] =>
      obtain ⟨q, answer⟩ := e
      obtain rfl : answer = none := answer_eq_none_of_open (hopen hresult) [_] hevents
      have hnext := hcourse [_] _ [] hevents
      obtain ⟨-, rfl⟩ | ⟨_, _, hredirect, -, -⟩ := hnext.unregistered hstatus
      · exact ⟨none, [], rfl, rfl⟩
      · cases hredirect
    | e :: e' :: later =>
      have hnext := hcourse [_, e] e' later hevents
      obtain ⟨hnil, -⟩ | ⟨answer, toast, hredirect, htold, htoast⟩ := hnext.unregistered hstatus
      · cases hnil
      · cases hredirect
        have hlast := last_of_isToast hcourse [_, _] hevents (by rw [htoast]; rfl)
        rw [hlast]
        exact ⟨answer, [e'], rfl, by simp [htold, htoast]⟩

end Course

end Authentication

/-- **An authentication is ordered** in every run. -/
theorem authenticate_ordered {σ : Type} (w : Surroundings σ) (s : σ) (c : Client)
    (target csrfToken : String) :
    Authentication.Ordered c target csrfToken
      ((authenticate c target csrfToken).run w s).events := by
  obtain ⟨hcourse, hended⟩ := (authenticate_follows c target csrfToken).course w s
  have hopen := Program.exists_unanswered_of_result w (authenticate c target csrfToken) s
  constructor
  · intro e rest hevents
    refine (hcourse [] e rest hevents).first.imp_right fun htoast ↦ ⟨?_, htoast⟩
    exact Authentication.last_of_isToast hcourse [] hevents htoast
  · intro before e after request hsplit hrequest
    exact (hrequest ▸ hcourse before e after hsplit).requested
  · intro before e after hsplit he
    obtain ⟨url, a, options, rest, hurl, hissues, hbefore, -⟩ :=
      (hcourse before e after hsplit).platform he
    exact ⟨url, a, options, rest, hurl, hissues, hbefore⟩
  · exact fun _ _ _ ↦ Authentication.unregistered_of_course hcourse hended hopen
  · exact fun _ _ _ hevents hrefused _ ↦
      Authentication.refused_of_course hcourse hevents hrefused
  · exact Authentication.submitted_once_of_course hcourse
  · intro before e after f hsplit hf
    obtain ⟨first, own, options, credential, hbefore, hissued, hretrieved, rfl⟩ :=
      (hf ▸ hcourse before e after hsplit).submitted
    exact ⟨first, own, options, credential, hbefore, hissued, hretrieved, rfl, rfl⟩
  · intro before e after r hsplit hr hmediation
    obtain ⟨_, _, _, rest, -, -, rfl, hretrieving⟩ :=
      (hr ▸ hcourse before e after hsplit).platform rfl
    obtain ⟨hon, rfl⟩ := hretrieving.conditional hmediation
    exact ⟨hon, _, rfl⟩

/-- A server that says that there are no passkeys, and a redirect that fails: the user is told, so
the redirect is not the last thing that happens. -/
theorem redirect_not_last :
    ∃ (s : Session.State) (c : Client), ¬∀ url a rest,
      ((authenticate c "/login" "token").run Session.surroundings s).events =
        Deletion.asked "token" url (.ok a) :: rest → a.status = 400 →
          ∃ answer, rest = [⟨.redirect c.settings.accountSetupPath, answer⟩] := by
  let failure : Failure := .network "redirecting" "connection refused"
  let s : Session.State :=
    { Session.Sample.session [("POST /passkey/auth-options",
        [.answer Session.Sample.unregistered])] with
      navigator := .recording [some failure] }
  refine ⟨s, Session.Sample.client, fun hlast ↦ ?_⟩
  have hplays : (authenticate Session.Sample.client "/login" "token").Plays Session.surroundings s
      [Deletion.asked "token" (Session.Sample.address ["passkey", "auth-options"])
          (.ok Session.Sample.unregistered),
        ⟨.redirect "/user-account", some (.error failure)⟩,
        ⟨.notify (.of "Network error while redirecting" .error), some ()⟩] (some .failed) := by
    refine .step rfl rfl ?_
    refine .step rfl rfl ?_
    exact .step rfl rfl (Program.plays_done _ _)
  obtain ⟨answer, hrest⟩ := hlast _ _ _ hplays.1 rfl
  simp at hrest

end PasskeyCeremony
