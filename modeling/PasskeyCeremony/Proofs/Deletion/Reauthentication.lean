import PasskeyCeremony.Proofs.Deletion.Course

/-!
# A passkey is used before one is deleted

The request to delete cannot be taken back, so it is the last thing that a deletion does, and what
comes before it is one successful retrieval. `Reauthenticated` says so of the events of a deletion
and of its result, and says besides what becomes of a user without a passkey and of a deletion that
fails before that request. `delete_reauthenticated` holds of every run in any surroundings.
-/

namespace PasskeyCeremony

namespace Deletion

variable {c : Client} {id csrfToken : String}

/-- The failure that a deletion comes to after a redirect: the one of the redirect, if it failed. -/
def redirectFailure : Except Failure Unit → Failure
  | .ok () => .noRegisteredPasskeys
  | .error f => f

/-- What is promised of the events of a deletion and of its result. -/
structure Reauthenticated (c : Client) (id csrfToken : String) (events : List Event)
    (result : Option (Except Failure Json)) : Prop where
  /-- At most one request to delete is made. -/
  deleted_once : (events.filter fun e ↦ e.action.isDeletion).length ≤ 1
  /-- The request to delete is the last event. Before it, options were issued and one retrieval
  with them had a credential as its reply, and this credential is the body of the request. -/
  deleted : ∀ before e after, events = before ++ e :: after → e.action.isDeletion = true →
    after = [] ∧ ∃ url a options credential target, c.endpoint "auth-options" = .ok url ∧
      a.Issues RequestOptions.parse? options ∧ c.passkeyUrl id = .ok target ∧
      before = asked csrfToken url (.ok a) :: retrieval options (.ok (some credential)) ∧
      e.action = .send (Client.deletionRequest target csrfToken credential.normalizedText)
  /-- Where the server says that there are no passkeys, a redirect is all that follows. It leads to
  the page where one can be set up, and it decides which failure the deletion comes to. -/
  redirected : ∀ url a rest, events = asked csrfToken url (.ok a) :: rest → a.status = 400 →
    ∃ answer, rest = [⟨.redirect c.settings.accountSetupPath, answer⟩] ∧
      result = answer.map fun reply ↦ .error (redirectFailure reply)
  /-- Any other failure before the request to delete is the result, and nothing follows it. -/
  failed : ∀ before f, Fails c id csrfToken before f → before <+: events →
    events = before ∧ result = some (.error f) ∧
      ∀ e ∈ events, e.action.isRedirect = false ∧ e.action.isDeletion = false
  /-- Without a redirect and a request to delete there is no other result. -/
  unfinished : ∀ r, result = some r →
    (∀ e ∈ events, e.action.isRedirect = false ∧ e.action.isDeletion = false) →
      ∃ f, r = .error f ∧ Fails c id csrfToken events f
  /-- No toast is shown. -/
  silent : ∀ e ∈ events, ∀ toast, e.action ≠ .notify toast

/-! ## What comes before an action -/

private theorem Next.deletion {h : List Event} {q : Action} (hnext : Next c id csrfToken h q)
    (hq : q.isDeletion = true) :
    ∃ url a options credential target, c.endpoint "auth-options" = .ok url ∧
      a.Issues RequestOptions.parse? options ∧ c.passkeyUrl id = .ok target ∧
      h = asked csrfToken url (.ok a) :: retrieval options (.ok (some credential)) ∧
      q = .send (Client.deletionRequest target csrfToken credential.normalizedText) := by
  cases hnext with
  | ask _ _ | redirect _ | retrieve _ | await _ =>
    simp [Action.isDeletion, Client.optionsRequest] at hq
  | delete hissued htarget _ =>
    obtain ⟨hurl, hread⟩ := hissued
    exact ⟨_, _, _, _, _, hurl, readRequestOptions_eq_ok_iff.mp hread, htarget, rfl, rfl⟩

private theorem Next.length_le {h : List Event} {q : Action} (hnext : Next c id csrfToken h q) :
    h.length ≤ 3 := by
  cases hnext <;> simp [retrieval]

/-- A redirect is all that can follow an answer with the status 400. -/
private theorem Next.redirect_of_status {url : Url} {a : Http.Response} {rest : List Event}
    {q : Action} (hnext : Next c id csrfToken (asked csrfToken url (.ok a) :: rest) q)
    (hstatus : a.status = 400) : rest = [] ∧ q = .redirect c.settings.accountSetupPath := by
  have hread := readRequestOptions_eq_noRegistered_iff.mpr hstatus
  cases hnext with
  | redirect _ => exact ⟨rfl, rfl⟩
  | retrieve hissued | await hissued | delete hissued _ _ =>
    exact (hissued.not_refused hread).elim

private theorem Ends.not_asked {url : Url} {a : Http.Response} {r : Except Failure Json}
    (hends : Ends c id csrfToken [asked csrfToken url (.ok a)] r) : a.status ≠ 400 := by
  cases hends with
  | failed hfails =>
    cases hfails with
    | refused hstatus _ => exact hstatus

private theorem Ends.redirect {first : Event} {path : String}
    {answer : Option (Except Failure Unit)} {r : Except Failure Json}
    (hends : Ends c id csrfToken [first, ⟨.redirect path, answer⟩] r) :
    some r = answer.map fun reply ↦ .error (redirectFailure reply) := by
  cases hends with
  | failed hfails => cases hfails
  | redirected _ | lostAtRedirect _ => rfl

private theorem Ends.fails {h : List Event} {r : Except Failure Json}
    (hends : Ends c id csrfToken h r)
    (hnone : ∀ e ∈ h, e.action.isRedirect = false ∧ e.action.isDeletion = false) :
    ∃ f, r = .error f ∧ Fails c id csrfToken h f := by
  cases hends with
  | failed hfails => exact ⟨_, rfl, hfails⟩
  | redirected _ | lostAtRedirect _ =>
    have hredirect := (hnone _ (List.mem_cons_of_mem _ List.mem_cons_self)).1
    cases hredirect
  | answered _ | lostAtDeletion _ =>
    have hdeletion := (hnone _ (List.mem_append_right _ List.mem_cons_self)).2
    cases hdeletion

/-! ## Every run -/

section Course

variable {events : List Event} {result : Option (Except Failure Json)}
  (hcourse : ∀ before e after, events = before ++ e :: after → Next c id csrfToken before e.action)
  (hended : ∀ r, result = some r → Ends c id csrfToken events r)
  (hopen : result = none → ∃ before q, events = before ++ [⟨q, none⟩])

include hcourse

private theorem deleted_of_course {before after : List Event} {e : Event}
    (hsplit : events = before ++ e :: after) (he : e.action.isDeletion = true) :
    after = [] ∧ ∃ url a options credential target, c.endpoint "auth-options" = .ok url ∧
      a.Issues RequestOptions.parse? options ∧ c.passkeyUrl id = .ok target ∧
      before = asked csrfToken url (.ok a) :: retrieval options (.ok (some credential)) ∧
      e.action = .send (Client.deletionRequest target csrfToken credential.normalizedText) := by
  obtain ⟨url, a, options, credential, target, hurl, hissues, htarget, rfl, haction⟩ :=
    (hcourse before e after hsplit).deletion he
  refine ⟨?_, url, a, options, credential, target, hurl, hissues, htarget, rfl, haction⟩
  cases after with
  | nil => rfl
  | cons e' after =>
    -- four events would come before the next one, more than before any
    have hlength := (hcourse _ e' after (by rw [hsplit, List.append_cons])).length_le
    simp [retrieval] at hlength

private theorem deleted_once_of_course :
    (events.filter fun e ↦ e.action.isDeletion).length ≤ 1 := by
  refine length_filter_le_one fun before e after hsplit he e' he' ↦ ?_
  obtain ⟨-, _, _, _, _, _, -, -, -, rfl, -⟩ := deleted_of_course hcourse hsplit he
  simp only [retrieval, List.mem_cons, List.not_mem_nil, or_false] at he'
  rcases he' with rfl | rfl | rfl <;> rfl

include hended hopen

private theorem redirected_of_course {url : Url} {a : Http.Response} {rest : List Event}
    (hevents : events = asked csrfToken url (.ok a) :: rest) (hstatus : a.status = 400) :
    ∃ answer, rest = [⟨.redirect c.settings.accountSetupPath, answer⟩] ∧
      result = answer.map fun reply ↦ .error (redirectFailure reply) := by
  match rest with
  | [] =>
    cases hresult : result with
    | none => cases answer_eq_none_of_open (hopen hresult) [] hevents
    | some r =>
      have hends := hended r hresult
      rw [hevents] at hends
      exact absurd hstatus hends.not_asked
  | e :: e' :: rest =>
    have hnext := hcourse [asked csrfToken url (.ok a), e] e' rest hevents
    cases (hnext.redirect_of_status hstatus).1
  | [⟨q, answer⟩] =>
    obtain ⟨-, rfl⟩ := (hcourse [_] ⟨q, answer⟩ [] hevents).redirect_of_status hstatus
    refine ⟨answer, rfl, ?_⟩
    cases hresult : result with
    | none =>
      obtain rfl : answer = none := answer_eq_none_of_open (hopen hresult) [_] hevents
      rfl
    | some r =>
      have hends := hended r hresult
      rw [hevents] at hends
      exact hends.redirect

private theorem failed_of_course {before : List Event} {f : Failure}
    (hfails : Fails c id csrfToken before f) (hbegins : before <+: events) :
    events = before ∧ result = some (.error f) ∧
      ∀ e ∈ events, e.action.isRedirect = false ∧ e.action.isDeletion = false := by
  obtain ⟨rest, rfl⟩ := hbegins
  cases rest with
  | cons e after =>
    -- an event after the failure would be one that may come next
    exact absurd (hcourse before e after rfl) hfails.not_next
  | nil =>
    rw [List.append_nil] at hended hopen ⊢
    refine ⟨rfl, ?_, fun e he ↦ (hfails.events he).2⟩
    cases hresult : result with
    | none =>
      -- a run that stops here waits for an answer, but all events have theirs
      obtain ⟨others, q, rfl⟩ := hopen hresult
      exact absurd rfl (hfails.events (List.mem_append_right _ List.mem_cons_self)).1
    | some r => rw [hfails.ends (hended r hresult)]

end Course

end Deletion

/-- **A deletion is reauthenticated** in every run. -/
theorem delete_reauthenticated {σ : Type} (w : Surroundings σ) (s : σ) (c : Client)
    (id csrfToken : String) :
    Deletion.Reauthenticated c id csrfToken ((delete c id csrfToken).run.run w s).events
      ((delete c id csrfToken).run.run w s).result := by
  obtain ⟨hcourse, hended⟩ := (delete_follows c id csrfToken).course w s
  have hopen := Program.exists_unanswered_of_result w (delete c id csrfToken).run s
  constructor
  · exact Deletion.deleted_once_of_course hcourse
  · exact fun _ _ _ ↦ Deletion.deleted_of_course hcourse
  · exact fun _ _ _ ↦ Deletion.redirected_of_course hcourse hended hopen
  · exact fun _ _ ↦ Deletion.failed_of_course hcourse hended hopen
  · exact fun r hresult hnone ↦ (hended r hresult).fails hnone
  · intro e he toast htoast
    obtain ⟨before, after, hsplit⟩ := List.append_of_mem he
    have hnext := hcourse before e after hsplit
    rw [htoast] at hnext
    cases hnext

end PasskeyCeremony
