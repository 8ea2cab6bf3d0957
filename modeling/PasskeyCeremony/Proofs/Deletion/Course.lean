import PasskeyCeremony.Ceremony.Deletion
import PasskeyCeremony.Proofs.Ceremony.Exchange
import PasskeyCeremony.Proofs.Ceremony.Kinds

/-!
# The course of a deletion

`Deletion.Next` says what a deletion does next after the events so far, and `Deletion.Ends` what it
comes to where nothing is left to do; `delete_follows` says that the program keeps to both, whatever
it is answered. The failures that come before the request to delete have a relation of their own,
`Deletion.Fails`, with one rule for each way to fail. After such a failure nothing happens any more
(`Fails.not_next`), and the events determine it (`Fails.ends`).
-/

namespace PasskeyCeremony

namespace Action

def isDeletion : Action → Bool
  | send request => request.method == .delete
  | _ => false

end Action

namespace Deletion

variable (c : Client) (id csrfToken : String)

/-- The server issued options for signing in. -/
abbrev OptionsIssued (options : RequestOptions) (e : Event) : Prop :=
  Issued c csrfToken "auth-options" readRequestOptions options e

/-- The server was asked for options and gave an answer. -/
abbrev asked (url : Url) (answer : Except Http.Lost Http.Response) : Event :=
  ⟨.send (Client.optionsRequest url csrfToken), some answer⟩

/-- A retrieval with options, by a dialog of the platform and without a signal, and the reply. -/
def retrieval (options : RequestOptions) (reply : PlatformReply) : List Event :=
  [⟨.retrieve ⟨options, .optional, false⟩, some ()⟩, ⟨.await, some reply⟩]

/-- What a deletion does next after the events so far. -/
inductive Next : List Event → Action → Prop where
  /-- Options are asked for. -/
  | ask {url : Url} (hurl : c.endpoint "auth-options" = .ok url)
      (hsendable : (Client.optionsRequest url csrfToken).isSendable = true) :
      Next [] (.send (Client.optionsRequest url csrfToken))
  /-- A user without a passkey is sent to the page where one can be set up. -/
  | redirect {url : Url} {a : Http.Response} (hstatus : a.status = 400) :
      Next [asked csrfToken url (.ok a)] (.redirect c.settings.accountSetupPath)
  /-- A retrieval begins, with the options that were issued. -/
  | retrieve {options : RequestOptions} {first : Event}
      (hissued : OptionsIssued c csrfToken options first) :
      Next [first] (.retrieve ⟨options, .optional, false⟩)
  /-- The retrieval is waited for. -/
  | await {options : RequestOptions} {first : Event}
      (hissued : OptionsIssued c csrfToken options first) :
      Next [first, ⟨.retrieve ⟨options, .optional, false⟩, some ()⟩] .await
  /-- The passkey is deleted, with the credential that was retrieved. -/
  | delete {options : RequestOptions} {first : Event} {credential : Credential} {url : Url}
      (hissued : OptionsIssued c csrfToken options first) (hurl : c.passkeyUrl id = .ok url)
      (hsendable : (Client.deletionRequest url csrfToken credential.normalizedText).isSendable =
        true) :
      Next (first :: retrieval options (.ok (some credential)))
        (.send (Client.deletionRequest url csrfToken credential.normalizedText))

/-- The events that a failure before the request to delete ends. -/
inductive Fails : List Event → Failure → Prop where
  /-- The endpoint for options has no address. -/
  | unresolved {f : Failure} (hurl : c.endpoint "auth-options" = .error f) : Fails [] f
  /-- The request for options cannot be put on the wire. -/
  | unsendable {url : Url} (hurl : c.endpoint "auth-options" = .ok url)
      (hsendable : (Client.optionsRequest url csrfToken).isSendable = false) :
      Fails [] (.network requestContext "the request cannot be sent")
  /-- The request for options is lost. -/
  | lost {url : Url} {l : Http.Lost} :
      Fails [asked csrfToken url (.error l)] (.network requestContext l.detail)
  /-- The answer holds no options, other than by saying that there are no passkeys. -/
  | refused {url : Url} {a : Http.Response} {f : Failure} (hstatus : a.status ≠ 400)
      (hread : readRequestOptions a = .error f) : Fails [asked csrfToken url (.ok a)] f
  /-- The platform gives no credential. -/
  | unretrieved {options : RequestOptions} {first : Event} {reply : PlatformReply} {f : Failure}
      (hissued : OptionsIssued c csrfToken options first)
      (hreply : credentialOf reply = .error f) : Fails (first :: retrieval options reply) f
  /-- The passkey has no address. -/
  | unaddressed {options : RequestOptions} {first : Event} {credential : Credential} {f : Failure}
      (hissued : OptionsIssued c csrfToken options first) (hurl : c.passkeyUrl id = .error f) :
      Fails (first :: retrieval options (.ok (some credential))) f
  /-- The request to delete cannot be put on the wire. -/
  | undeliverable {options : RequestOptions} {first : Event} {credential : Credential} {url : Url}
      (hissued : OptionsIssued c csrfToken options first) (hurl : c.passkeyUrl id = .ok url)
      (hsendable : (Client.deletionRequest url csrfToken credential.normalizedText).isSendable =
        false) :
      Fails (first :: retrieval options (.ok (some credential)))
        (.network deletionContext "the request cannot be sent")

/-- What a deletion comes to after all of its events. -/
inductive Ends : List Event → Except Failure Json → Prop where
  | failed {h : List Event} {f : Failure} (hfails : Fails c id csrfToken h f) : Ends h (.error f)
  | redirected {url : Url} {a : Http.Response} (hstatus : a.status = 400) :
      Ends [asked csrfToken url (.ok a), ⟨.redirect c.settings.accountSetupPath, some (.ok ())⟩]
        (.error .noRegisteredPasskeys)
  | lostAtRedirect {url : Url} {a : Http.Response} {f : Failure} (hstatus : a.status = 400) :
      Ends [asked csrfToken url (.ok a), ⟨.redirect c.settings.accountSetupPath, some (.error f)⟩]
        (.error f)
  | answered {options : RequestOptions} {first : Event} {credential : Credential} {url : Url}
      {a : Http.Response} (hissued : OptionsIssued c csrfToken options first) :
      Ends (first :: retrieval options (.ok (some credential)) ++
        [⟨.send (Client.deletionRequest url csrfToken credential.normalizedText), some (.ok a)⟩])
        (readDeletion c.texts a)
  | lostAtDeletion {options : RequestOptions} {first : Event} {credential : Credential} {url : Url}
      {l : Http.Lost} (hissued : OptionsIssued c csrfToken options first) :
      Ends (first :: retrieval options (.ok (some credential)) ++
        [⟨.send (Client.deletionRequest url csrfToken credential.normalizedText),
          some (.error l)⟩])
        (.error (.network deletionContext l.detail))

/-! ## The program keeps to it -/

variable {c id csrfToken}

private theorem follows_deletePasskey {options : RequestOptions} {first : Event}
    {credential : Credential} (hissued : OptionsIssued c csrfToken options first) :
    (Attempt.deletePasskey c id csrfToken credential.normalizedText).run.Follows
      (Next c id csrfToken) (Ends c id csrfToken)
      (first :: retrieval options (.ok (some credential))) :=
  Attempt.follows_deletePasskey (fun _ hurl ↦ .failed (.unaddressed hissued hurl))
    (fun _ hurl hsendable ↦ .failed (.undeliverable hissued hurl hsendable))
    (fun _ hurl hsendable ↦ .delete hissued hurl hsendable) (fun _ _ _ ↦ .answered hissued)
    (fun _ _ _ ↦ .lostAtDeletion hissued)

private theorem follows_redirect {url : Url} {a : Http.Response} (hstatus : a.status = 400) :
    (do Attempt.redirectToSetup c; throw .noRegisteredPasskeys : Attempt Json).run.Follows
      (Next c id csrfToken) (Ends c id csrfToken) [asked csrfToken url (.ok a)] := by
  refine Attempt.follows_bind.mpr ⟨.redirect hstatus, fun answer ↦ ?_⟩
  match answer with
  | .ok () => exact .redirected hstatus
  | .error f => exact .lostAtRedirect hstatus

end Deletion

/-- **A deletion keeps to its course**, whatever it is answered. -/
theorem delete_follows (c : Client) (id csrfToken : String) :
    (delete c id csrfToken).run.Follows (Deletion.Next c id csrfToken)
      (Deletion.Ends c id csrfToken) [] := by
  rw [delete, Attempt.follows_bind]
  refine Attempt.follows_requestOptions? (fun f hurl ↦ .failed (.unresolved hurl))
    (fun url hurl hsendable ↦ .failed (.unsendable hurl hsendable))
    (fun url hurl hsendable ↦ .ask hurl hsendable) (fun url a options hurl hread ↦ ?_)
    (fun url a _ hstatus ↦ Deletion.follows_redirect hstatus)
    (fun url a f _ hstatus hread ↦ .failed (.refused hstatus hread)) (fun _ _ _ ↦ .failed .lost)
  have hissued : Deletion.OptionsIssued c csrfToken options
      (Deletion.asked csrfToken url (.ok a)) := .intro hurl hread
  refine Attempt.follows_bind.mpr (Attempt.follows_retrieve (.retrieve hissued) (.await hissued)
    fun reply ↦ ?_)
  cases hreply : credentialOf reply with
  | error f => exact .failed (.unretrieved hissued hreply)
  | ok credential =>
    obtain rfl := credentialOf_eq_ok_iff.mp hreply
    exact Deletion.follows_deletePasskey hissued

/-! ## Failures before the request to delete -/

namespace Deletion

variable {c : Client} {id csrfToken : String} {h : List Event} {f : Failure}

theorem OptionsIssued.not_refused {url : Url} {a : Http.Response} {options : RequestOptions}
    (hissued : OptionsIssued c csrfToken options (asked csrfToken url (.ok a)))
    (hread : readRequestOptions a = .error f) : False := by
  cases hissued with
  | intro _ hread' => rw [hread] at hread'; cases hread'

theorem Fails.not_next {q : Action} (hfails : Fails c id csrfToken h f) :
    ¬Next c id csrfToken h q := by
  intro hnext
  -- the shape of the events leaves few rules, and each asks for what the failure rules out
  cases hfails with
  | unresolved hurl =>
    cases hnext with
    | ask hurl' _ => rw [hurl] at hurl'; cases hurl'
  | unsendable hurl hsendable =>
    cases hnext with
    | ask hurl' hsendable' =>
      rw [hurl] at hurl'
      cases hurl'
      rw [hsendable] at hsendable'
      cases hsendable'
  | lost =>
    cases hnext with
    | retrieve hissued => cases hissued
  | refused hstatus hread =>
    cases hnext with
    | redirect hstatus' => exact hstatus hstatus'
    | retrieve hissued => exact hissued.not_refused hread
  | unretrieved hissued hreply =>
    cases hnext with
    | delete _ _ _ => cases hreply
  | unaddressed hissued hurl =>
    cases hnext with
    | delete _ hurl' _ => rw [hurl] at hurl'; cases hurl'
  | undeliverable hissued hurl hsendable =>
    cases hnext with
    | delete _ hurl' hsendable' =>
      rw [hurl] at hurl'
      cases hurl'
      rw [hsendable] at hsendable'
      cases hsendable'

theorem Fails.unique {f' : Failure} (hfails : Fails c id csrfToken h f)
    (hfails' : Fails c id csrfToken h f') : f = f' := by
  cases hfails with
  | unresolved hurl =>
    cases hfails' with
    | unresolved hurl' => exact Except.error.inj (hurl.symm.trans hurl')
    | unsendable hurl' _ => rw [hurl] at hurl'; cases hurl'
  | unsendable hurl hsendable =>
    cases hfails' with
    | unresolved hurl' => rw [hurl] at hurl'; cases hurl'
    | unsendable _ _ => rfl
  | lost =>
    cases hfails' with
    | lost => rfl
  | refused hstatus hread =>
    cases hfails' with
    | refused _ hread' => exact Except.error.inj (hread.symm.trans hread')
  | unretrieved hissued hreply =>
    cases hfails' with
    | unretrieved _ hreply' => exact Except.error.inj (hreply.symm.trans hreply')
    | unaddressed _ _ | undeliverable _ _ _ => cases hreply
  | unaddressed hissued hurl =>
    cases hfails' with
    | unretrieved _ hreply => cases hreply
    | unaddressed _ hurl' => exact Except.error.inj (hurl.symm.trans hurl')
    | undeliverable _ hurl' _ => rw [hurl] at hurl'; cases hurl'
  | undeliverable hissued hurl hsendable =>
    cases hfails' with
    | unretrieved _ hreply => cases hreply
    | unaddressed _ hurl' => rw [hurl] at hurl'; cases hurl'
    | undeliverable _ _ _ => rfl

theorem Fails.ends {r : Except Failure Json} (hfails : Fails c id csrfToken h f)
    (hends : Ends c id csrfToken h r) : r = .error f := by
  cases hends with
  | failed hfails' => rw [hfails.unique hfails']
  | redirected _ | lostAtRedirect _ | answered _ | lostAtDeletion _ => cases hfails

/-- Everything that comes before a failure of a deletion has been answered, and is neither a
redirect nor a request to delete. -/
theorem Fails.events (hfails : Fails c id csrfToken h f) {e : Event} (he : e ∈ h) :
    e.answer ≠ none ∧ e.action.isRedirect = false ∧ e.action.isDeletion = false := by
  -- three rules leave the same events behind, those up to a reply of the platform
  have hretrieval : ∀ {options first reply}, OptionsIssued c csrfToken options first →
      e ∈ first :: retrieval options reply →
        e.answer ≠ none ∧ e.action.isRedirect = false ∧ e.action.isDeletion = false := by
    rintro options first reply ⟨_, _⟩ he
    simp only [retrieval, List.mem_cons, List.not_mem_nil, or_false] at he
    rcases he with rfl | rfl | rfl <;> exact ⟨Option.some_ne_none _, rfl, rfl⟩
  cases hfails with
  | unresolved _ | unsendable _ _ => simp at he
  | lost | refused _ _ =>
    rw [List.mem_singleton] at he
    subst he
    exact ⟨Option.some_ne_none _, rfl, rfl⟩
  | unretrieved hissued _ | unaddressed hissued _ | undeliverable hissued _ _ =>
    exact hretrieval hissued he

end Deletion

end PasskeyCeremony
