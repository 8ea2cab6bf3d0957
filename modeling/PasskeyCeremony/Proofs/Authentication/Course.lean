import PasskeyCeremony.Ceremony.Authentication
import PasskeyCeremony.Proofs.Deletion.Course
import PasskeyCeremony.Proofs.Retrieval.Window

/-!
# The course of an authentication

`Authentication.Next` says what an authentication does next after the events so far, and
`Authentication.Ends` what it comes to; `authenticate_follows` says that the program keeps to both,
whatever it is answered. An authentication begins as a deletion does, so the events of its beginning
are those of a deletion.

How a credential is retrieved depends on the settings alone. It has relations of its own, which know
nothing of the events before it: `Retrieving` for what comes next, `Retrieved` for the events of a
retrieval that had a reply. They are put behind the answer that issued the options by
`Program.Follows.behind`.
-/

namespace PasskeyCeremony

/-- The user has changed their mind, or something else took the platform's attention. -/
def Failure.isBenign : Failure → Bool
  | platform p => p.isBenign
  | _ => false

namespace Authentication

open Deletion (OptionsIssued asked retrieval)

/-! ## Retrievals -/

variable (settings : Settings) (options : RequestOptions)

/-- What comes before the dialog of the platform. -/
inductive Lead : List Event → Prop where
  /-- The settings ask for a dialog. -/
  | plain (hoff : settings.conditionalMediation = false) : Lead []
  /-- The platform does not offer anything else. -/
  | unavailable (hon : settings.conditionalMediation = true) :
      Lead [⟨.askConditional, some false⟩]
  /-- A conditional retrieval was given up when the window had passed. -/
  | late (hon : settings.conditionalMediation = true) :
      Lead (offer settings.conditionalWindow options none ++ surrender)

/-- What a retrieval does next after its own events so far. -/
inductive Retrieving : List Event → Action → Prop where
  | askConditional (hon : settings.conditionalMediation = true) : Retrieving [] .askConditional
  | offer (hon : settings.conditionalMediation = true) :
      Retrieving [⟨.askConditional, some true⟩] (.retrieve ⟨options, .conditional, true⟩)
  | awaitWithin (hon : settings.conditionalMediation = true) :
      Retrieving [⟨.askConditional, some true⟩,
        ⟨.retrieve ⟨options, .conditional, true⟩, some ()⟩]
        (.awaitWithin settings.conditionalWindow)
  | abandon (hon : settings.conditionalMediation = true) :
      Retrieving (PasskeyCeremony.offer settings.conditionalWindow options none) .abandon
  | abort (hon : settings.conditionalMediation = true) :
      Retrieving (PasskeyCeremony.offer settings.conditionalWindow options none ++
        [⟨.abandon, some ()⟩]) .abort
  | dialog {lead : List Event} (hlead : Lead settings options lead) :
      Retrieving lead (.retrieve ⟨options, .optional, false⟩)
  | await {lead : List Event} (hlead : Lead settings options lead) :
      Retrieving (lead ++ [⟨.retrieve ⟨options, .optional, false⟩, some ()⟩]) .await

/-- The events of a retrieval that had a reply. -/
inductive Retrieved : List Event → PlatformReply → Prop where
  /-- The reply to a dialog. -/
  | dialog {lead : List Event} {reply : PlatformReply} (hlead : Lead settings options lead) :
      Retrieved (lead ++ retrieval options reply) reply
  /-- The reply to a conditional retrieval, within the window. -/
  | inTime {reply : PlatformReply} (hon : settings.conditionalMediation = true) :
      Retrieved (offer settings.conditionalWindow options (some reply)) reply

variable {settings options}

private theorem follows_dialog {lead : List Event} (hlead : Lead settings options lead) :
    (Attempt.retrieve options).run.Follows (Retrieving settings options)
      (fun h r ↦ ∃ reply, Retrieved settings options h reply ∧ r = credentialOf reply) lead := by
  refine Attempt.follows_retrieve (.dialog hlead) (.await hlead) fun reply ↦ ⟨reply, ?_, rfl⟩
  rw [List.append_assoc]
  exact .dialog hlead

private theorem follows_retrieve :
    (retrieve settings options).run.Follows (Retrieving settings options)
      (fun h r ↦ ∃ reply, Retrieved settings options h reply ∧ r = credentialOf reply) [] := by
  rw [retrieve]
  by_cases hon : settings.conditionalMediation = true
  · rw [if_pos hon]
    exact Attempt.follows_retrieveWithin (.askConditional hon) (follows_dialog (.unavailable hon))
      (.offer hon) (.awaitWithin hon) (fun reply ↦ ⟨reply, .inTime hon, rfl⟩) (.abandon hon)
      (.abort hon) (follows_dialog (.late hon))
  · rw [if_neg hon]
    exact follows_dialog (.plain (by simpa using hon))

/-! ## The ceremony -/

variable (c : Client) (target csrfToken : String)

/-- The events that a failure ends. -/
inductive Fails : List Event → Failure → Prop where
  /-- No options are issued, other than for want of a passkey. -/
  | unissued {h : List Event} {f : Failure}
      (hunissued : Unissued c csrfToken "auth-options" requestContext readRequestOptions h f)
      (hne : f ≠ .noRegisteredPasskeys) : Fails h f
  /-- The page where a passkey can be set up is not reached. -/
  | lostAtRedirect {url : Url} {a : Http.Response} {f : Failure}
      (hurl : c.endpoint "auth-options" = .ok url) (hstatus : a.status = 400) :
      Fails [asked csrfToken url (.ok a),
        ⟨.redirect c.settings.accountSetupPath, some (.error f)⟩] f
  /-- The platform gives no credential. -/
  | unretrieved {options : RequestOptions} {first : Event} {own : List Event}
      {reply : PlatformReply} {f : Failure} (hissued : OptionsIssued c csrfToken options first)
      (hretrieved : Retrieved c.settings options own reply)
      (hreply : credentialOf reply = .error f) : Fails (first :: own) f
  /-- The form does not arrive. -/
  | lostAtSubmission {options : RequestOptions} {first : Event} {own : List Event}
      {credential : Credential} {f : Failure} (hissued : OptionsIssued c csrfToken options first)
      (hretrieved : Retrieved c.settings options own (.ok (some credential))) :
      Fails (first :: own ++ [⟨.submit (form target credential csrfToken), some (.error f)⟩]) f

/-- What an authentication does next after the events so far. -/
inductive Next : List Event → Action → Prop where
  /-- Options are asked for. -/
  | ask {url : Url} (hurl : c.endpoint "auth-options" = .ok url) :
      Next [] (.send (Client.optionsRequest url csrfToken))
  /-- A user without a passkey is sent to the page where one can be set up. -/
  | redirect {url : Url} {a : Http.Response} (hurl : c.endpoint "auth-options" = .ok url)
      (hstatus : a.status = 400) :
      Next [asked csrfToken url (.ok a)] (.redirect c.settings.accountSetupPath)
  /-- A credential is retrieved with the options that were issued. -/
  | retrieve {options : RequestOptions} {first : Event} {own : List Event} {q : Action}
      (hissued : OptionsIssued c csrfToken options first)
      (hretrieving : Retrieving c.settings options own q) : Next (first :: own) q
  /-- The form is submitted with the credential that was retrieved. -/
  | submit {options : RequestOptions} {first : Event} {own : List Event} {credential : Credential}
      (hissued : OptionsIssued c csrfToken options first)
      (hretrieved : Retrieved c.settings options own (.ok (some credential))) :
      Next (first :: own) (.submit (form target credential csrfToken))
  /-- The user is told about a failure, unless it is benign. -/
  | tell {h : List Event} {f : Failure} {toast : Toast}
      (hfails : Fails c target csrfToken h f) (hbenign : f.isBenign = false)
      (htoast : (f.report .authentication).toast = some toast) : Next h (.notify toast)

/-- What an authentication comes to after all of its events. -/
inductive Ends : List Event → Outcome → Prop where
  | submitted {options : RequestOptions} {first : Event} {own : List Event}
      {credential : Credential} (hissued : OptionsIssued c csrfToken options first)
      (hretrieved : Retrieved c.settings options own (.ok (some credential))) :
      Ends (first :: own ++ [⟨.submit (form target credential csrfToken), some (.ok ())⟩])
        .submitted
  | redirected {url : Url} {a : Http.Response} (hurl : c.endpoint "auth-options" = .ok url)
      (hstatus : a.status = 400) :
      Ends [asked csrfToken url (.ok a), ⟨.redirect c.settings.accountSetupPath, some (.ok ())⟩]
        .redirected
  | cancelled {h : List Event} {f : Failure} (hfails : Fails c target csrfToken h f)
      (hbenign : f.isBenign = true) : Ends h .cancelled
  | told {h : List Event} {f : Failure} {toast : Toast} (hfails : Fails c target csrfToken h f)
      (hbenign : f.isBenign = false) (htoast : (f.report .authentication).toast = some toast) :
      Ends (h ++ [⟨.notify toast, some ()⟩]) .failed
  | silent {h : List Event} {f : Failure} (hfails : Fails c target csrfToken h f)
      (htoast : (f.report .authentication).toast = none) : Ends h .failed

/-! ## The program keeps to it -/

variable {c target csrfToken}

/-- What an attempt comes to: an outcome, or a failure that is still to be dealt with. -/
private def Concludes (c : Client) (target csrfToken : String) (h : List Event) :
    Except Failure Outcome → Prop
  | .ok outcome => Ends c target csrfToken h outcome
  | .error f => Fails c target csrfToken h f

private theorem follows_redirect {url : Url} {a : Http.Response}
    (hurl : c.endpoint "auth-options" = .ok url) (hstatus : a.status = 400) :
    (do Attempt.redirectToSetup c; return .redirected : Attempt Outcome).run.Follows
      (Next c target csrfToken) (Concludes c target csrfToken) [asked csrfToken url (.ok a)] := by
  refine Attempt.follows_bind.mpr ⟨.redirect hurl hstatus, fun answer ↦ ?_⟩
  match answer with
  | .ok () => exact Ends.redirected hurl hstatus
  | .error f => exact Fails.lostAtRedirect hurl hstatus

private theorem follows_submit {first : Event} {own : List Event} {credential : Credential}
    (hissued : OptionsIssued c csrfToken options first)
    (hretrieved : Retrieved c.settings options own (.ok (some credential))) :
    (do Attempt.submit (form target credential csrfToken)
        return .submitted : Attempt Outcome).run.Follows
      (Next c target csrfToken) (Concludes c target csrfToken) (first :: own) := by
  refine Attempt.follows_bind.mpr ⟨.submit hissued hretrieved, fun answer ↦ ?_⟩
  match answer with
  | .ok () => exact Ends.submitted hissued hretrieved
  | .error f => exact Fails.lostAtSubmission hissued hretrieved

private theorem follows_attempt :
    (attempt c target csrfToken).run.Follows (Next c target csrfToken)
      (Concludes c target csrfToken) [] := by
  rw [attempt, Attempt.follows_bind]
  refine Attempt.follows_requestOptions?_or (fun url hurl _ ↦ .ask hurl)
    (fun first options hissued ↦ ?_) (fun url a hurl hstatus ↦ follows_redirect hurl hstatus)
    (fun own f hunissued hne ↦ Fails.unissued hunissued hne)
  refine Attempt.follows_bind.mpr ((follows_retrieve.behind [first]).mono ?_ ?_)
  · rintro _ q ⟨own, rfl, hretrieving⟩
    exact .retrieve hissued hretrieving
  · rintro _ r ⟨own, rfl, reply, hretrieved, rfl⟩
    cases hreply : credentialOf reply with
    | error f => exact Fails.unretrieved hissued hretrieved hreply
    | ok credential =>
      obtain rfl := credentialOf_eq_ok_iff.mp hreply
      exact follows_submit hissued hretrieved

/-- What becomes of an attempt: a failure that is not benign is told. -/
def conclude : Except Failure Outcome → Program Outcome
  | .ok outcome => return outcome
  | .error f =>
    if f.isBenign then return .cancelled
    else do
      Program.report .authentication f
      return .failed

private theorem follows_conclude {h : List Event} {r : Except Failure Outcome}
    (hr : Concludes c target csrfToken h r) :
    (conclude r).Follows (Next c target csrfToken) (Ends c target csrfToken) h := by
  match r with
  | .ok outcome => exact hr
  | .error f =>
    rw [conclude]
    split
    · rename_i hbenign
      exact Ends.cancelled hr hbenign
    · rename_i hbenign
      have hbenign := eq_false_of_ne_true hbenign
      rw [Program.follows_bind, Program.report]
      cases htoast : (f.report .authentication).toast with
      | none => exact Ends.silent hr htoast
      | some toast => exact ⟨.tell hr hbenign htoast, fun _ ↦ Ends.told hr hbenign htoast⟩

end Authentication

theorem authenticate_eq (c : Client) (target csrfToken : String) :
    authenticate c target csrfToken =
      (Authentication.attempt c target csrfToken).run >>= Authentication.conclude := by
  rw [authenticate]
  refine congrArg _ (funext fun r ↦ ?_)
  match r with
  | .ok outcome => rfl
  | .error f => cases f <;> rfl

/-- **An authentication keeps to its course**, whatever it is answered. -/
theorem authenticate_follows (c : Client) (target csrfToken : String) :
    (authenticate c target csrfToken).Follows (Authentication.Next c target csrfToken)
      (Authentication.Ends c target csrfToken) [] := by
  rw [authenticate_eq, Program.follows_bind]
  exact Authentication.follows_attempt.mono (fun _ _ hq ↦ hq)
    fun h r hr ↦ Authentication.follows_conclude hr

/-! ## Failures and what comes before them -/

namespace Authentication

open Deletion (OptionsIssued asked retrieval)

variable {c : Client} {target csrfToken : String} {settings : Settings} {options : RequestOptions}

private theorem Lead.isPlatform {lead : List Event} (hlead : Lead settings options lead) {e : Event}
    (he : e ∈ lead) : e.action.isPlatform = true := by
  cases hlead <;>
    simp only [offer, surrender, List.cons_append, List.nil_append, List.mem_cons,
      List.not_mem_nil, or_false] at he
  · rw [he]
    rfl
  · rcases he with rfl | rfl | rfl | rfl | rfl <;> rfl

theorem Retrieving.isPlatform {own : List Event} {q : Action}
    (hretrieving : Retrieving settings options own q) :
    q.isPlatform = true ∧ ∀ e ∈ own, e.action.isPlatform = true := by
  cases hretrieving with
  | askConditional _ => exact ⟨rfl, by simp⟩
  | offer _ | awaitWithin _ | abandon _ | abort _ =>
    exact ⟨rfl, by simp [PasskeyCeremony.offer, Action.isPlatform]⟩
  | dialog hlead => exact ⟨rfl, fun _ he ↦ hlead.isPlatform he⟩
  | await hlead =>
    refine ⟨rfl, fun e he ↦ ?_⟩
    rcases List.mem_append.mp he with he | he
    · exact hlead.isPlatform he
    · rw [List.mem_singleton.mp he]
      rfl

theorem Retrieved.isPlatform {own : List Event} {reply : PlatformReply}
    (hretrieved : Retrieved settings options own reply) {e : Event} (he : e ∈ own) :
    e.action.isPlatform = true := by
  cases hretrieved with
  | inTime _ =>
    simp only [offer, List.mem_cons, List.not_mem_nil, or_false] at he
    rcases he with rfl | rfl | rfl <;> rfl
  | dialog hlead =>
    rcases List.mem_append.mp he with he | he
    · exact hlead.isPlatform he
    · simp only [retrieval, List.mem_cons, List.not_mem_nil, or_false] at he
      rcases he with rfl | rfl <;> rfl

theorem isPage_of_retrieved {first : Event} {own : List Event} {reply : PlatformReply}
    (hissued : OptionsIssued c csrfToken options first)
    (hretrieved : Retrieved settings options own reply) {e : Event} (he : e ∈ first :: own) :
    e.action.isPage = false := by
  rcases List.mem_cons.mp he with rfl | he
  · exact hissued.isPage
  · exact Action.isPage_of_isPlatform (hretrieved.isPlatform he)

theorem Fails.isToast {h : List Event} {f : Failure} (hfails : Fails c target csrfToken h f)
    {e : Event} (he : e ∈ h) : e.action.isToast = false := by
  cases hfails with
  | unissued hunissued _ =>
    obtain ⟨_, haction⟩ := hunissued.action he
    rw [haction]
    rfl
  | lostAtRedirect _ _ =>
    simp only [List.mem_cons, List.not_mem_nil, or_false] at he
    rcases he with rfl | rfl <;> rfl
  | unretrieved hissued hretrieved _ =>
    exact Action.isToast_of_isPage (isPage_of_retrieved hissued hretrieved he)
  | lostAtSubmission hissued hretrieved =>
    rcases List.mem_append.mp he with he | he
    · exact Action.isToast_of_isPage (isPage_of_retrieved hissued hretrieved he)
    · rw [List.mem_singleton.mp he]
      rfl

theorem Next.isToast {h : List Event} {q : Action} (hnext : Next c target csrfToken h q) {e : Event}
    (he : e ∈ h) : e.action.isToast = false := by
  cases hnext with
  | ask _ => exact absurd he List.not_mem_nil
  | redirect _ _ =>
    rw [List.mem_singleton.mp he]
    rfl
  | retrieve hissued hretrieving =>
    rcases List.mem_cons.mp he with rfl | he
    · exact Action.isToast_of_isPage (hissued.isPage)
    · exact Action.isToast_of_isPage (Action.isPage_of_isPlatform (hretrieving.isPlatform.2 e he))
  | submit hissued hretrieved =>
    exact Action.isToast_of_isPage (isPage_of_retrieved hissued hretrieved he)
  | tell hfails _ _ => exact hfails.isToast he

/-- A failure of a user without a passkey is one of the redirect. -/
theorem Fails.of_unregistered {h rest : List Event} {f : Failure} {url : Url} {a : Http.Response}
    (hfails : Fails c target csrfToken h f) (hh : h = asked csrfToken url (.ok a) :: rest)
    (hstatus : a.status = 400) :
    rest = [⟨.redirect c.settings.accountSetupPath, some (.error f)⟩] := by
  have hread := readRequestOptions_eq_noRegistered_iff.mpr hstatus
  cases hfails with
  | lostAtRedirect _ _ =>
    cases hh
    rfl
  | unissued hunissued hne =>
    cases hunissued with
    | unresolved _ | unsendable _ _ | lost _ => cases hh
    | refused _ hread' =>
      cases hh
      rw [hread] at hread'
      exact absurd (Except.error.inj hread').symm hne
  | unretrieved hissued _ _ | lostAtSubmission hissued _ =>
    cases hh
    exact (hissued.not_refused hread).elim

end Authentication

end PasskeyCeremony
