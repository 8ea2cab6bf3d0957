import PasskeyCeremony.Ceremony.Registration
import PasskeyCeremony.Proofs.Ceremony.Exchange

/-!
# The course of a registration

`Registration.Next` says what a registration does next, given the events so far: one rule for each
action, with all events before it written out. `Registration.Ends` says in the same way what it
comes to. The relations know nothing of programs, so a property of registrations is shown by going
through their rules; `register_follows` says once that the program keeps to both, whatever it is
answered.

A failure is dealt with in one place, after all the events it may come after. `Registration.Fails`
has one rule for each way to fail, with these events.

The rules of `Next` come in two groups. In the first the user is asked, and uses a passkey they
have; in the second the registration proper goes on from events that clear the way for it
(`Cleared`), which are the options alone or the options and a complete step-up.
-/

namespace PasskeyCeremony

namespace Registration

/-- The events of a complete step-up: the user agreed, a retrieval with the options and without a
signal gave a credential, and the user was told; the answer to that does not matter. -/
def stepUpEvents (options : RequestOptions) (credential : Credential) (answer : Bool) :
    List Event :=
  [⟨.confirm stepUpQuestion, some true⟩, ⟨.retrieve ⟨options, .optional, false⟩, some ()⟩,
    ⟨.await, some (.ok (some credential))⟩, ⟨.confirm registerQuestion, some answer⟩]

variable (c : Client) (csrfToken : String) (inUse : List String)

/-- The server issued options for the retrieval that a registration needs first. -/
abbrev StepUpIssued (options : RequestOptions) (e : Event) : Prop :=
  Issued c csrfToken "registration-auth-options" readStepUpOptions options e

/-- The server issued options for the creation. -/
abbrev CreationIssued (options : CreationOptions) (e : Event) : Prop :=
  Issued c csrfToken "registration-options" readCreationOptions options e

/-- The events that clear the way for a registration, with the credential of the step-up if there
had to be one. -/
inductive Cleared : Option Credential → List Event → Prop where
  /-- The user has no passkey. -/
  | free {options : RequestOptions} {first : Event}
      (hissued : StepUpIssued c csrfToken options first) (hfree : options.hasRegistered = false) :
      Cleared none [first]
  /-- The user has one and has used it. -/
  | stepUp {options : RequestOptions} {first : Event} {credential : Credential} {answer : Bool}
      (hissued : StepUpIssued c csrfToken options first)
      (hregistered : options.hasRegistered = true) :
      Cleared (some credential) (first :: stepUpEvents options credential answer)

/-- What a registration does next after the events so far. -/
inductive Next : List Event → Action → Prop where
  /-- Options for a step-up are asked for. -/
  | ask {url : Url} (hurl : c.endpoint "registration-auth-options" = .ok url) :
      Next [] (.send (Client.optionsRequest url csrfToken))
  /-- A user with a passkey is asked to use it. -/
  | confirm {options : RequestOptions} {first : Event}
      (hissued : StepUpIssued c csrfToken options first)
      (hregistered : options.hasRegistered = true) :
      Next [first] (.confirm stepUpQuestion)
  /-- The retrieval begins once the user has agreed. -/
  | retrieve {options : RequestOptions} {first : Event}
      (hissued : StepUpIssued c csrfToken options first)
      (hregistered : options.hasRegistered = true) :
      Next [first, ⟨.confirm stepUpQuestion, some true⟩]
        (.retrieve ⟨options, .optional, false⟩)
  /-- The retrieval is waited for. -/
  | await {options : RequestOptions} {first : Event}
      (hissued : StepUpIssued c csrfToken options first)
      (hregistered : options.hasRegistered = true) :
      Next [first, ⟨.confirm stepUpQuestion, some true⟩,
        ⟨.retrieve ⟨options, .optional, false⟩, some ()⟩] .await
  /-- The user is told that the new passkey comes next. -/
  | inform {options : RequestOptions} {first : Event} {credential : Credential}
      (hissued : StepUpIssued c csrfToken options first)
      (hregistered : options.hasRegistered = true) :
      Next [first, ⟨.confirm stepUpQuestion, some true⟩,
        ⟨.retrieve ⟨options, .optional, false⟩, some ()⟩,
        ⟨.await, some (.ok (some credential))⟩] (.confirm registerQuestion)
  /-- Options for the creation are asked for. -/
  | options {existing : Option Credential} {cleared : List Event} {url : Url}
      (hcleared : Cleared c csrfToken existing cleared)
      (hurl : c.endpoint "registration-options" = .ok url) :
      Next cleared (.send (Client.optionsRequest url csrfToken))
  /-- A credential is created with the options that were issued. -/
  | create {existing : Option Credential} {cleared : List Event} {options : CreationOptions}
      {issued : Event} (hcleared : Cleared c csrfToken existing cleared)
      (hissued : CreationIssued c csrfToken options issued) :
      Next (cleared ++ [issued]) (.create options)
  /-- The user names what was created. -/
  | name {existing : Option Credential} {cleared : List Event} {options : CreationOptions}
      {issued : Event} {created : Credential} (hcleared : Cleared c csrfToken existing cleared)
      (hissued : CreationIssued c csrfToken options issued) :
      Next (cleared ++ [issued, ⟨.create options, some (.ok (some created))⟩])
        (.chooseName inUse)
  /-- The form is submitted, with the credential of the step-up if there had to be one. -/
  | submit {existing : Option Credential} {cleared : List Event} {options : CreationOptions}
      {issued : Event} {created : Credential} {name : String}
      (hcleared : Cleared c csrfToken existing cleared)
      (hissued : CreationIssued c csrfToken options issued) :
      Next (cleared ++ [issued, ⟨.create options, some (.ok (some created))⟩,
        ⟨.chooseName inUse, some (.ok (some name))⟩])
        (.submit (form c created csrfToken name existing))
  /-- The user is told something. -/
  | notify {h : List Event} {toast : Toast} : Next h (.notify toast)

/-! ## The ends -/

/-- The events that a failure ends. -/
inductive Fails : List Event → Failure → Prop where
  /-- No options for a step-up are issued. -/
  | unissued {h : List Event} {f : Failure}
      (hunissued : Unissued c csrfToken "registration-auth-options" requestContext
        readStepUpOptions h f) : Fails h f
  /-- The platform gives no credential for the step-up. -/
  | unretrieved {options : RequestOptions} {first : Event} {reply : PlatformReply} {f : Failure}
      (hissued : StepUpIssued c csrfToken options first)
      (hreply : credentialOf reply = .error f) :
      Fails [first, ⟨.confirm stepUpQuestion, some true⟩,
        ⟨.retrieve ⟨options, .optional, false⟩, some ()⟩, ⟨.await, some reply⟩] f
  /-- No options for the creation are issued. -/
  | unprepared {existing : Option Credential} {cleared own : List Event} {f : Failure}
      (hcleared : Cleared c csrfToken existing cleared)
      (hunissued : Unissued c csrfToken "registration-options" creationContext
        readCreationOptions own f) : Fails (cleared ++ own) f
  /-- The platform creates no credential. -/
  | uncreated {existing : Option Credential} {cleared : List Event} {options : CreationOptions}
      {issued : Event} {reply : PlatformReply} {f : Failure}
      (hcleared : Cleared c csrfToken existing cleared)
      (hissued : CreationIssued c csrfToken options issued)
      (hreply : credentialOf reply = .error f) :
      Fails (cleared ++ [issued, ⟨.create options, some reply⟩]) f
  /-- The user cannot be asked for a name. -/
  | unnamed {existing : Option Credential} {cleared : List Event} {options : CreationOptions}
      {issued : Event} {created : Credential} {f : Failure}
      (hcleared : Cleared c csrfToken existing cleared)
      (hissued : CreationIssued c csrfToken options issued) :
      Fails (cleared ++ [issued, ⟨.create options, some (.ok (some created))⟩,
        ⟨.chooseName inUse, some (.error f)⟩]) f
  /-- The form does not arrive. -/
  | lostAtSubmission {existing : Option Credential} {cleared : List Event}
      {options : CreationOptions} {issued : Event} {created : Credential} {name : String}
      {f : Failure} (hcleared : Cleared c csrfToken existing cleared)
      (hissued : CreationIssued c csrfToken options issued) :
      Fails (cleared ++ [issued, ⟨.create options, some (.ok (some created))⟩,
        ⟨.chooseName inUse, some (.ok (some name))⟩] ++
        [⟨.submit (form c created csrfToken name existing), some (.error f)⟩]) f

/-- What a registration comes to after all of its events. -/
inductive Ends : List Event → Outcome → Prop where
  | submitted {existing : Option Credential} {cleared : List Event} {options : CreationOptions}
      {issued : Event} {created : Credential} {name : String}
      (hcleared : Cleared c csrfToken existing cleared)
      (hissued : CreationIssued c csrfToken options issued) :
      Ends (cleared ++ [issued, ⟨.create options, some (.ok (some created))⟩,
        ⟨.chooseName inUse, some (.ok (some name))⟩] ++
        [⟨.submit (form c created csrfToken name existing), some (.ok ())⟩]) .submitted
  /-- The user would not choose a name. -/
  | unnamed {existing : Option Credential} {cleared : List Event} {options : CreationOptions}
      {issued : Event} {created : Credential} (hcleared : Cleared c csrfToken existing cleared)
      (hissued : CreationIssued c csrfToken options issued) :
      Ends (cleared ++ [issued, ⟨.create options, some (.ok (some created))⟩,
        ⟨.chooseName inUse, some (.ok none)⟩]) .cancelled
  /-- The user would not use the passkey they have. -/
  | declined {options : RequestOptions} {first : Event}
      (hissued : StepUpIssued c csrfToken options first) :
      Ends [first, ⟨.confirm stepUpQuestion, some false⟩,
        ⟨.notify Registration.declined, some ()⟩] .cancelled
  | told {h : List Event} {f : Failure} {toast : Toast} (hfails : Fails c csrfToken inUse h f)
      (htoast : (f.report .registration).toast = some toast) :
      Ends (h ++ [⟨.notify toast, some ()⟩]) .failed
  | silent {h : List Event} {f : Failure} (hfails : Fails c csrfToken inUse h f)
      (htoast : (f.report .registration).toast = none) : Ends h .failed

/-! ## The program keeps to it -/

variable {c csrfToken inUse}

/-- What an attempt comes to: an outcome, or a failure that is still to be dealt with. -/
private def Concludes (c : Client) (csrfToken : String) (inUse : List String) (h : List Event) :
    Except Failure Outcome → Prop
  | .ok outcome => Ends c csrfToken inUse h outcome
  | .error f => Fails c csrfToken inUse h f

private theorem follows_createAndSubmit {existing : Option Credential} {cleared : List Event}
    (hcleared : Cleared c csrfToken existing cleared) :
    (createAndSubmit c csrfToken inUse existing).run.Follows (Next c csrfToken inUse)
      (Concludes c csrfToken inUse) cleared := by
  rw [createAndSubmit, Attempt.follows_bind, Attempt.creationOptions]
  refine Attempt.follows_fetchOptions_or (fun _ hurl _ ↦ .options hcleared hurl)
    (fun issued options hissued ↦ ?_) (fun own f hunissued ↦ Fails.unprepared hcleared hunissued)
  refine Attempt.follows_bind.mpr (Attempt.follows_create (.create hcleared hissued)
    fun reply ↦ ?_)
  rw [List.append_assoc, List.singleton_append]
  cases hreply : credentialOf reply with
  | error f => exact Fails.uncreated hcleared hissued hreply
  | ok created =>
    obtain rfl := credentialOf_eq_ok_iff.mp hreply
    refine Attempt.follows_bind.mpr ⟨.name hcleared hissued, fun answer ↦ ?_⟩
    rw [List.append_assoc]
    rcases answer with f | _ | name
    · exact Fails.unnamed hcleared hissued
    · exact Ends.unnamed hcleared hissued
    · refine Attempt.follows_bind.mpr ⟨.submit hcleared hissued, fun submitted ↦ ?_⟩
      cases submitted with
      | ok _ => exact Ends.submitted hcleared hissued
      | error f => exact Fails.lostAtSubmission hcleared hissued

/-- A step-up is completed, or its end is that of the registration. -/
private theorem follows_stepUp (inUse : List String) {options : RequestOptions} {first : Event}
    (hissued : StepUpIssued c csrfToken options first)
    (hregistered : options.hasRegistered = true) :
    (stepUp options).run.Follows (Next c csrfToken inUse)
      (fun h r ↦ match r with
        | .ok none => Ends c csrfToken inUse h .cancelled
        | .ok (some credential) => Cleared c csrfToken (some credential) h
        | .error f => Fails c csrfToken inUse h f) [first] := by
  rw [stepUp, Attempt.follows_bind]
  refine ⟨.confirm hissued hregistered, fun agreed ↦ ?_⟩
  cases agreed with
  | false => exact Attempt.follows_bind.mpr ⟨.notify, fun _ ↦ Ends.declined hissued⟩
  | true =>
    refine Attempt.follows_bind.mpr (Attempt.follows_retrieve (.retrieve hissued hregistered)
      (.await hissued hregistered) fun reply ↦ ?_)
    cases hreply : credentialOf reply with
    | error f => exact Fails.unretrieved hissued hreply
    | ok credential =>
      obtain rfl := credentialOf_eq_ok_iff.mp hreply
      exact Attempt.follows_bind.mpr
        ⟨.inform hissued hregistered, fun answer ↦ Cleared.stepUp hissued hregistered⟩

private theorem follows_attempt :
    (attempt c csrfToken inUse).run.Follows (Next c csrfToken inUse)
      (Concludes c csrfToken inUse) [] := by
  rw [attempt, Attempt.follows_bind, Attempt.stepUpOptions]
  refine Attempt.follows_fetchOptions_or (fun _ hurl _ ↦ .ask hurl)
    (fun first options hissued ↦ ?_) (fun own f hunissued ↦ Fails.unissued hunissued)
  dsimp only
  -- the two ways in which the way is cleared
  by_cases hregistered : options.hasRegistered = true
  · rw [if_pos hregistered, Attempt.follows_bind]
    refine (follows_stepUp inUse hissued hregistered).mono (fun _ _ hq ↦ hq) fun h r hr ↦ ?_
    rcases r with f | _ | credential
    · exact hr
    · exact hr
    · exact follows_createAndSubmit hr
  · rw [if_neg hregistered]
    exact follows_createAndSubmit (.free hissued (by simpa using hregistered))

end Registration

/-- **A registration keeps to its course**, whatever it is answered. -/
theorem register_follows (c : Client) (csrfToken : String) (inUse : List String) :
    (register c csrfToken inUse).Follows (Registration.Next c csrfToken inUse)
      (Registration.Ends c csrfToken inUse) [] := by
  rw [register, Program.follows_bind]
  refine Registration.follows_attempt.mono (fun _ _ hq ↦ hq) fun h r hr ↦ ?_
  cases r with
  | ok outcome => exact hr
  | error f =>
    rw [Program.follows_bind, Program.report]
    cases htoast : (f.report .registration).toast with
    | none => exact Registration.Ends.silent hr htoast
    | some toast => exact ⟨.notify, fun _ ↦ Registration.Ends.told hr htoast⟩

end PasskeyCeremony
