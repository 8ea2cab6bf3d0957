import PasskeyCeremony.Proofs.Authentication.Course
import PasskeyCeremony.Proofs.Credential.Normal
import PasskeyCeremony.Proofs.Registration.Course

/-!
# What leaves for the server

A registration, an authentication and a deletion hand credentials to the server, as fields of a form
or as the body of a request. Nothing but normal forms of the ceremony's own credentials leaves in
this way, and each credential leaves in its own place: one that was created as the passkey, one that
was retrieved as the proof of who the user is. Where a ceremony begins two retrievals, the one that
counts is the one that gave the credential, with no other after it (`Decided`).

`SendsOwn` says this of one action after the events so far. The courses of the ceremonies fix all
events before a form or a request, so it is read off their rules one by one (`Next.sendsOwn`), and
holds of every run (`ceremonies_send_own`).
-/

namespace PasskeyCeremony

/-! ## Credentials and their texts -/

/-- The platform created a credential. -/
def Created (events : List Event) (credential : Credential) : Prop :=
  ∃ options, ⟨.create options, some (.ok (some credential))⟩ ∈ events

/-- The event gives a credential in reply to a retrieval. -/
inductive Gives (credential : Credential) : Event → Prop where
  | await : Gives credential ⟨.await, some (.ok (some credential))⟩
  | awaitWithin {window : Nat} :
      Gives credential ⟨.awaitWithin window, some (some (.ok (some credential)))⟩

/-- A retrieval began and gave a credential, and nothing has to do with a retrieval after that. -/
def Decided (events : List Event) (credential : Credential) : Prop :=
  ∃ before request reply after,
    events = before ++ ⟨.retrieve request, some ()⟩ :: reply :: after ∧ Gives credential reply ∧
      ∀ e ∈ after, e.action.isRetrieval = false

/-- The text is that of the normal form of a credential, and this form has itself as its normal
form. -/
structure Carries (text : String) (credential : Credential) : Prop where
  normal : text = (Credential.normalize credential.json).value.toText
  settled : (Credential.normalize (Credential.normalize credential.json).value).value =
    (Credential.normalize credential.json).value

theorem carries_normalizedText (credential : Credential) :
    Carries credential.normalizedText credential :=
  ⟨rfl, (Credential.normalize_of_isNormal (Credential.isNormal_normalize credential.json)).1⟩

/-! ## What an action sends -/

/-- Where a field of a form comes from. -/
inductive FieldFrom (csrfToken : String) (before : List Event) : String × String → Prop where
  /-- The passkey is a credential that was created. -/
  | passkey {credential : Credential} {text : String} (hcreated : Created before credential)
      (hcarries : Carries text credential) : FieldFrom csrfToken before ("passkey", text)
  /-- The credentials are one that was retrieved. -/
  | credentials {credential : Credential} {text : String} (hdecided : Decided before credential)
      (hcarries : Carries text credential) : FieldFrom csrfToken before ("credentials", text)
  | token : FieldFrom csrfToken before ("csrfToken", csrfToken)
  /-- The name is the one that the user chose. -/
  | passkeyName {inUse : List String} {text : String}
      (hchosen : ⟨.chooseName inUse, some (.ok (some text))⟩ ∈ before) :
      FieldFrom csrfToken before ("passkeyName", text)

/-- Where the body of a request comes from. -/
inductive BodyFrom (before : List Event) (request : Http.Request) : Prop where
  /-- A request to delete carries a credential that was retrieved. -/
  | deletion {credential : Credential} {text : String} (hmethod : request.method = .delete)
      (hbody : request.body = some text) (hdecided : Decided before credential)
      (hcarries : Carries text credential)
  /-- Other requests carry nothing. -/
  | bodiless (hmethod : request.method ≠ .delete) (hbody : request.body = none)

/-- After the events so far, an action sends nothing but what comes from them. -/
def SendsOwn (csrfToken : String) (before : List Event) : Action → Prop
  | .submit form => ∀ field ∈ form.fields, FieldFrom csrfToken before field
  | .send request => BodyFrom before request
  | _ => True

/-- The events send nothing but what comes from those before them. The platform's credentials are
as it handed them back: every answer is the one that the surroundings gave. -/
structure SendOwn {σ : Type} (w : Surroundings σ) (s : σ) (csrfToken : String)
    (events : List Event) : Prop where
  own : ∀ before e after, events = before ++ e :: after → SendsOwn csrfToken before e.action
  given : ∀ before e after, events = before ++ e :: after →
    e.answer = (w.respond (w.after s (before.map (·.action))) e.action).1

theorem bodyFrom_optionsRequest (before : List Event) (url : Url) (csrfToken : String) :
    BodyFrom before (Client.optionsRequest url csrfToken) :=
  .bodiless Http.Method.noConfusion rfl

theorem Issued.isRetrieval {α : Type} {c : Client} {csrfToken name : String}
    {read : Http.Response → Except Failure α} {options : α} {e : Event}
    (h : Issued c csrfToken name read options e) : e.action.isRetrieval = false := by
  obtain ⟨_, _⟩ := h
  rfl

/-! ## Registrations -/

namespace Registration

variable {c : Client} {csrfToken : String} {inUse : List String}

theorem Cleared.decided {credential : Credential} {cleared later : List Event}
    (hcleared : Cleared c csrfToken (some credential) cleared)
    (hlater : ∀ e ∈ later, e.action.isRetrieval = false) :
    Decided (cleared ++ later) credential := by
  cases hcleared with
  | @stepUp options first _ answer _ _ =>
    refine ⟨[first, ⟨.confirm stepUpQuestion, some true⟩], _, _,
      ⟨.confirm registerQuestion, some answer⟩ :: later, rfl, .await, fun e he ↦ ?_⟩
    rcases List.mem_cons.mp he with rfl | he
    · rfl
    · exact hlater e he

theorem Next.sendsOwn {h : List Event} {q : Action} (hnext : Next c csrfToken inUse h q) :
    SendsOwn csrfToken h q := by
  cases hnext with
  | ask _ | options _ _ => exact bodyFrom_optionsRequest _ _ _
  | @submit existing cleared options issued created name hcleared hissued =>
    intro field hfield
    simp only [form, List.cons_append, List.nil_append, List.mem_cons, Option.mem_toList,
      Option.map_eq_some_iff] at hfield
    rcases hfield with rfl | rfl | rfl | ⟨credential, rfl, rfl⟩
    · exact .passkey ⟨options, by simp⟩ (carries_normalizedText created)
    · exact .token
    · exact .passkeyName (List.mem_append_right cleared (List.mem_of_getLast? rfl))
    · refine .credentials (hcleared.decided fun e he ↦ ?_) (carries_normalizedText credential)
      simp only [List.mem_cons, List.not_mem_nil, or_false] at he
      rcases he with rfl | rfl | rfl
      · exact hissued.isRetrieval
      · rfl
      · rfl
  | confirm _ _ | retrieve _ _ | await _ _ | inform _ _ | create _ _ | name _ _ | notify =>
    exact trivial

end Registration

/-! ## Authentications -/

namespace Authentication

variable {c : Client} {target csrfToken : String}

/-- The retrieval that had the reply is the last one. -/
theorem Retrieved.decided {settings : Settings} {options : RequestOptions} {first : Event}
    {own : List Event} {credential : Credential}
    (hretrieved : Retrieved settings options own (.ok (some credential))) :
    Decided (first :: own) credential := by
  cases hretrieved with
  | @dialog lead _ _ =>
    exact ⟨first :: lead, _, _, [], rfl, .await, fun _ he ↦ absurd he List.not_mem_nil⟩
  | inTime _ =>
    exact ⟨[first, ⟨.askConditional, some true⟩], _, _, [], rfl, .awaitWithin,
      fun _ he ↦ absurd he List.not_mem_nil⟩

theorem Next.sendsOwn {h : List Event} {q : Action} (hnext : Next c target csrfToken h q) :
    SendsOwn csrfToken h q := by
  cases hnext with
  | ask _ => exact bodyFrom_optionsRequest _ _ _
  | retrieve _ hretrieving => cases hretrieving <;> exact trivial
  | @submit options first own credential _ hretrieved =>
    intro field hfield
    simp only [form, List.mem_cons, List.not_mem_nil, or_false] at hfield
    rcases hfield with rfl | rfl
    · exact .credentials hretrieved.decided (carries_normalizedText credential)
    · exact .token
  | redirect _ _ | tell _ _ _ => exact trivial

end Authentication

/-! ## Deletions -/

theorem Deletion.Next.sendsOwn {c : Client} {id csrfToken : String} {h : List Event} {q : Action}
    (hnext : Deletion.Next c id csrfToken h q) : SendsOwn csrfToken h q := by
  cases hnext with
  | ask _ _ => exact bodyFrom_optionsRequest _ _ _
  | @delete options first credential url _ _ _ =>
    refine .deletion rfl rfl ⟨[first], _, _, [], rfl, .await, ?_⟩
      (carries_normalizedText credential)
    exact fun _ he ↦ absurd he List.not_mem_nil
  | redirect _ | retrieve _ | await _ => exact trivial

/-! ## Every run -/

theorem sendOwn_of_follows {σ α : Type} {p : Program α} {next : List Event → Action → Prop}
    {ends : List Event → α → Prop} {csrfToken : String} (hp : p.Follows next ends [])
    (hown : ∀ h q, next h q → SendsOwn csrfToken h q) (w : Surroundings σ) (s : σ) :
    SendOwn w s csrfToken (p.run w s).events where
  own before e after hsplit := hown before e.action ((hp.course w s).1 before e after hsplit)
  given _ _ _ hsplit := p.answer_of_run w s hsplit

/-- **Nothing but normal forms of a ceremony's own credentials leaves**, each in its own place. -/
theorem ceremonies_send_own {σ : Type} (w : Surroundings σ) (s : σ) (c : Client)
    (csrfToken target id : String) (inUse : List String) :
    SendOwn w s csrfToken ((register c csrfToken inUse).run w s).events ∧
      SendOwn w s csrfToken ((authenticate c target csrfToken).run w s).events ∧
      SendOwn w s csrfToken ((delete c id csrfToken).run.run w s).events :=
  ⟨sendOwn_of_follows (register_follows c csrfToken inUse)
      (fun _ _ hnext ↦ Registration.Next.sendsOwn hnext) w s,
    sendOwn_of_follows (authenticate_follows c target csrfToken)
      (fun _ _ hnext ↦ Authentication.Next.sendsOwn hnext) w s,
    sendOwn_of_follows (delete_follows c id csrfToken)
      (fun _ _ hnext ↦ Deletion.Next.sendsOwn hnext) w s⟩

end PasskeyCeremony
