import PasskeyCeremony.Ceremony.Outcome
import PasskeyCeremony.Ceremony.Retrieval
import PasskeyCeremony.Proofs.Ceremony.History
import PasskeyCeremony.Proofs.Ceremony.Kinds

/-!
# Exchanges with the server and the platform

What the pieces of a ceremony do, each as one rule for `Program.Follows`: the fetching of options,
the request to delete a passkey, the retrieval and the creation of a credential. A ceremony is
judged with these rules alone.

Options count as issued by an answer of success whose body is their text (`Response.Issues`), which
is said without the functions that read answers; `readStepUpOptions_eq_ok_iff` and its companions
are the bridge.
-/

namespace PasskeyCeremony

open Http (Response Request)

/-! ## Answers that issue options -/

/-- The answer is a success, and its body is the text of the options. -/
def Http.Response.Issues {α : Type} (parse? : List Char → Option α) (a : Response) (options : α) :
    Prop :=
  a.isSuccess = true ∧ (a.body.bind Text.Utf8.decode?).bind parse? = some options

theorem readOptions_eq_ok_iff {α : Type} {context : String} {parse? : List Char → Option α}
    {refuse : Nat → Option String → Failure} {a : Response} {options : α} :
    readOptions context parse? refuse a = .ok options ↔ a.Issues parse? options := by
  rw [readOptions, Response.Issues]
  by_cases hsuccess : a.isSuccess = true
  · rw [if_pos hsuccess]
    cases hparse : (a.body.bind Text.Utf8.decode?).bind parse? <;> simp [hsuccess]
  · rw [if_neg hsuccess]
    simp [hsuccess]

theorem readStepUpOptions_eq_ok_iff {a : Response} {options : RequestOptions} :
    readStepUpOptions a = .ok options ↔ a.Issues RequestOptions.parse? options :=
  readOptions_eq_ok_iff

theorem readRequestOptions_eq_ok_iff {a : Response} {options : RequestOptions} :
    readRequestOptions a = .ok options ↔ a.Issues RequestOptions.parse? options :=
  readOptions_eq_ok_iff

/-- The status 400, and nothing else, says that there are no passkeys. -/
theorem readRequestOptions_eq_noRegistered_iff {a : Response} :
    readRequestOptions a = .error .noRegisteredPasskeys ↔ a.status = 400 := by
  rw [readRequestOptions, readOptions, refuseRequestOptions]
  by_cases hstatus : a.status = 400
  · rw [if_neg (by simp [Response.isSuccess, hstatus]), if_pos hstatus]
    simp [hstatus]
  · rw [if_neg hstatus]
    split
    · split <;> simp [hstatus]
    · simp [hstatus]

/-- The event in which an endpoint issued options: the request for them was answered, and the
answer was read as these options. -/
inductive Issued {α : Type} (c : Client) (csrfToken name : String)
    (read : Response → Except Failure α) (options : α) : Event → Prop where
  | intro {url : Url} {a : Response} (hurl : c.endpoint name = .ok url)
      (hread : read a = .ok options) :
      Issued c csrfToken name read options
        ⟨.send (Client.optionsRequest url csrfToken), some (.ok a)⟩

theorem Issued.unique {α : Type} {c : Client} {csrfToken name : String}
    {read : Response → Except Failure α} {options options' : α} {e : Event}
    (h : Issued c csrfToken name read options e) (h' : Issued c csrfToken name read options' e) :
    options = options' := by
  obtain ⟨_, hread⟩ := h
  cases h' with
  | intro _ hread' => exact Except.ok.inj (hread.symm.trans hread')

theorem Issued.isPage {α : Type} {c : Client} {csrfToken name : String}
    {read : Response → Except Failure α} {options : α} {e : Event}
    (h : Issued c csrfToken name read options e) : e.action.isPage = false := by
  obtain ⟨_, _⟩ := h
  rfl

/-- The events of a request for options that comes to nothing, with the failure: the endpoint has no
address, the request cannot be put on the wire, it is lost, or the answer is not read as options. -/
inductive Unissued {α : Type} (c : Client) (csrfToken name context : String)
    (read : Response → Except Failure α) : List Event → Failure → Prop where
  | unresolved {f : Failure} (hurl : c.endpoint name = .error f) :
      Unissued c csrfToken name context read [] f
  | unsendable {url : Url} (hurl : c.endpoint name = .ok url)
      (hsendable : (Client.optionsRequest url csrfToken).isSendable = false) :
      Unissued c csrfToken name context read [] (.network context "the request cannot be sent")
  | lost {url : Url} {l : Http.Lost} (hurl : c.endpoint name = .ok url) :
      Unissued c csrfToken name context read
        [⟨.send (Client.optionsRequest url csrfToken), some (.error l)⟩]
        (.network context l.detail)
  | refused {url : Url} {a : Response} {f : Failure} (hurl : c.endpoint name = .ok url)
      (hread : read a = .error f) :
      Unissued c csrfToken name context read
        [⟨.send (Client.optionsRequest url csrfToken), some (.ok a)⟩] f

theorem Unissued.action {α : Type} {c : Client} {csrfToken name context : String}
    {read : Response → Except Failure α} {h : List Event} {f : Failure}
    (hunissued : Unissued c csrfToken name context read h f) {e : Event} (he : e ∈ h) :
    ∃ url, e.action = .send (Client.optionsRequest url csrfToken) := by
  cases hunissued with
  | unresolved _ | unsendable _ _ => exact absurd he List.not_mem_nil
  | lost _ | refused _ _ =>
    rw [List.mem_singleton.mp he]
    exact ⟨_, rfl⟩

theorem Client.exists_fault_of_endpoint {c : Client} {name : String} {f : Failure}
    (h : c.endpoint name = .error f) : ∃ fault, f = .url fault := by
  rw [endpoint, resolve] at h
  cases hurl : Url.resolve c.base (c.settings.endpoint name) with
  | ok url =>
    rw [hurl] at h
    cases h
  | error fault =>
    rw [hurl] at h
    exact ⟨fault, (Except.error.inj h).symm⟩

namespace Attempt

variable {next : List Event → Action → Prop}

/-! ## The server -/

theorem follows_exchange {context : String} {request : Request}
    {ends : List Event → Except Failure Response → Prop} {h : List Event}
    (unsendable : request.isSendable = false →
      ends h (.error (.network context "the request cannot be sent")))
    (sent : request.isSendable = true → next h (.send request))
    (answered : ∀ a, ends (h ++ [⟨.send request, some (.ok a)⟩]) (.ok a))
    (lost : ∀ l,
      ends (h ++ [⟨.send request, some (.error l)⟩]) (.error (.network context l.detail))) :
    (exchange context request).run.Follows next ends h := by
  rw [exchange, ExceptT.run_mk]
  split
  · rename_i hsendable
    refine ⟨sent hsendable, fun answer ↦ ?_⟩
    cases answer with
    | ok a => exact answered a
    | error l => exact lost l
  · rename_i hsendable
    exact unsendable (by simpa using hsendable)

/-- Options are asked for once, and whatever becomes of that is the result. -/
theorem follows_fetchOptions {α : Type} {c : Client} {name context csrfToken : String}
    {read : Response → Except Failure α} {ends : List Event → Except Failure α → Prop}
    {h : List Event}
    (unresolved : ∀ f, c.endpoint name = .error f → ends h (.error f))
    (unsendable : ∀ url, c.endpoint name = .ok url →
      (Client.optionsRequest url csrfToken).isSendable = false →
      ends h (.error (.network context "the request cannot be sent")))
    (sent : ∀ url, c.endpoint name = .ok url →
      (Client.optionsRequest url csrfToken).isSendable = true →
      next h (.send (Client.optionsRequest url csrfToken)))
    (answered : ∀ url a, c.endpoint name = .ok url →
      ends (h ++ [⟨.send (Client.optionsRequest url csrfToken), some (.ok a)⟩]) (read a))
    (lost : ∀ url l, c.endpoint name = .ok url →
      ends (h ++ [⟨.send (Client.optionsRequest url csrfToken), some (.error l)⟩])
        (.error (.network context l.detail))) :
    (fetchOptions c name context csrfToken read).run.Follows next ends h := by
  rw [fetchOptions, follows_bind, follows_ofExcept]
  cases hurl : c.endpoint name with
  | error f => exact unresolved f hurl
  | ok url =>
    exact follows_bind.mpr (follows_exchange (unsendable url hurl) (sent url hurl)
      (fun a ↦ answered url a hurl) (fun l ↦ lost url l hurl))

theorem follows_fetchOptions_or {α : Type} {c : Client} {name context csrfToken : String}
    {read : Response → Except Failure α} {ends : List Event → Except Failure α → Prop}
    {h : List Event}
    (sent : ∀ url, c.endpoint name = .ok url →
      (Client.optionsRequest url csrfToken).isSendable = true →
      next h (.send (Client.optionsRequest url csrfToken)))
    (issued : ∀ e options, Issued c csrfToken name read options e → ends (h ++ [e]) (.ok options))
    (unissued : ∀ own f, Unissued c csrfToken name context read own f →
      ends (h ++ own) (.error f)) :
    (fetchOptions c name context csrfToken read).run.Follows next ends h := by
  have hnone : ∀ f, Unissued c csrfToken name context read [] f → ends h (.error f) := by
    intro f hf
    have hends := unissued [] f hf
    rwa [List.append_nil] at hends
  refine follows_fetchOptions (fun f hurl ↦ hnone f (.unresolved hurl))
    (fun url hurl hsendable ↦ hnone _ (.unsendable hurl hsendable)) sent (fun url a hurl ↦ ?_)
    (fun url l hurl ↦ unissued _ _ (.lost hurl))
  cases hread : read a with
  | ok options => exact issued _ _ (.intro hurl hread)
  | error f => exact unissued _ _ (.refused hurl hread)

/-- Options for signing in, where the answer that there are no passkeys is no failure. -/
theorem follows_requestOptions? {c : Client} {csrfToken : String}
    {ends : List Event → Except Failure (Option RequestOptions) → Prop} {h : List Event}
    (unresolved : ∀ f, c.endpoint "auth-options" = .error f → ends h (.error f))
    (unsendable : ∀ url, c.endpoint "auth-options" = .ok url →
      (Client.optionsRequest url csrfToken).isSendable = false →
      ends h (.error (.network requestContext "the request cannot be sent")))
    (sent : ∀ url, c.endpoint "auth-options" = .ok url →
      (Client.optionsRequest url csrfToken).isSendable = true →
      next h (.send (Client.optionsRequest url csrfToken)))
    (issued : ∀ url a options, c.endpoint "auth-options" = .ok url →
      readRequestOptions a = .ok options →
      ends (h ++ [⟨.send (Client.optionsRequest url csrfToken), some (.ok a)⟩])
        (.ok (some options)))
    (unregistered : ∀ url a, c.endpoint "auth-options" = .ok url → a.status = 400 →
      ends (h ++ [⟨.send (Client.optionsRequest url csrfToken), some (.ok a)⟩]) (.ok none))
    (refused : ∀ url a f, c.endpoint "auth-options" = .ok url → a.status ≠ 400 →
      readRequestOptions a = .error f →
      ends (h ++ [⟨.send (Client.optionsRequest url csrfToken), some (.ok a)⟩]) (.error f))
    (lost : ∀ url l, c.endpoint "auth-options" = .ok url →
      ends (h ++ [⟨.send (Client.optionsRequest url csrfToken), some (.error l)⟩])
        (.error (.network requestContext l.detail))) :
    (requestOptions? c csrfToken).run.Follows next ends h := by
  rw [requestOptions?, ExceptT.run_mk, Program.follows_bind, requestOptions]
  refine follows_fetchOptions (fun f hurl ↦ ?_) (fun url hurl hsendable ↦ ?_) sent
    (fun url a hurl ↦ ?_) (fun url l hurl ↦ ?_)
  · obtain ⟨fault, rfl⟩ := Client.exists_fault_of_endpoint hurl
    exact unresolved _ hurl
  · exact unsendable url hurl hsendable
  · by_cases hstatus : a.status = 400
    · rw [readRequestOptions_eq_noRegistered_iff.mpr hstatus]
      exact unregistered url a hurl hstatus
    · cases hread : readRequestOptions a with
      | ok options => exact issued url a options hurl hread
      | error f =>
        -- every other failure is passed on
        have hne : f ≠ .noRegisteredPasskeys := by
          rintro rfl
          exact hstatus (readRequestOptions_eq_noRegistered_iff.mp hread)
        have hrefused := refused url a f hurl hstatus hread
        cases f <;> first | exact hrefused | exact absurd rfl hne
  · exact lost url l hurl

theorem follows_requestOptions?_or {c : Client} {csrfToken : String}
    {ends : List Event → Except Failure (Option RequestOptions) → Prop} {h : List Event}
    (sent : ∀ url, c.endpoint "auth-options" = .ok url →
      (Client.optionsRequest url csrfToken).isSendable = true →
      next h (.send (Client.optionsRequest url csrfToken)))
    (issued : ∀ e options, Issued c csrfToken "auth-options" readRequestOptions options e →
      ends (h ++ [e]) (.ok (some options)))
    (unregistered : ∀ url a, c.endpoint "auth-options" = .ok url → a.status = 400 →
      ends (h ++ [⟨.send (Client.optionsRequest url csrfToken), some (.ok a)⟩]) (.ok none))
    (unissued : ∀ own f,
      Unissued c csrfToken "auth-options" requestContext readRequestOptions own f →
      f ≠ .noRegisteredPasskeys → ends (h ++ own) (.error f)) :
    (requestOptions? c csrfToken).run.Follows next ends h := by
  have hnone : ∀ f, Unissued c csrfToken "auth-options" requestContext readRequestOptions [] f →
      f ≠ .noRegisteredPasskeys → ends h (.error f) := by
    intro f hf hne
    have hends := unissued [] f hf hne
    rwa [List.append_nil] at hends
  refine follows_requestOptions? (fun f hurl ↦ ?_)
    (fun url hurl hsendable ↦ hnone _ (.unsendable hurl hsendable) nofun) sent
    (fun url a options hurl hread ↦ issued _ _ (.intro hurl hread)) unregistered
    (fun url a f hurl hstatus hread ↦ unissued _ _ (.refused hurl hread) ?_)
    (fun url l hurl ↦ unissued _ _ (.lost hurl) nofun)
  · obtain ⟨fault, rfl⟩ := Client.exists_fault_of_endpoint hurl
    exact hnone _ (.unresolved hurl) nofun
  · rintro rfl
    exact hstatus (readRequestOptions_eq_noRegistered_iff.mp hread)

/-- The request to delete a passkey is made once, if the passkey has an address. -/
theorem follows_deletePasskey {c : Client} {id csrfToken credential : String}
    {ends : List Event → Except Failure Json → Prop} {h : List Event}
    (unresolved : ∀ f, c.passkeyUrl id = .error f → ends h (.error f))
    (unsendable : ∀ url, c.passkeyUrl id = .ok url →
      (Client.deletionRequest url csrfToken credential).isSendable = false →
      ends h (.error (.network deletionContext "the request cannot be sent")))
    (sent : ∀ url, c.passkeyUrl id = .ok url →
      (Client.deletionRequest url csrfToken credential).isSendable = true →
      next h (.send (Client.deletionRequest url csrfToken credential)))
    (answered : ∀ url a, c.passkeyUrl id = .ok url →
      ends (h ++ [⟨.send (Client.deletionRequest url csrfToken credential), some (.ok a)⟩])
        (readDeletion c.texts a))
    (lost : ∀ url l, c.passkeyUrl id = .ok url →
      ends (h ++ [⟨.send (Client.deletionRequest url csrfToken credential), some (.error l)⟩])
        (.error (.network deletionContext l.detail))) :
    (deletePasskey c id csrfToken credential).run.Follows next ends h := by
  rw [deletePasskey, follows_bind, follows_ofExcept]
  cases hurl : c.passkeyUrl id with
  | error f => exact unresolved f hurl
  | ok url =>
    exact follows_bind.mpr (follows_exchange (unsendable url hurl) (sent url hurl)
      (fun a ↦ answered url a hurl) (fun l ↦ lost url l hurl))

/-! ## The platform -/

theorem follows_create {options : CreationOptions}
    {ends : List Event → Except Failure Credential → Prop} {h : List Event}
    (asked : next h (.create options))
    (replied : ∀ reply, ends (h ++ [⟨.create options, some reply⟩]) (credentialOf reply)) :
    (create options).run.Follows next ends h :=
  ⟨asked, replied⟩

theorem follows_retrieve {options : RequestOptions}
    {ends : List Event → Except Failure Credential → Prop} {h : List Event}
    (began : next h (.retrieve ⟨options, .optional, false⟩))
    (awaited : next (h ++ [⟨.retrieve ⟨options, .optional, false⟩, some ()⟩]) .await)
    (replied : ∀ reply,
      ends (h ++ [⟨.retrieve ⟨options, .optional, false⟩, some ()⟩] ++ [⟨.await, some reply⟩])
        (credentialOf reply)) :
    (retrieve options).run.Follows next ends h :=
  ⟨began, fun _ ↦ ⟨awaited, replied⟩⟩

end Attempt

theorem credentialOf_eq_ok_iff {reply : PlatformReply} {credential : Credential} :
    credentialOf reply = .ok credential ↔ reply = .ok (some credential) := by
  match reply with
  | .ok (some _) => simp [credentialOf]
  | .ok none => simp [credentialOf]
  | .error _ => simp [credentialOf]

end PasskeyCeremony
