import PasskeyCeremony.Ceremony.Registration
import PasskeyCeremony.Proofs.Authentication.Course
import PasskeyCeremony.Proofs.Session.Alike
import PasskeyCeremony.Session.Sample

/-!
# Texts for diagnosis stay out of sight

What a ceremony does, and what the user sees of it, does not depend on the texts that exceptions and
lost requests come with, nor on names of exceptions that are not recognised. Two runs of a ceremony
in surroundings that differ in nothing else are the same, action by action, and have the same
outcome (`diagnostics_unseen`). The bodies of refusals are read where the server explains itself to
the user, which it does not when it refuses options for signing in.

A deletion hands its failure on. What is said of it is that the two failures are told alike,
whatever ceremony they are reported for.
-/

namespace PasskeyCeremony

/-- The request for options for signing in. -/
def Client.AsksForOptions (c : Client) (csrfToken : String) (request : Http.Request) : Prop :=
  ∃ url, c.endpoint "auth-options" = .ok url ∧ request = Client.optionsRequest url csrfToken

/-- Failures that are told alike, whatever they are reported for. -/
def Failure.ToldAlike (f f' : Failure) : Prop := ∀ op, (f.report op).toast = (f'.report op).toast

variable {unread : Http.Request → Prop}

/-! ## The ceremonies -/

namespace Registration

theorem matches_stepUp (options : RequestOptions) :
    Attempt.Matches unread (stepUp options) (stepUp options) := by
  refine Attempt.matches_bind (Attempt.matches_confirm _) fun agreed ↦ ?_
  cases agreed with
  | false => exact Attempt.matches_bind (Attempt.matches_notify _) fun _ ↦ .done (.ok rfl)
  | true =>
    refine Attempt.matches_bind (Attempt.matches_retrieve options) fun credential ↦ ?_
    exact Attempt.matches_bind (Attempt.matches_confirm _) fun _ ↦ .done (.ok rfl)

variable (c : Client) (csrfToken : String) (inUse : List String)

theorem matches_options {α : Type} (name context : String)
    (read : Http.Response → Except Failure α) :
    Attempt.Matches (fun _ ↦ False) (Attempt.fetchOptions c name context csrfToken read)
      (Attempt.fetchOptions c name context csrfToken read) :=
  Attempt.matches_fetchOptions fun _ _ hread ↦ hread.elim

theorem matches_createAndSubmit (existing : Option Credential) :
    Attempt.Matches (fun _ ↦ False) (createAndSubmit c csrfToken inUse existing)
      (createAndSubmit c csrfToken inUse existing) := by
  rw [createAndSubmit]
  refine Attempt.matches_bind (matches_options c csrfToken _ _ _) fun options ↦ ?_
  refine Attempt.matches_bind (Attempt.matches_create options) fun created ↦ ?_
  refine Attempt.matches_bind (Attempt.matches_chooseName inUse) fun name? ↦ ?_
  cases name? with
  | none => exact .done (.ok rfl)
  | some name => exact Attempt.matches_bind (Attempt.matches_submit _) fun _ ↦ .done (.ok rfl)

theorem matches_attempt :
    Attempt.Matches (fun _ ↦ False) (attempt c csrfToken inUse) (attempt c csrfToken inUse) := by
  rw [attempt]
  refine Attempt.matches_bind (matches_options c csrfToken _ _ _) fun options ↦ ?_
  split
  · refine Attempt.matches_bind (matches_stepUp options) fun existing ↦ ?_
    cases existing with
    | none => exact .done (.ok rfl)
    | some credential => exact matches_createAndSubmit c csrfToken inUse (some credential)
  · exact matches_createAndSubmit c csrfToken inUse none

end Registration

theorem register_matches (c : Client) (csrfToken : String) (inUse : List String) :
    Program.Matches (fun _ ↦ False) Eq (register c csrfToken inUse)
      (register c csrfToken inUse) := by
  rw [register]
  refine (Registration.matches_attempt c csrfToken inUse).bind fun r r' hr ↦ ?_
  cases hr with
  | ok h => exact .done h
  | error h => exact (Program.matches_report .registration h).bind fun _ _ _ ↦ .done rfl

theorem readRequestOptions_of_refused {a a' : Http.Response} (hfailed : a.isSuccess = false)
    (hbody : a' = { a with body := a'.body }) : readRequestOptions a = readRequestOptions a' := by
  rw [hbody]
  have hfailed' : ({ a with body := a'.body } : Http.Response).isSuccess = false := hfailed
  rw [readRequestOptions, readRequestOptions, readOptions, readOptions, hfailed, hfailed']
  rfl

theorem Attempt.matches_requestOptions? (c : Client) (csrfToken : String) :
    Matches (c.AsksForOptions csrfToken) (requestOptions? c csrfToken)
      (requestOptions? c csrfToken) := by
  have hfetch : Matches (c.AsksForOptions csrfToken) (requestOptions c csrfToken)
      (requestOptions c csrfToken) :=
    matches_fetchOptions fun _ _ _ _ _ hfailed hbody ↦ readRequestOptions_of_refused hfailed hbody
  refine Program.Matches.bind hfetch fun r r' hr ↦ ?_
  cases hr with
  | ok h =>
    obtain rfl := h
    exact .done (.ok rfl)
  | @error f f' h =>
    cases h with
    | refl =>
      -- missing passkeys are no failure, and every other failure is passed on
      cases f <;> first | exact .done (.error (.refl _)) | exact .done (.ok rfl)
    | network => exact .done (.error .network)
    | platform hp => exact .done (.error (.platform hp))

namespace Authentication

theorem matches_retrieve (settings : Settings) (options : RequestOptions) :
    Attempt.Matches unread (retrieve settings options) (retrieve settings options) := by
  rw [retrieve]
  split
  · exact Attempt.matches_retrieveWithin _ options
  · exact Attempt.matches_retrieve options

theorem matches_attempt (c : Client) (target csrfToken : String) :
    Attempt.Matches (c.AsksForOptions csrfToken) (attempt c target csrfToken)
      (attempt c target csrfToken) := by
  rw [attempt]
  refine Attempt.matches_bind (Attempt.matches_requestOptions? c csrfToken) fun options? ↦ ?_
  cases options? with
  | none => exact Attempt.matches_bind (Attempt.matches_redirect _) fun _ ↦ .done (.ok rfl)
  | some options =>
    refine Attempt.matches_bind (matches_retrieve c.settings options) fun credential ↦ ?_
    exact Attempt.matches_bind (Attempt.matches_submit _) fun _ ↦ .done (.ok rfl)

end Authentication

theorem Failure.Alike.isBenign {f f' : Failure} (h : f.Alike f') : f.isBenign = f'.isBenign := by
  cases h with
  | refl => rfl
  | network => rfl
  | platform hp => exact hp.isBenign

theorem authenticate_matches (c : Client) (target csrfToken : String) :
    Program.Matches (c.AsksForOptions csrfToken) Eq (authenticate c target csrfToken)
      (authenticate c target csrfToken) := by
  rw [authenticate_eq]
  refine (Authentication.matches_attempt c target csrfToken).bind fun r r' hr ↦ ?_
  cases hr with
  | ok h => exact .done h
  | error h =>
    rw [Authentication.conclude, Authentication.conclude, h.isBenign]
    split
    · exact .done rfl
    · exact (Program.matches_report .authentication h).bind fun _ _ _ ↦ .done rfl

/-- The answer to a deletion is read in full. -/
theorem Attempt.matches_deletePasskey (c : Client) (id csrfToken credential : String) :
    Matches (c.AsksForOptions csrfToken) (deletePasskey c id csrfToken credential)
      (deletePasskey c id csrfToken credential) := by
  rw [deletePasskey]
  refine matches_bind (matches_ofExcept (.refl .refl (fun _ ↦ rfl) _)) fun url ↦ ?_
  refine matches_bind_of (matches_exchange deletionContext _) fun a a' h ↦ ?_
  rcases h with rfl | ⟨⟨_, _, hrequest⟩, _, _⟩
  · exact matches_ofExcept (.refl .refl (fun _ ↦ rfl) _)
  · cases congrArg Http.Request.method hrequest

theorem delete_matches (c : Client) (id csrfToken : String) :
    Attempt.Matches (c.AsksForOptions csrfToken) (delete c id csrfToken)
      (delete c id csrfToken) := by
  rw [delete]
  refine Attempt.matches_bind (Attempt.matches_requestOptions? c csrfToken) fun options? ↦ ?_
  cases options? with
  | none =>
    refine Attempt.matches_bind (Attempt.matches_redirect _) fun _ ↦ ?_
    exact .done (.error (.refl .noRegisteredPasskeys))
  | some options =>
    refine Attempt.matches_bind (Attempt.matches_retrieve options) fun credential ↦ ?_
    exact Attempt.matches_deletePasskey c id csrfToken credential.normalizedText

/-! ## Every two runs -/

/-- **Texts for diagnosis are not seen.** A ceremony has the same actions and the same outcome in
surroundings that differ in such texts only; for the ceremonies that ask for options for signing in
the bodies of refusals may differ too. -/
theorem diagnostics_unseen {σ τ : Type} (w : Surroundings σ) (w' : Surroundings τ)
    (related : σ → τ → Prop) (s : σ) (t : τ) (hst : related s t) (c : Client) (csrfToken : String) :
    (w.Alike (fun _ ↦ False) w' related → ∀ inUse,
      ((register c csrfToken inUse).run w s).Alike related Eq
        ((register c csrfToken inUse).run w' t)) ∧
    (w.Alike (c.AsksForOptions csrfToken) w' related → ∀ target,
      ((authenticate c target csrfToken).run w s).Alike related Eq
        ((authenticate c target csrfToken).run w' t)) ∧
    (w.Alike (c.AsksForOptions csrfToken) w' related → ∀ id,
      ((delete c id csrfToken).run.run w s).Alike related (Likewise Failure.ToldAlike Eq)
        ((delete c id csrfToken).run.run w' t)) := by
  refine ⟨fun hw inUse ↦ (register_matches c csrfToken inUse).run hw hst,
    fun hw target ↦ (authenticate_matches c target csrfToken).run hw hst, fun hw id ↦ ?_⟩
  refine ((delete_matches c id csrfToken).mono fun r r' hr ↦ ?_).run hw hst
  cases hr with
  | ok h => exact .ok h
  | error h => exact .error h.toast

/-- Two exceptions that no name is known for, and the one thing that users are told about both. -/
theorem diagnostics_unseen_unrecognised :
    ∃ (s t : Session.State) (c : Client),
      s.retrievals.map (·.reply) = [.error ⟨"SecurityError", "no such host: janus.internal"⟩] ∧
      t.retrievals.map (·.reply) = [.error ⟨"UnknownError", "out of memory"⟩] ∧
      ((authenticate c "/login" "token").run Session.surroundings s).Alike Session.State.Alike Eq
        ((authenticate c "/login" "token").run Session.surroundings t) ∧
      ((authenticate c "/login" "token").run Session.surroundings s).events.getLast? =
        some ⟨.notify (.of "Passkey authentication failed" .error), some ()⟩ := by
  let options : RequestOptions := ⟨none, [], .nil, List.not_mem_nil⟩
  let s (e : Exception) : Session.State :=
    { Session.Sample.session [("POST /passkey/auth-options", [.answer Session.Sample.options])] with
      retrievals := [⟨some 0, .error e⟩] }
  let known : Exception := ⟨"SecurityError", "no such host: janus.internal"⟩
  let unknown : Exception := ⟨"UnknownError", "out of memory"⟩
  have halike : known.Alike unknown := Or.inr (by simp [Exception.IsRecognised, known, unknown])
  have hstates : (s known).Alike (s unknown) :=
    { server := rfl, creations := .nil, retrievals := .cons ⟨rfl, .error halike⟩ .nil,
      outstanding := .none, conditional := rfl, modals := rfl, dialogs := rfl,
      navigator := .recording .nil, signals := rfl, records := .nil }
  have hplays : (authenticate Session.Sample.client "/login" "token").Plays Session.surroundings
      (s known) [⟨.send (Client.optionsRequest (Session.Sample.address ["passkey", "auth-options"])
        "token"), some (.ok Session.Sample.options)⟩,
        ⟨.retrieve ⟨options, .optional, false⟩, some ()⟩, ⟨.await, some (.error known)⟩,
        ⟨.notify (.of "Passkey authentication failed" .error), some ()⟩] (some .failed) := by
    refine .step rfl rfl ?_
    refine .step rfl rfl ?_
    refine .step rfl rfl ?_
    exact .step rfl rfl (Program.plays_done _ _)
  refine ⟨s known, s unknown, _, rfl, rfl, ?_, congrArg List.getLast? hplays.1⟩
  exact (diagnostics_unseen Session.surroundings Session.surroundings Session.State.Alike
    (s known) (s unknown) hstates Session.Sample.client "token").2.1
    (Session.alike_surroundings _) "/login"

end PasskeyCeremony
