import PasskeyCeremony.Proofs.Authentication.Course
import PasskeyCeremony.Proofs.Registration.Course

/-!
# How a ceremony closes

Few events have a part in how a registration or an authentication ends: forms, redirects and toasts,
and the answer of a user who would not use a passkey. They are `decisive`. `Closes` says what the
decisive events are for each outcome, and `Ends.closes` that the ends of both ceremonies are of this
kind. Among the events before a failure, only those are decisive that failed themselves
(`Event.IsLost`).

A page may not fail in a way that means something else to a ceremony: that there are no passkeys,
which is not told to anybody, or that the user has changed their mind (`Orderly`).
-/

namespace PasskeyCeremony

/-! ## Events that decide -/

/-- The user would not use the passkey they have. -/
def refusal : Event := ⟨.confirm Registration.stepUpQuestion, some false⟩

namespace Event

/-- The event leaves the page, shows something on it, or is the refusal of the user. -/
def isDecisive : Event → Bool
  | ⟨.confirm q, some false⟩ => q == Registration.stepUpQuestion
  | ⟨q, _⟩ => q.isPage

/-- The page could not be left. -/
inductive IsLost : Event → Prop where
  | submission {form : Form} {f : Failure} : IsLost ⟨.submit form, some (.error f)⟩
  | redirect {path : String} {f : Failure} : IsLost ⟨.redirect path, some (.error f)⟩

end Event

/-- The events that decide the outcome. -/
def decisive (events : List Event) : List Event := events.filter Event.isDecisive

@[simp] theorem decisive_append (before after : List Event) :
    decisive (before ++ after) = decisive before ++ decisive after :=
  List.filter_append before after

theorem decisive_cons_of_not {e : Event} (he : e.isDecisive = false) (events : List Event) :
    decisive (e :: events) = decisive events :=
  List.filter_cons_of_neg (ne_true_of_eq_false he)

theorem mem_decisive {e : Event} {events : List Event} (he : e ∈ events)
    (hdecisive : e.isDecisive = true) : e ∈ decisive events :=
  List.mem_filter.mpr ⟨he, hdecisive⟩

theorem isDecisive_of_isPage {e : Event} (he : e.action.isPage = true) : e.isDecisive = true := by
  obtain ⟨q, answer⟩ := e
  cases q <;> first | rfl | cases he

theorem isDecisive_of_isPlatform {e : Event} (he : e.action.isPlatform = true) :
    e.isDecisive = false := by
  obtain ⟨q, answer⟩ := e
  cases q <;> first | rfl | cases he

/-! ## Closing -/

/-- The failures of the page that a ceremony is prepared for. -/
structure Orderly (events : List Event) : Prop where
  /-- A form that is not submitted has another reason than missing passkeys, and not a benign
  one. -/
  submission : ∀ form f, ⟨.submit form, some (.error f)⟩ ∈ events →
    f ≠ .noRegisteredPasskeys ∧ f.isBenign = false
  /-- A redirect that fails has another reason than missing passkeys, and not a benign one. -/
  redirect : ∀ path f, ⟨.redirect path, some (.error f)⟩ ∈ events →
    f ≠ .noRegisteredPasskeys ∧ f.isBenign = false
  /-- The user cannot be asked for a name for another reason than missing passkeys. -/
  naming : ∀ inUse f, ⟨.chooseName inUse, some (.error f)⟩ ∈ events → f ≠ .noRegisteredPasskeys

namespace Orderly

variable {events events' : List Event}

theorem mono (h : Orderly events) (hsub : events' ⊆ events) : Orderly events' where
  submission form f he := h.submission form f (hsub he)
  redirect path f he := h.redirect path f (hsub he)
  naming inUse f he := h.naming inUse f (hsub he)

theorem left {after : List Event} (h : Orderly (events ++ after)) : Orderly events :=
  h.mono (List.subset_append_left _ _)

end Orderly

/-- How a ceremony closes, by its decisive events. -/
inductive Closes (op : Operation) (c : Client) (csrfToken : String) :
    List Event → Outcome → Prop where
  | submitted {before : List Event} {form : Form} (hdecisive : decisive before = []) :
      Closes op c csrfToken (before ++ [⟨.submit form, some (.ok ())⟩]) .submitted
  | dismissed {events : List Event} (hdecisive : decisive events = []) :
      Closes op c csrfToken events .cancelled
  | declined {events : List Event}
      (hdecisive : decisive events = [refusal, ⟨.notify Registration.declined, some ()⟩]) :
      Closes op c csrfToken events .cancelled
  | redirected {url : Url} {a : Http.Response} (hop : op = .authentication)
      (hurl : c.endpoint "auth-options" = .ok url) (hstatus : a.status = 400) :
      Closes op c csrfToken [Deletion.asked csrfToken url (.ok a),
        ⟨.redirect c.settings.accountSetupPath, some (.ok ())⟩] .redirected
  | failed {before : List Event} {toast : Toast} (hlost : ∀ e ∈ decisive before, e.IsLost)
      (hkind : toast.kind = .error ∨ toast.kind = .warning) :
      Closes op c csrfToken (before ++ [⟨.notify toast, some ()⟩]) .failed

/-! ## Failures -/

/-- Every failure is told as an error or a warning, but for missing passkeys. -/
theorem exists_toast_of_report (op : Operation) {f : Failure} (hne : f ≠ .noRegisteredPasskeys) :
    ∃ toast, (f.report op).toast = some toast ∧ (toast.kind = .error ∨ toast.kind = .warning) := by
  cases f with
  | noRegisteredPasskeys => exact absurd rfl hne
  | server status message => cases op <;> exact ⟨_, rfl, Or.inl rfl⟩
  | platform p =>
    cases p with
    | aborted _ | notAllowed _ | invalidState _ => exact ⟨_, rfl, Or.inr rfl⟩
    | other _ _ => exact ⟨_, rfl, Or.inl rfl⟩
  | requestOptionsUnavailable _ => exact ⟨_, rfl, Or.inr rfl⟩
  | network _ _ | missingCredential | promptUnavailable _ | json _ | url _ | markup _ =>
    exact ⟨_, rfl, Or.inl rfl⟩

theorem kind_of_report {op : Operation} {f : Failure} {toast : Toast}
    (hne : f ≠ .noRegisteredPasskeys) (htoast : (f.report op).toast = some toast) :
    toast.kind = .error ∨ toast.kind = .warning := by
  obtain ⟨toast', htold, hkind⟩ := exists_toast_of_report op hne
  obtain rfl := Option.some.inj (htoast.symm.trans htold)
  exact hkind

theorem toast_of_report_ne_none (op : Operation) {f : Failure} (hne : f ≠ .noRegisteredPasskeys) :
    (f.report op).toast ≠ none := by
  obtain ⟨toast, htold, -⟩ := exists_toast_of_report op hne
  rw [htold]
  exact Option.some_ne_none toast

theorem ne_noRegistered_of_credentialOf {reply : PlatformReply} {f : Failure}
    (h : credentialOf reply = .error f) : f ≠ .noRegisteredPasskeys := by
  rintro rfl
  match reply with
  | .ok (some _) | .ok none | .error _ => cases h

theorem ne_noRegistered_of_readOptions {α : Type} {context : String}
    {parse? : List Char → Option α} {a : Http.Response} {f : Failure}
    (h : readOptions context parse? .refusal a = .error f) : f ≠ .noRegisteredPasskeys := by
  rintro rfl
  rw [readOptions] at h
  split at h
  · split at h <;> cases h
  · cases h

theorem ne_noRegistered_of_readCreationOptions {a : Http.Response} {f : Failure}
    (h : readCreationOptions a = .error f) : f ≠ .noRegisteredPasskeys := by
  rw [readCreationOptions] at h
  cases hread : readOptions creationContext CreationOptions.parse? .refusal a with
  | ok options =>
    rw [hread] at h
    cases h
  | error f' =>
    rw [hread] at h
    obtain rfl : f' = f := Except.error.inj h
    exact ne_noRegistered_of_readOptions hread

section Unissued

variable {α : Type} {c : Client} {csrfToken name context : String}
  {read : Http.Response → Except Failure α} {own : List Event} {f : Failure}

theorem Unissued.ne_noRegistered (hunissued : Unissued c csrfToken name context read own f)
    (hread : ∀ a f, read a = .error f → f ≠ .noRegisteredPasskeys) :
    f ≠ .noRegisteredPasskeys := by
  cases hunissued with
  | unresolved hurl =>
    obtain ⟨_, rfl⟩ := Client.exists_fault_of_endpoint hurl
    exact Failure.noConfusion
  | unsendable _ _ | lost _ => exact Failure.noConfusion
  | refused _ hrefused => exact hread _ _ hrefused

theorem Unissued.decisive (hunissued : Unissued c csrfToken name context read own f) :
    PasskeyCeremony.decisive own = [] := by
  rw [PasskeyCeremony.decisive, List.filter_eq_nil_iff]
  rintro ⟨q, answer⟩ he
  obtain ⟨url, haction⟩ := hunissued.action he
  obtain rfl : q = _ := haction
  exact Bool.false_ne_true

end Unissued

theorem Issued.isDecisive {α : Type} {c : Client} {csrfToken name : String}
    {read : Http.Response → Except Failure α} {options : α} {e : Event}
    (h : Issued c csrfToken name read options e) : e.isDecisive = false := by
  obtain ⟨_, _⟩ := h
  rfl

/-! ## How a registration closes -/

namespace Registration

variable {c : Client} {csrfToken : String} {inUse : List String}

theorem Cleared.decisive {existing : Option Credential} {cleared : List Event}
    (hcleared : Cleared c csrfToken existing cleared) : PasskeyCeremony.decisive cleared = [] := by
  cases hcleared with
  | free hissued _ => exact decisive_cons_of_not hissued.isDecisive []
  | @stepUp _ _ _ answer hissued _ =>
    rw [decisive_cons_of_not hissued.isDecisive]
    cases answer <;> rfl

theorem Cleared.decisive_append {existing : Option Credential} {cleared later : List Event}
    {options : CreationOptions} {issued : Event}
    (hcleared : Cleared c csrfToken existing cleared)
    (hissued : CreationIssued c csrfToken options issued) :
    PasskeyCeremony.decisive (cleared ++ issued :: later) = PasskeyCeremony.decisive later := by
  rw [PasskeyCeremony.decisive_append, hcleared.decisive, decisive_cons_of_not hissued.isDecisive,
    List.nil_append]

/-- Before a failure nothing was decided, but for a form that was lost. -/
theorem Fails.lost {h : List Event} {f : Failure} (hfails : Fails c csrfToken inUse h f)
    (horderly : Orderly h) :
    f ≠ .noRegisteredPasskeys ∧ ∀ e ∈ PasskeyCeremony.decisive h, e.IsLost := by
  -- only the last rule has a decisive event at all
  have hnone : ∀ {events : List Event}, PasskeyCeremony.decisive events = [] →
      ∀ e ∈ PasskeyCeremony.decisive events, e.IsLost := by
    intro events hnil e he
    rw [hnil] at he
    cases he
  cases hfails with
  | unissued hunissued =>
    exact ⟨hunissued.ne_noRegistered fun _ _ ↦ ne_noRegistered_of_readOptions,
      hnone hunissued.decisive⟩
  | unretrieved hissued hreply =>
    refine ⟨ne_noRegistered_of_credentialOf hreply, hnone ?_⟩
    rw [decisive_cons_of_not hissued.isDecisive]
    rfl
  | unprepared hcleared hunissued =>
    refine ⟨hunissued.ne_noRegistered fun _ _ ↦ ne_noRegistered_of_readCreationOptions, hnone ?_⟩
    rw [decisive_append, hcleared.decisive, hunissued.decisive, List.append_nil]
  | uncreated hcleared hissued hreply =>
    exact ⟨ne_noRegistered_of_credentialOf hreply, hnone (hcleared.decisive_append hissued)⟩
  | unnamed hcleared hissued =>
    exact ⟨horderly.naming inUse f (by simp), hnone (hcleared.decisive_append hissued)⟩
  | lostAtSubmission hcleared hissued =>
    refine ⟨(horderly.submission _ f (List.mem_append_right _ List.mem_cons_self)).1, ?_⟩
    rw [decisive_append, hcleared.decisive_append hissued]
    intro e he
    obtain rfl := List.mem_singleton.mp he
    exact .submission

theorem Ends.closes {events : List Event} {outcome : Outcome}
    (hends : Ends c csrfToken inUse events outcome) (horderly : Orderly events) :
    Closes .registration c csrfToken events outcome := by
  cases hends with
  | submitted hcleared hissued =>
    exact .submitted (hcleared.decisive_append hissued)
  | unnamed hcleared hissued =>
    exact .dismissed (hcleared.decisive_append hissued)
  | declined hissued =>
    refine .declined ?_
    rw [decisive_cons_of_not hissued.isDecisive]
    rfl
  | told hfails htoast =>
    obtain ⟨hne, hlost⟩ := hfails.lost horderly.left
    exact .failed hlost (kind_of_report hne htoast)
  | silent hfails htoast =>
    exact absurd htoast (toast_of_report_ne_none .registration (hfails.lost horderly).1)

end Registration

/-! ## How an authentication closes -/

namespace Authentication

variable {c : Client} {target csrfToken : String}

theorem Retrieved.decisive {options : RequestOptions} {first : Event} {own : List Event}
    {reply : PlatformReply} (hretrieved : Retrieved c.settings options own reply)
    (hissued : Deletion.OptionsIssued c csrfToken options first) :
    PasskeyCeremony.decisive (first :: own) = [] := by
  rw [decisive_cons_of_not hissued.isDecisive, PasskeyCeremony.decisive, List.filter_eq_nil_iff]
  intro e he
  rw [isDecisive_of_isPlatform (hretrieved.isPlatform he)]
  exact Bool.false_ne_true

/-- Before a failure nothing was decided, but for what was lost; nothing was lost where the user has
changed their mind. -/
theorem Fails.lost {h : List Event} {f : Failure} (hfails : Fails c target csrfToken h f)
    (horderly : Orderly h) :
    f ≠ .noRegisteredPasskeys ∧ (∀ e ∈ PasskeyCeremony.decisive h, e.IsLost) ∧
      (f.isBenign = true → PasskeyCeremony.decisive h = []) := by
  cases hfails with
  | unissued hunissued hne =>
    rw [hunissued.decisive]
    exact ⟨hne, fun _ he ↦ absurd he List.not_mem_nil, fun _ ↦ rfl⟩
  | unretrieved hissued hretrieved hreply =>
    rw [hretrieved.decisive hissued]
    exact ⟨ne_noRegistered_of_credentialOf hreply, fun _ he ↦ absurd he List.not_mem_nil,
      fun _ ↦ rfl⟩
  | lostAtRedirect _ _ =>
    obtain ⟨hne, hbenign⟩ := horderly.redirect _ f (List.mem_cons_of_mem _ List.mem_cons_self)
    refine ⟨hne, fun e he ↦ ?_, fun h ↦ absurd (hbenign.symm.trans h) Bool.false_ne_true⟩
    obtain rfl := List.mem_singleton.mp he
    exact .redirect
  | lostAtSubmission hissued hretrieved =>
    obtain ⟨hne, hbenign⟩ :=
      horderly.submission _ f (List.mem_append_right _ List.mem_cons_self)
    refine ⟨hne, fun e he ↦ ?_, fun h ↦ absurd (hbenign.symm.trans h) Bool.false_ne_true⟩
    rw [decisive_append, hretrieved.decisive hissued] at he
    obtain rfl := List.mem_singleton.mp he
    exact .submission

theorem Ends.closes {events : List Event} {outcome : Outcome}
    (hends : Ends c target csrfToken events outcome) (horderly : Orderly events) :
    Closes .authentication c csrfToken events outcome := by
  cases hends with
  | submitted hissued hretrieved => exact .submitted (hretrieved.decisive hissued)
  | redirected hurl hstatus => exact .redirected rfl hurl hstatus
  | cancelled hfails hbenign => exact .dismissed ((hfails.lost horderly).2.2 hbenign)
  | told hfails _ htoast =>
    obtain ⟨hne, hlost, -⟩ := hfails.lost horderly.left
    exact .failed hlost (kind_of_report hne htoast)
  | silent hfails htoast =>
    exact absurd htoast (toast_of_report_ne_none .authentication (hfails.lost horderly).1)

end Authentication

end PasskeyCeremony
