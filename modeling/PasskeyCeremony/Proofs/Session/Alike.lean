import Mathlib.Data.List.Forall2
import PasskeyCeremony.Proofs.Ceremony.Alike
import PasskeyCeremony.Session.Surroundings

/-!
# Sessions that differ in diagnoses

Two scripts of a session that differ in texts for diagnosis only make surroundings that are alike
(`alike_surroundings`): the replies of the platform and the failures of a scripted navigator may
differ, and everything else is the same. What reaches such surroundings is the same as well, up to
the failures of the navigator that are on record.
-/

namespace PasskeyCeremony.Session

/-- Replies that differ in texts for diagnosis and take the same time. -/
structure DelayedReply.Alike (r r' : DelayedReply) : Prop where
  delay : r.delay = r'.delay
  reply : Likewise Exception.Alike Eq r.reply r'.reply

/-- Navigators that differ in texts for diagnosis. -/
inductive Navigator.Alike : Navigator → Navigator → Prop where
  | recording {failures failures' : List (Option Failure)}
      (h : List.Forall₂ (Option.Rel Failure.Alike) failures failures') :
      Alike (.recording failures) (.recording failures')
  | requesting (base : Url) : Alike (.requesting base) (.requesting base)

/-- Records that differ in texts for diagnosis. -/
inductive Record.Alike : Record → Record → Prop where
  | refl (r : Record) : Alike r r
  | navigationFailed {f f' : Failure} (h : f.Alike f') :
      Alike (.navigationFailed f) (.navigationFailed f')

/-- States that differ in texts for diagnosis. -/
structure State.Alike (s t : State) : Prop where
  server : s.server = t.server
  creations : List.Forall₂ (Likewise Exception.Alike Eq) s.creations t.creations
  retrievals : List.Forall₂ DelayedReply.Alike s.retrievals t.retrievals
  outstanding : Option.Rel DelayedReply.Alike s.outstanding t.outstanding
  conditional : s.conditional = t.conditional
  modals : s.modals = t.modals
  dialogs : s.dialogs = t.dialogs
  navigator : s.navigator.Alike t.navigator
  signals : s.signals = t.signals
  records : List.Forall₂ Record.Alike s.records t.records

/-! ## The next entry of a script -/

theorem rel_head?_getD {α : Type} {alike : α → α → Prop} {xs ys : List α}
    (h : List.Forall₂ alike xs ys) {d : α} (hd : alike d d) :
    alike (xs.head?.getD d) (ys.head?.getD d) := by
  cases h with
  | nil => exact hd
  | cons hhead _ => exact hhead

theorem rel_bind {α β : Type} {alike : α → α → Prop} {alike' : β → β → Prop} {x y : Option α}
    {f : α → Option β} (h : Option.Rel alike x y)
    (hf : ∀ a b, alike a b → Option.Rel alike' (f a) (f b)) :
    Option.Rel alike' (x.bind f) (y.bind f) := by
  cases h with
  | none => exact .none
  | some hab => exact hf _ _ hab

theorem forall₂_tail {α : Type} {alike : α → α → Prop} {xs ys : List α}
    (h : List.Forall₂ alike xs ys) : List.Forall₂ alike xs.tail ys.tail := by
  cases h with
  | nil => exact .nil
  | cons _ htail => exact htail

namespace DelayedReply.Alike

variable {r r' : DelayedReply}

theorem nothing : DelayedReply.nothing.Alike DelayedReply.nothing := ⟨rfl, .ok rfl⟩

theorem within? (h : r.Alike r') (window : Nat) :
    Option.Rel (Likewise Exception.Alike Eq) (r.within? window) (r'.within? window) := by
  rw [DelayedReply.within?, DelayedReply.within?, h.delay]
  split
  · exact .some h.reply
  · exact .none

theorem awaited (h : r.Alike r') :
    Option.Rel (Likewise Exception.Alike Eq) (r.delay.map fun _ ↦ r.reply)
      (r'.delay.map fun _ ↦ r'.reply) := by
  rw [h.delay]
  cases r'.delay with
  | none => exact .none
  | some _ => exact .some h.reply

end DelayedReply.Alike

/-! ## What is done to states that are alike -/

namespace State.Alike

variable {s t : State}

theorem record (h : s.Alike t) {rs rs' : List Record} (hrs : List.Forall₂ Record.Alike rs rs') :
    (s.record rs).Alike (t.record rs') :=
  { h with records := List.rel_append h.records hrs }

theorem record_same (h : s.Alike t) (rs : List Record) : (s.record rs).Alike (t.record rs) :=
  h.record (List.forall₂_same.mpr fun r _ ↦ .refl r)

theorem send (h : s.Alike t) (r : Http.Request) :
    (s.send r).1 = (t.send r).1 ∧ (s.send r).2.Alike (t.send r).2 := by
  have hserver : ({ s with server := (t.server.exchange r).server } : State).Alike
      { t with server := (t.server.exchange r).server } := { h with server := rfl }
  rw [State.send, State.send, h.server]
  exact ⟨rfl, hserver.record_same _⟩

/-- A navigation comes to the same, up to the failures of the script. -/
def Lands (x y : Except Failure Unit × State) : Prop :=
  Likewise Failure.Alike Eq x.1 y.1 ∧ x.2.Alike y.2

theorem navigate (h : s.Alike t) (context : String) (r : Http.Request) :
    Lands (s.navigate context r) (t.navigate context r) := by
  obtain ⟨hanswer, hstate⟩ := h.send r
  rw [State.navigate, State.navigate]
  rcases hleft : s.send r with ⟨answer, s'⟩
  rcases hright : t.send r with ⟨answer', t'⟩
  rw [hleft, hright] at hanswer hstate
  obtain rfl : answer = answer' := hanswer
  split
  · cases answer with
    | ok _ => exact ⟨.ok rfl, hstate⟩
    | error _ => exact ⟨.error (.refl _), hstate⟩
  · exact ⟨.error (.refl _), h⟩

theorem failNext (h : s.Alike t) {failures failures' : List (Option Failure)}
    (hfailures : List.Forall₂ (Option.Rel Failure.Alike) failures failures') :
    Lands (s.failNext failures) (t.failNext failures') := by
  have hnext : ({ s with navigator := .recording failures.tail } : State).Alike
      { t with navigator := .recording failures'.tail } :=
    { h with navigator := .recording (forall₂_tail hfailures) }
  rw [State.failNext, State.failNext]
  cases hfailures with
  | nil => exact ⟨.ok rfl, hnext⟩
  | cons hhead _ =>
    cases hhead with
    | none => exact ⟨.ok rfl, hnext⟩
    | some hf => exact ⟨.error hf, hnext.record (.cons (.navigationFailed hf) .nil)⟩

theorem leave (h : s.Alike t) (href context : String) (request : Url → Http.Request) :
    Lands
      (match s.navigator with
        | .recording failures => s.failNext failures
        | .requesting base =>
          match Url.resolve base href with
          | .error fault => (.error (.url fault), s)
          | .ok url => s.navigate context (request url))
      (match t.navigator with
        | .recording failures => t.failNext failures
        | .requesting base =>
          match Url.resolve base href with
          | .error fault => (.error (.url fault), t)
          | .ok url => t.navigate context (request url)) := by
  have hnavigator := h.navigator
  generalize s.navigator = left at hnavigator ⊢
  generalize t.navigator = right at hnavigator ⊢
  cases hnavigator with
  | recording hfailures => exact h.failNext hfailures
  | requesting base =>
    dsimp only
    cases Url.resolve base href with
    | error fault => exact ⟨.error (.refl _), h⟩
    | ok url => exact h.navigate context (request url)

theorem submit (h : s.Alike t) (form : Form) : Lands (s.submit form) (t.submit form) :=
  (h.record_same [.form form]).leave form.action "submitting form" (formRequest · form)

theorem redirect (h : s.Alike t) (path : String) : Lands (s.redirect path) (t.redirect path) :=
  (h.record_same [.redirect path]).leave path "redirecting" (⟨.get, ·, none, none, none⟩)

theorem confirm (h : s.Alike t) (q : Question) :
    (s.confirm q).1 = (t.confirm q).1 ∧ (s.confirm q).2.Alike (t.confirm q).2 := by
  rw [State.confirm, State.confirm, h.modals]
  refine ⟨rfl, State.Alike.record_same ?_ _⟩
  exact { h with modals := rfl }

theorem chooseName (h : s.Alike t) (inUse : List String) :
    (s.chooseName inUse).1 = (t.chooseName inUse).1 ∧
      (s.chooseName inUse).2.Alike (t.chooseName inUse).2 := by
  rw [State.chooseName, State.chooseName, h.dialogs]
  refine ⟨rfl, State.Alike.record_same ?_ _⟩
  exact { h with dialogs := rfl }

theorem raiseSignal (h : s.Alike t) : s.raiseSignal.Alike t.raiseSignal := by
  rw [State.raiseSignal, State.raiseSignal, h.signals]
  exact { h with signals := rfl }

theorem retrieve (h : s.Alike t) (r : Retrieval) : (s.retrieve r).Alike (t.retrieve r) := by
  rw [State.retrieve, State.retrieve, h.signals]
  refine State.Alike.record_same ?_ _
  exact { h with
    outstanding := .some (rel_head?_getD h.retrievals .nothing)
    retrievals := forall₂_tail h.retrievals
    signals := rfl }

/-- **States that are alike answer alike**, and stay alike. -/
theorem respond (unread : Http.Request → Prop) (h : s.Alike t) (q : Action) :
    Option.Rel (q.AnswersAlike unread) (s.respond q).1 (t.respond q).1 ∧
      (s.respond q).2.Alike (t.respond q).2 := by
  cases q with
  | send r =>
    obtain ⟨hanswer, hstate⟩ := h.send r
    exact ⟨Action.answersAlike_of_eq (congrArg some hanswer), hstate⟩
  | askConditional =>
    rw [State.respond, State.respond, h.conditional]
    exact ⟨.some rfl, h.record_same _⟩
  | create options =>
    refine ⟨.some (rel_head?_getD h.creations (.ok rfl)), State.Alike.record_same ?_ _⟩
    exact { h with creations := forall₂_tail h.creations }
  | retrieve r => exact ⟨.some rfl, h.retrieve r⟩
  | await =>
    exact ⟨rel_bind h.outstanding fun _ _ hreply ↦ hreply.awaited,
      { h with outstanding := .none }⟩
  | awaitWithin window =>
    exact ⟨.some (rel_bind h.outstanding fun _ _ hreply ↦ hreply.within? window), h⟩
  | abandon => exact ⟨.some rfl, { h with outstanding := .none }⟩
  | abort => exact ⟨.some rfl, h.raiseSignal⟩
  | confirm q =>
    obtain ⟨hanswer, hstate⟩ := h.confirm q
    exact ⟨Action.answersAlike_of_eq hanswer, hstate⟩
  | chooseName inUse =>
    obtain ⟨hanswer, hstate⟩ := h.chooseName inUse
    exact ⟨Action.answersAlike_of_eq hanswer, hstate⟩
  | submit form =>
    obtain ⟨hanswer, hstate⟩ := h.submit form
    exact ⟨.some hanswer, hstate⟩
  | redirect path =>
    obtain ⟨hanswer, hstate⟩ := h.redirect path
    exact ⟨.some hanswer, hstate⟩
  | notify toast => exact ⟨.some rfl, h.record_same _⟩

end State.Alike

/-- Scripts that differ in texts for diagnosis make surroundings that are alike. -/
theorem alike_surroundings (unread : Http.Request → Prop) :
    surroundings.Alike unread surroundings State.Alike :=
  ⟨fun _ _ h q ↦ (h.respond unread q).1, fun _ _ h q ↦ (h.respond unread q).2⟩

end PasskeyCeremony.Session
