import PasskeyCeremony.Proofs.Session.Prompts
import PasskeyCeremony.Session.Sample

/-!
# A client that has been used

Surroundings are given by what can happen in them and where it leads (`World`). The number of a
modal can be seen in them, so they can only be expected to go on alike if they do not care about
numbers (`World.Indifferent`). In such surroundings, prompts that have been used by any steps of a
client, finished or dropped, are as good as new ones for the next step (`Prompts.LikeFresh`).
-/

namespace PasskeyCeremony

open Session (Step)

variable {α σ : Type} {k : Nat}

/-! ## Surroundings -/

/-- Surroundings with states: what can happen, and where it leads. -/
structure World (σ : Type) where
  /-- An effect can happen in a state, with the answers it contains, and leads to another. -/
  step : σ → Effect → σ → Prop

namespace World

/-- Effects can happen one after the other and lead from one state to another. -/
inductive Leads (w : World σ) : σ → List Effect → σ → Prop where
  | nil (s : σ) : Leads w s [] s
  | cons {s s' s'' : σ} {e : Effect} {later : List Effect} (hstep : w.step s e s')
      (hlater : Leads w s' later s'') : Leads w s (e :: later) s''

/-- The surroundings do not care about the numbers of modals. From states that are alike up to
numbers, effects that are the same up to numbers lead to states that are alike up to numbers, and
once what is left in the document has been removed, no number can be seen. -/
structure Indifferent (w : World σ) (k : Nat) (alike : σ → σ → Prop) : Prop where
  forth : ∀ s t e e' s', alike s t → e.Shifted k e' → w.step s e s' →
    ∃ t', w.step t e' t' ∧ alike s' t'
  back : ∀ s t e e' t', alike s t → e.Shifted k e' → w.step t e' t' →
    ∃ s', w.step s e s' ∧ alike s' t'
  cleared : ∀ s s', w.step s (.modal .removeExisting) s' → alike s' s'

/-- In a state of the surroundings, a program is played on prompts. -/
def Shows (w : World σ) (s : σ) (p : Prompts) (program : Program α) (effects : List Effect)
    (result : Option α) (s' : σ) : Prop :=
  (∃ p', p.Unfolds program effects result p') ∧ w.Leads s effects s'

end World

/-- Prompts are as good as new ones for a program, in any surroundings that do not care about
numbers, whatever state they are in: the program can have the same effects up to numbers and the
same result, and leaves the surroundings the same up to numbers. -/
structure Prompts.LikeFresh (p : Prompts) (program : Program α) : Prop where
  /-- What the program can do on new prompts, it can do on these. -/
  same : ∀ {σ : Type} (w : World σ) (alike : σ → σ → Prop) (s : σ) effects result s',
    w.Indifferent p.confirmations.nextNumber alike →
    w.Shows s .fresh program effects result s' →
    ∃ effects' s'', w.Shows s p program effects' result s'' ∧ (s' = s'' ∨ alike s' s'') ∧
      List.Forall₂ (Effect.Shifted p.confirmations.nextNumber) effects effects'
  /-- What the program can do on these prompts, it can do on new ones. -/
  only : ∀ {σ : Type} (w : World σ) (alike : σ → σ → Prop) (s : σ) effects' result s'',
    w.Indifferent p.confirmations.nextNumber alike →
    w.Shows s p program effects' result s'' →
    ∃ effects s', w.Shows s .fresh program effects result s' ∧ (s' = s'' ∨ alike s' s'') ∧
      List.Forall₂ (Effect.Shifted p.confirmations.nextNumber) effects effects'

/-! ## In surroundings -/

namespace World

variable {w : World σ} {s t : σ} {effects effects' : List Effect}

@[simp] theorem leads_append {later : List Effect} {s'' : σ} :
    w.Leads s (effects ++ later) s'' ↔ ∃ s', w.Leads s effects s' ∧ w.Leads s' later s'' := by
  constructor
  · intro hleads
    induction effects generalizing s with
    | nil => exact ⟨s, .nil s, hleads⟩
    | cons e effects ih =>
      cases hleads with
      | cons hstep hlater =>
        obtain ⟨s', heffects, hlast⟩ := ih hlater
        exact ⟨s', .cons hstep heffects, hlast⟩
  · rintro ⟨s', heffects, hlater⟩
    induction heffects with
    | nil s => exact hlater
    | cons hstep _ ih => exact .cons hstep (ih hlater)

/-- What every effect keeps between two states, any number of them keep. -/
theorem Leads.simulated {R : σ → σ → Prop} {E : Effect → Effect → Prop}
    (hstep : ∀ s t e e' s', R s t → E e e' → w.step s e s' → ∃ t', w.step t e' t' ∧ R s' t')
    (hst : R s t) (heffects : List.Forall₂ E effects effects') {s' : σ}
    (hleads : w.Leads s effects s') : ∃ t', w.Leads t effects' t' ∧ R s' t' := by
  induction heffects generalizing s t with
  | nil =>
    cases hleads with
    | nil => exact ⟨t, .nil t, hst⟩
  | cons he hrest ih =>
    cases hleads with
    | cons hfirst hlater =>
      obtain ⟨t₁, hfirst', hst₁⟩ := hstep _ _ _ _ _ hst he hfirst
      obtain ⟨t', hlater', hst'⟩ := ih hst₁ hlater
      exact ⟨t', .cons hfirst' hlater', hst'⟩

namespace Indifferent

variable {alike : σ → σ → Prop}

theorem leads_of_announced (hw : w.Indifferent k alike) (hfirst : Prompts.Announced effects)
    (heffects : List.Forall₂ (Effect.Shifted k) effects effects') {s' : σ}
    (hleads : w.Leads s effects s') : ∃ t', w.Leads s effects' t' ∧ (s' = t' ∨ alike s' t') := by
  rcases hfirst.split heffects with rfl | ⟨quiet, rest, rest', rfl, rfl, hrest⟩
  · exact ⟨s', hleads, Or.inl rfl⟩
  · obtain ⟨s₁, hquiet, hlater⟩ := leads_append.mp hleads
    cases hlater with
    | cons hclear hlater =>
      obtain ⟨t', hlater', ht'⟩ := hlater.simulated hw.forth (hw.cleared _ _ hclear) hrest
      exact ⟨t', leads_append.mpr ⟨s₁, hquiet, .cons hclear hlater'⟩, Or.inr ht'⟩

theorem leads_back_of_announced (hw : w.Indifferent k alike) (hfirst : Prompts.Announced effects)
    (heffects : List.Forall₂ (Effect.Shifted k) effects effects') {t' : σ}
    (hleads : w.Leads s effects' t') : ∃ s', w.Leads s effects s' ∧ (s' = t' ∨ alike s' t') := by
  rcases hfirst.split heffects with rfl | ⟨quiet, rest, rest', rfl, rfl, hrest⟩
  · exact ⟨t', hleads, Or.inl rfl⟩
  · obtain ⟨s₁, hquiet, hlater⟩ := leads_append.mp hleads
    cases hlater with
    | cons hclear hlater =>
      obtain ⟨s', hlater', hs'⟩ := hlater.simulated (R := flip alike) (E := flip (Effect.Shifted k))
        (fun _ _ _ _ _ hst he hstep ↦ hw.back _ _ _ _ _ hst he hstep) (hw.cleared _ _ hclear)
        hrest.flip
      exact ⟨s', leads_append.mpr ⟨s₁, hquiet, .cons hclear hlater'⟩, Or.inr hs'⟩

end Indifferent

end World

/-- A document that holds at most one modal. A modal is attached to, opened, decided upon and torn
down only while it is there. -/
def World.document : World (Option Nat) where
  step s e s' := match e with
    | .modal .removeExisting => s' = none
    | .modal (.mount n _) => s' = some n
    | .modal (.attach n) | .modal (.show n) | .modal (.decided n _) | .modal (.detach n) =>
      s = some n ∧ s' = s
    | .modal (.destroy n) => s = some n ∧ s' = none
    | .event _ | .naming _ => s' = s

private theorem eq_some_of_map_add {s : Option Nat} {n : Nat} (h : s.map (· + k) = some (n + k)) :
    s = some n := by
  obtain ⟨m, rfl, hm⟩ := Option.map_eq_some_iff.mp h
  rw [Nat.add_right_cancel hm]

/-- A document in which modals are mounted does not care about their numbers. -/
theorem indifferent_document (k : Nat) :
    World.document.Indifferent k fun s t ↦ t = s.map (· + k) := by
  constructor
  · rintro s t e e' s' rfl he hstep
    cases he with
    | event | naming =>
      obtain rfl := hstep
      exact ⟨_, rfl, rfl⟩
    | modal hmodal =>
      cases hmodal with
      | removeExisting | mount =>
        obtain rfl := hstep
        exact ⟨_, rfl, rfl⟩
      | attach | «show» | decided | detach | destroy =>
        obtain ⟨rfl, rfl⟩ := hstep
        exact ⟨_, ⟨rfl, rfl⟩, rfl⟩
  · rintro s t e e' t' rfl he hstep
    cases he with
    | event | naming =>
      obtain rfl := hstep
      exact ⟨s, rfl, rfl⟩
    | modal hmodal =>
      cases hmodal with
      | removeExisting => exact ⟨none, rfl, hstep⟩
      | mount n => exact ⟨some n, rfl, hstep⟩
      | attach n | «show» n | decided n | detach n =>
        obtain ⟨hn, rfl⟩ := hstep
        exact ⟨s, ⟨eq_some_of_map_add hn, rfl⟩, rfl⟩
      | destroy n =>
        obtain ⟨hn, rfl⟩ := hstep
        exact ⟨none, ⟨eq_some_of_map_add hn, rfl⟩, rfl⟩
  · rintro s s' hstep
    obtain rfl := hstep
    rfl

/-- Used prompts are as good as new ones. -/
theorem Prompts.Used.likeFresh {c : Client} {p : Prompts} (hused : p.Used c)
    (program : Program α) : p.LikeFresh program where
  same w alike s effects result s' hw := by
    rintro ⟨⟨p', hunfolds⟩, hleads⟩
    have hfirst := hunfolds.announced Prompts.mirrors_fresh
    obtain ⟨effects', p'', hunfolds', -, heffects⟩ := hunfolds.mirrored hused.mirrors
    obtain ⟨s'', hleads', hs'⟩ := hw.leads_of_announced hfirst heffects hleads
    exact ⟨effects', s'', ⟨⟨p'', hunfolds'⟩, hleads'⟩, hs', heffects⟩
  only w alike s effects' result s'' hw := by
    rintro ⟨⟨p', hunfolds⟩, hleads⟩
    obtain ⟨effects, p'', hunfolds', -, heffects⟩ := hunfolds.mirrors hused.mirrors
    have hfirst := hunfolds'.announced Prompts.mirrors_fresh
    obtain ⟨s', hleads', hs'⟩ := hw.leads_back_of_announced hfirst heffects hleads
    exact ⟨effects, s', ⟨⟨p'', hunfolds'⟩, hleads'⟩, hs', heffects⟩

/-- **Nothing is left behind**: a prompt whose calls have ended, by an answer or because they were
dropped, is like one that has not been used, and a client that has carried out any steps, finished
or dropped, goes on like one with new prompts. -/
theorem nothing_left_behind (c : Client) :
    (∀ past h, Confirmation.run .initial past = some h → h.state.calls = [] →
        h.state.LikeFresh) ∧
      (∀ past h, Naming.run .initial past = some h → h.state.calls = [] → h.state.LikeFresh) ∧
      ∀ p : Prompts, p.Used c → ∀ step : Step, p.LikeFresh (step.program c) := by
  refine ⟨?_, ?_, ?_⟩
  · intro past h hrun hended
    exact Confirmation.likeFresh_of_run hrun hended
  · intro past h _ hended
    exact Naming.likeFresh_of_ended hended
  · intro p hused step
    exact hused.likeFresh (step.program c)

/-- A registration that is dropped with its modal open leaves the number of the modal in the active
slot. The next step does not find it there, and in a document it does what it would have done on new
prompts. -/
theorem nothing_left_behind_dropped :
    ∃ (c : Client) (p : Prompts), p.Used c ∧ p.confirmations = ⟨1, some 0, []⟩ ∧
      p.confirmations.LikeFresh ∧ ∀ (step : Step) before effects result after,
        World.document.Shows before p (step.program c) effects result after →
        ∃ effects₀ after₀,
          World.document.Shows before .fresh (step.program c) effects₀ result after₀ ∧
            List.Forall₂ (Effect.Shifted 1) effects₀ effects := by
  have hdropped : Confirmation.run .initial [.start Registration.stepUpQuestion, .register 0,
      .mount 0 true, .drop 0] = some _ := rfl
  have hasks : Confirmation.Asks .initial Registration.stepUpQuestion _ :=
    ⟨_, hdropped, by decide, rfl⟩
  have hoptions : Prompts.fresh.Answers
      (.send (Client.optionsRequest
        (Session.Sample.address ["passkey", "registration-auth-options"]) "token"))
      _ (some (.ok Session.Sample.registered)) .fresh := .unprompted rfl _
  have hshown := Prompts.Answers.confirm (p := .fresh) hasks rfl
  obtain ⟨_, hunfolds⟩ : ∃ effects, Prompts.fresh.Unfolds
      (Step.program Session.Sample.client (.register "token" [])) effects none
      ⟨⟨1, some 0, []⟩, .initial⟩ :=
    ⟨_, .goOn hoptions (.drop hshown _)⟩
  have hused := Prompts.Used.next .fresh _ hunfolds
  refine ⟨Session.Sample.client, _, hused, rfl,
    (nothing_left_behind Session.Sample.client).1 _ _ hdropped rfl, ?_⟩
  intro step before effects result after hshows
  obtain ⟨effects₀, after₀, hshows₀, -, heffects⟩ := ((nothing_left_behind _).2.2 _ hused step).only
    World.document _ before effects result after (indifferent_document 1) hshows
  exact ⟨effects₀, after₀, hshows₀, heffects⟩

end PasskeyCeremony
