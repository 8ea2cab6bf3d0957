import PasskeyCeremony.Proofs.Confirmation.Renumbering
import PasskeyCeremony.Proofs.Naming.Renumbering
import PasskeyCeremony.Session.Step

/-!
# The prompts of a client

A client has two prompts, which keep a state from one ceremony to the next, and nothing else of its
own. A program of actions is played on the prompts (`Prompts.Unfolds`): an action that asks the user
is a call on one of them, made of whatever moves that takes, and the other actions are answered by
the surroundings. What there is to be seen is a list of effects, in which the answers of the
surroundings and of the views of the prompts are contained.

As the prompts do the same whatever the numbers of their calls, so do the programs that are played
on them (`Unfolds.mirrored`, `Unfolds.mirrors`), and whatever a client has done, its prompts are new
ones with larger numbers (`Used.mirrors`).
-/

namespace PasskeyCeremony

open Session (Step)

variable {α σ : Type} {k : Nat}

/-! ## Prompts -/

/-- The prompts of a client. -/
structure Prompts where
  /-- The prompt for confirmations. -/
  confirmations : Confirmation.State
  /-- The prompt for names. -/
  names : Naming.State

def Prompts.fresh : Prompts := ⟨.initial, .initial⟩

/-- What can be seen of a step. -/
inductive Effect where
  /-- An action that does not concern a prompt, with its answer, if it got one. -/
  | event (e : Event)
  /-- The view of the confirmation prompt is told something, or hands something over. -/
  | modal (c : ModalCall)
  /-- The view of the naming prompt is told something, or hands something over. -/
  | naming (c : NamingCall)

/-- The effect concerns the view of the confirmation prompt. -/
def Effect.isModal : Effect → Bool
  | modal _ => true
  | event _ | naming _ => false

/-- The same effect with larger numbers of modals. -/
inductive Effect.Shifted (k : Nat) : Effect → Effect → Prop where
  | event (e : Event) : Shifted k (.event e) (.event e)
  | modal {c c' : ModalCall} (h : c.Shifted k c') : Shifted k (.modal c) (.modal c')
  | naming (c : NamingCall) : Shifted k (.naming c) (.naming c)

/-- The action is not a call on a prompt. -/
def Action.isUnprompted : Action → Bool
  | .confirm _ | .chooseName _ => false
  | .send _ | .askConditional | .create _ | .retrieve _ | .await | .awaitWithin _ | .abandon
  | .abort | .submit _ | .redirect _ | .notify _ => true

namespace Prompts

/-- An action is done with prompts and has some effects. It may be left without an answer; for a
call on a prompt this means that its caller dropped it. -/
inductive Answers (p : Prompts) : (action : Action) → List Effect → Option action.Answer → Prompts →
    Prop where
  | confirm {q : Question} {h : Confirmation.History} {answer : Option Bool}
      (hasks : Confirmation.Asks p.confirmations q h)
      (hanswer : answer = h.results.head?.map Prod.snd) :
      Answers p (.confirm q) (h.calls.map fun c ↦ .modal c.2) answer
        { p with confirmations := h.state }
  | chooseName {inUse : List String} {h : Naming.History}
      {answer : Option (Except Failure (Option String))} (hasks : Naming.Asks p.names inUse h)
      (hanswer : answer = h.results.head?.map fun r ↦ r.2.answer) :
      Answers p (.chooseName inUse) (h.calls.map fun c ↦ .naming c.2) answer
        { p with names := h.state }
  | unprompted {action : Action} (haction : action.isUnprompted = true)
      (answer : Option action.Answer) :
      Answers p action [.event ⟨action, answer⟩] answer p

/-- A program is played on prompts and has some effects. It has a result, unless it is dropped while
it waits for an answer. -/
inductive Unfolds : Prompts → Program α → List Effect → Option α → Prompts → Prop where
  | done (p : Prompts) (result : α) : Unfolds p (.done result) [] (some result) p
  | drop {p p' : Prompts} {action : Action} {effects : List Effect}
      (hanswers : p.Answers action effects none p') (next : action.Answer → Program α) :
      Unfolds p (.ask action next) effects none p'
  | goOn {p p' p'' : Prompts} {action : Action} {effects later : List Effect}
      {answer : action.Answer} {next : action.Answer → Program α} {result : Option α}
      (hanswers : p.Answers action effects (some answer) p')
      (hlater : Unfolds p' (next answer) later result p'') :
      Unfolds p (.ask action next) (effects ++ later) result p''

/-- Prompts as they are after steps of a client, one after the other, each of them finished or
dropped. -/
inductive Used (c : Client) : Prompts → Prop where
  | fresh : Used c .fresh
  | next {p p' : Prompts} (hused : Used c p) (step : Step) {effects : List Effect}
      {result : Option Session.Result} (hunfolds : p.Unfolds (step.program c) effects result p') :
      Used c p'

end Prompts

/-! ## Prompts that mirror others -/

namespace Prompts

/-- The second prompts are the first ones with larger numbers. -/
structure Mirrors (k : Nat) (p q : Prompts) : Prop where
  confirmations : p.confirmations.Mirrors k q.confirmations
  names : ∃ j, q.names = p.names.shift j

variable {p q p' q' : Prompts} {action : Action} {effects : List Effect}

theorem forall₂_map_effect {β : Type} {R : β → β → Prop} {xs ys : List β} {f : β → Effect}
    (h : List.Forall₂ R xs ys) (hf : ∀ x y, R x y → (f x).Shifted k (f y)) :
    List.Forall₂ (Effect.Shifted k) (xs.map f) (ys.map f) := by
  rw [List.forall₂_map_left_iff, List.forall₂_map_right_iff]
  exact h.imp hf

private theorem head?_answers {h h' : Confirmation.History} (hh : h.Mirrors k h') :
    h'.results.head?.map Prod.snd = h.results.head?.map Prod.snd := by
  rw [hh.results, List.head?_map, Option.map_map]
  rfl

private theorem head?_results (h : Naming.History) (j : Nat) :
    ((h.shift j).results.head?.map fun r ↦ r.2.answer) =
      h.results.head?.map fun r ↦ r.2.answer := by
  rw [Naming.History.shift, List.head?_map, Option.map_map]
  rfl

private theorem calls_shift (h : Naming.History) (j : Nat) :
    ((h.shift j).calls.map fun c ↦ Effect.naming c.2) = h.calls.map fun c ↦ .naming c.2 := by
  rw [Naming.History.shift, List.map_map]
  rfl

private theorem forall₂_naming (calls : List (Nat × NamingCall)) :
    List.Forall₂ (Effect.Shifted k) (calls.map fun c ↦ .naming c.2)
      (calls.map fun c ↦ .naming c.2) := by
  rw [List.forall₂_same]
  intro e he
  obtain ⟨c, -, rfl⟩ := List.mem_map.mp he
  exact .naming c.2

theorem Answers.mirrored {answer : Option action.Answer}
    (hanswers : p.Answers action effects answer p') (hpq : p.Mirrors k q) :
    ∃ effects' q', q.Answers action effects' answer q' ∧ p'.Mirrors k q' ∧
      List.Forall₂ (Effect.Shifted k) effects effects' := by
  cases hanswers with
  | confirm hasks hanswer =>
    obtain ⟨h', hasks', hh⟩ := hasks.mirrored hpq.confirmations
    exact ⟨_, _, .confirm hasks' (hanswer.trans (head?_answers hh).symm), ⟨hh.state, hpq.names⟩,
      forall₂_map_effect hh.calls fun _ _ hc ↦ .modal hc.2⟩
  | @chooseName inUse h answer hasks hanswer =>
    obtain ⟨j, hj⟩ := hpq.names
    have hasks' : Naming.Asks q.names inUse (h.shift j) := hj ▸ hasks.shift j
    refine ⟨_, _, .chooseName hasks' (hanswer.trans (head?_results h j).symm),
      ⟨hpq.confirmations, j, rfl⟩, ?_⟩
    rw [calls_shift]
    exact forall₂_naming h.calls
  | unprompted haction answer =>
    exact ⟨_, q, .unprompted haction answer, hpq, .cons (.event _) .nil⟩

theorem Answers.mirrors {effects' : List Effect} {answer : Option action.Answer}
    (hanswers : q.Answers action effects' answer q') (hpq : p.Mirrors k q) :
    ∃ effects p', p.Answers action effects answer p' ∧ p'.Mirrors k q' ∧
      List.Forall₂ (Effect.Shifted k) effects effects' := by
  cases hanswers with
  | confirm hasks hanswer =>
    obtain ⟨h, hasks', hh⟩ := hasks.mirrors hpq.confirmations
    exact ⟨_, _, .confirm hasks' (hanswer.trans (head?_answers hh)), ⟨hh.state, hpq.names⟩,
      forall₂_map_effect hh.calls fun _ _ hc ↦ .modal hc.2⟩
  | @chooseName inUse h' answer hasks hanswer =>
    obtain ⟨j, hj⟩ := hpq.names
    obtain ⟨h, hasks', rfl⟩ := Naming.Asks.exists_of_shift (hj ▸ hasks)
    refine ⟨_, _, .chooseName hasks' (hanswer.trans (head?_results h j)),
      ⟨hpq.confirmations, j, rfl⟩, ?_⟩
    rw [calls_shift]
    exact forall₂_naming h.calls
  | unprompted haction answer =>
    exact ⟨_, p, .unprompted haction answer, hpq, .cons (.event _) .nil⟩

/-- A program does the same on the second prompts. -/
theorem Unfolds.mirrored {program : Program α} {result : Option α}
    (hunfolds : p.Unfolds program effects result p') (hpq : p.Mirrors k q) :
    ∃ effects' q', q.Unfolds program effects' result q' ∧ p'.Mirrors k q' ∧
      List.Forall₂ (Effect.Shifted k) effects effects' := by
  induction hunfolds generalizing q with
  | done p result => exact ⟨[], q, .done q result, hpq, .nil⟩
  | drop hanswers next =>
    obtain ⟨effects', q', hanswers', hq', heffects⟩ := hanswers.mirrored hpq
    exact ⟨effects', q', .drop hanswers' next, hq', heffects⟩
  | goOn hanswers hlater ih =>
    obtain ⟨effects', q', hanswers', hq', heffects⟩ := hanswers.mirrored hpq
    obtain ⟨later', q'', hlater', hq'', hlaters⟩ := ih hq'
    exact ⟨_, q'', .goOn hanswers' hlater', hq'', List.rel_append heffects hlaters⟩

theorem Unfolds.mirrors {effects' : List Effect} {program : Program α} {result : Option α}
    (hunfolds : q.Unfolds program effects' result q') (hpq : p.Mirrors k q) :
    ∃ effects p', p.Unfolds program effects result p' ∧ p'.Mirrors k q' ∧
      List.Forall₂ (Effect.Shifted k) effects effects' := by
  induction hunfolds generalizing p with
  | done q result => exact ⟨[], p, .done p result, hpq, .nil⟩
  | drop hanswers next =>
    obtain ⟨effects, p', hanswers', hp', heffects⟩ := hanswers.mirrors hpq
    exact ⟨effects, p', .drop hanswers' next, hp', heffects⟩
  | goOn hanswers hlater ih =>
    obtain ⟨effects, p', hanswers', hp', heffects⟩ := hanswers.mirrors hpq
    obtain ⟨later, p'', hlater', hp'', hlaters⟩ := ih hp'
    exact ⟨_, p'', .goOn hanswers' hlater', hp'', List.rel_append heffects hlaters⟩

/-! ## Used prompts -/

theorem Answers.exists_mirrors {answer : Option action.Answer}
    (hanswers : p.Answers action effects answer p') (hp : Mirrors k .fresh p) :
    ∃ j, Mirrors j .fresh p' := by
  cases hanswers with
  | confirm hasks hanswer =>
    obtain ⟨j, hj⟩ := hasks.exists_mirrors hp.confirmations
    exact ⟨j, hj, hp.names⟩
  | chooseName hasks hanswer =>
    obtain ⟨moves, -, -, hended⟩ := hasks
    exact ⟨k, hp.confirmations, _, Naming.State.eq_shift_initial hended⟩
  | unprompted haction answer => exact ⟨k, hp⟩

theorem Unfolds.exists_mirrors {program : Program α} {result : Option α}
    (hunfolds : p.Unfolds program effects result p') (hp : Mirrors k .fresh p) :
    ∃ j, Mirrors j .fresh p' := by
  induction hunfolds generalizing k with
  | done p result => exact ⟨k, hp⟩
  | drop hanswers next => exact hanswers.exists_mirrors hp
  | goOn hanswers hlater ih =>
    obtain ⟨j, hj⟩ := hanswers.exists_mirrors hp
    exact ih hj

theorem mirrors_fresh : Mirrors 0 .fresh .fresh where
  confirmations := ⟨rfl, rfl, Or.inl rfl⟩
  names := ⟨0, rfl⟩

/-- Whatever a client has done, its prompts are new ones with larger numbers. -/
theorem Used.mirrors {c : Client} (hused : Used c p) :
    Mirrors p.confirmations.nextNumber .fresh p := by
  have hmirrors : ∃ k, Mirrors k .fresh p := by
    induction hused with
    | fresh => exact ⟨0, mirrors_fresh⟩
    | next hused step hunfolds ih =>
      obtain ⟨k, hk⟩ := ih
      exact hunfolds.exists_mirrors hk
  obtain ⟨k, hk⟩ := hmirrors
  have hnumber : p.confirmations.nextNumber = k :=
    hk.confirmations.nextNumber.trans (Nat.zero_add k)
  rw [hnumber]
  exact hk

/-! ## What comes first -/

/-- What happens first between the confirmation prompt and its view, if anything does, is that the
view is told to remove what is left in the document. -/
def Announced (effects : List Effect) : Prop :=
  ∀ e ∈ effects.find? Effect.isModal, e = .modal .removeExisting

theorem announced_of_forall (h : ∀ e ∈ effects, e.isModal = false) : Announced effects := by
  have hnone : effects.find? Effect.isModal = none := by
    rw [List.find?_eq_none]
    intro e he
    rw [h e he]
    exact Bool.false_ne_true
  intro e he
  rw [hnone] at he
  cases he

theorem Announced.tail {e : Effect} (he : e.isModal = false) (h : Announced (e :: effects)) :
    Announced effects := by
  rwa [Announced, List.find?_cons_of_neg (he ▸ Bool.false_ne_true)] at h

theorem Announced.append {later : List Effect} (h : Announced effects) (hlater : Announced later) :
    Announced (effects ++ later) := by
  intro e he
  rw [List.find?_append] at he
  cases hfirst : effects.find? Effect.isModal with
  | none =>
    rw [hfirst] at he
    exact hlater e he
  | some e₀ =>
    rw [hfirst] at he
    obtain rfl := Option.some.inj he
    exact h e₀ hfirst

/-- The same effects up to numbers are the same until what is left in the document is removed. -/
theorem Announced.split {effects' : List Effect} (h : Announced effects)
    (heffects : List.Forall₂ (Effect.Shifted k) effects effects') :
    effects' = effects ∨ ∃ quiet rest rest',
      effects = quiet ++ .modal .removeExisting :: rest ∧
      effects' = quiet ++ .modal .removeExisting :: rest' ∧
      List.Forall₂ (Effect.Shifted k) rest rest' := by
  induction heffects with
  | nil => exact Or.inl rfl
  | cons he hlater ih =>
    cases he with
    | event | naming =>
      rcases ih (h.tail rfl) with rfl | ⟨quiet, rest, rest', rfl, rfl, hrest⟩
      · exact Or.inl rfl
      · exact Or.inr ⟨_ :: quiet, rest, rest', rfl, rfl, hrest⟩
    | modal hmodal =>
      obtain rfl := Effect.modal.inj (h _ rfl)
      obtain rfl := hmodal.eq_removeExisting
      exact Or.inr ⟨[], _, _, rfl, rfl, hlater⟩

theorem Answers.announced {answer : Option action.Answer}
    (hanswers : p.Answers action effects answer p') (hp : Mirrors k .fresh p) :
    Announced effects := by
  cases hanswers with
  | @confirm q h answer hasks hanswer =>
    have hfirst := hasks.head?_calls hp.confirmations
    intro e he
    cases hcalls : h.calls with
    | nil =>
      rw [hcalls] at he
      cases he
    | cons c calls =>
      rw [hcalls] at he hfirst
      obtain rfl := Option.some.inj he
      exact congrArg Effect.modal (hfirst c rfl)
  | chooseName hasks hanswer =>
    refine announced_of_forall fun e he ↦ ?_
    obtain ⟨c, -, rfl⟩ := List.mem_map.mp he
    rfl
  | unprompted haction answer =>
    refine announced_of_forall fun e he ↦ ?_
    obtain rfl := List.mem_singleton.mp he
    rfl

theorem Unfolds.announced {program : Program α} {result : Option α}
    (hunfolds : p.Unfolds program effects result p') (hp : Mirrors k .fresh p) :
    Announced effects := by
  induction hunfolds generalizing k with
  | done p result => exact announced_of_forall (List.forall_mem_nil _)
  | drop hanswers next => exact hanswers.announced hp
  | goOn hanswers hlater ih =>
    obtain ⟨j, hj⟩ := hanswers.exists_mirrors hp
    exact (hanswers.announced hp).append (ih hj)

end Prompts

end PasskeyCeremony
