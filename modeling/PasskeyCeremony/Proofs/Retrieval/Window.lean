import Mathlib.Data.List.Induction
import PasskeyCeremony.Ceremony.AbortSignal
import PasskeyCeremony.Proofs.Ceremony.Exchange
import PasskeyCeremony.Proofs.Retrieval.Platform
import PasskeyCeremony.Session.Sample

/-!
# One retrieval at a time

A user who is asked twice at the same time does not know what to answer, so a retrieval within a
window must not overlap with the one that follows when the window has passed. Two things are shown
of it. In any surroundings, whatever they answer, retrievals take turns: one begins only when all
that have begun have ended, and what ends one comes only while there is one (`TakesTurns`). And on a
platform that keeps time, the events and the result are a function of the platform's replies and
their delays, with three courses: no conditional retrieval, one that was answered in time, and one
that was abandoned and aborted before the other began (`Attempt.OneAtATime`).

The signal of a conditional retrieval belongs to the platform once it has been handed over, and the
platform may clone it whenever it likes. What is said of signals therefore holds of every sequence
of uses of the controller in which the uses of the ceremony itself are those of its events
(`ControllerUses`).
-/

namespace PasskeyCeremony

open Session (DelayedReply)

/-! ## Taking turns -/

def Action.beginsRetrieval : Action → Bool
  | retrieve _ => true
  | _ => false

/-- A retrieval may end with the action. -/
def Action.mayEndRetrieval : Action → Bool
  | await | awaitWithin _ | abandon => true
  | _ => false

/-- A retrieval ended with the event: its reply came, or it was abandoned. -/
def Event.endsRetrieval : Event → Bool
  | ⟨.await, some _⟩ | ⟨.abandon, some _⟩ => true
  | ⟨.awaitWithin _, some reply⟩ => Option.isSome reply
  | _ => false

def begun (events : List Event) : Nat := events.countP (·.action.beginsRetrieval)

def ended (events : List Event) : Nat := events.countP (·.endsRetrieval)

@[simp] theorem begun_append (h h' : List Event) : begun (h ++ h') = begun h + begun h' :=
  List.countP_append

@[simp] theorem ended_append (h h' : List Event) : ended (h ++ h') = ended h + ended h' :=
  List.countP_append

/-- After the events so far, an action that begins a retrieval finds none outstanding, and one with
which a retrieval may end finds exactly one. -/
def TakesTurns (h : List Event) (q : Action) : Prop :=
  (q.beginsRetrieval = true → begun h = ended h) ∧
    (q.mayEndRetrieval = true → begun h = ended h + 1)

theorem Event.mayEndRetrieval_of_endsRetrieval {e : Event} (h : e.endsRetrieval = true) :
    e.action.mayEndRetrieval = true := by
  obtain ⟨q, answer⟩ := e
  cases q with
  | await | awaitWithin _ | abandon => rfl
  | send _ | askConditional | create _ | retrieve _ | abort | confirm _ | chooseName _ | submit _
  | redirect _ | notify _ => cases answer <;> cases h

/-- One more event keeps the balance, if its action takes its turn. -/
private theorem balanced_step {h : List Event} {e : Event} (hturn : TakesTurns h e.action)
    (hbalance : ended h ≤ begun h ∧ begun h ≤ ended h + 1) :
    ended (h ++ [e]) ≤ begun (h ++ [e]) ∧ begun (h ++ [e]) ≤ ended (h ++ [e]) + 1 := by
  have hone : ¬(e.action.beginsRetrieval = true ∧ e.action.mayEndRetrieval = true) := by
    cases e.action <;> simp [Action.beginsRetrieval, Action.mayEndRetrieval]
  simp only [begun, ended, List.countP_append, List.countP_singleton] at hbalance ⊢
  by_cases hbegins : e.action.beginsRetrieval = true
  · have hnone : ¬e.endsRetrieval = true := fun hends ↦
      hone ⟨hbegins, Event.mayEndRetrieval_of_endsRetrieval hends⟩
    have hequal := hturn.1 hbegins
    simp only [begun, ended] at hequal
    rw [if_pos hbegins, if_neg hnone]
    omega
  · by_cases hends : e.endsRetrieval = true
    · have hmore := hturn.2 (Event.mayEndRetrieval_of_endsRetrieval hends)
      simp only [begun, ended] at hmore
      rw [if_neg hbegins, if_pos hends]
      omega
    · rw [if_neg hbegins, if_neg hends]
      omega

/-- **Where all actions take turns**, at most one retrieval is outstanding at every moment. -/
theorem balanced_of_takesTurns {events : List Event}
    (hturns : ∀ before e after, events = before ++ e :: after → TakesTurns before e.action)
    (before : List Event) (hbefore : before <+: events) :
    ended before ≤ begun before ∧ begun before ≤ ended before + 1 := by
  induction before using List.reverseRecOn with
  | nil => simp [begun, ended]
  | append_singleton before e ih =>
    obtain ⟨after, hafter⟩ := hbefore
    have hsplit : events = before ++ e :: after := by rw [← hafter, List.append_assoc]; rfl
    exact balanced_step (hturns before e after hsplit) (ih ⟨e :: after, hsplit.symm⟩)

namespace Attempt

variable {next : List Event → Action → Prop}

/-- A retrieval within a window is one that is not offered and leaves it to a dialog, one that is
answered in time, or one that is given up before the dialog. -/
theorem follows_retrieveWithin {window : Nat} {options : RequestOptions}
    {ends : List Event → Except Failure Credential → Prop} {h : List Event}
    (asked : next h .askConditional)
    (unavailable : (retrieve options).run.Follows next ends (h ++ [⟨.askConditional, some false⟩]))
    (began : next (h ++ [⟨.askConditional, some true⟩]) (.retrieve ⟨options, .conditional, true⟩))
    (awaited : next (h ++ [⟨.askConditional, some true⟩] ++
      [⟨.retrieve ⟨options, .conditional, true⟩, some ()⟩]) (.awaitWithin window))
    (replied : ∀ reply, ends (h ++ [⟨.askConditional, some true⟩] ++
      [⟨.retrieve ⟨options, .conditional, true⟩, some ()⟩] ++
      [⟨.awaitWithin window, some (some reply)⟩]) (credentialOf reply))
    (abandoned : next (h ++ [⟨.askConditional, some true⟩] ++
      [⟨.retrieve ⟨options, .conditional, true⟩, some ()⟩] ++
      [⟨.awaitWithin window, some none⟩]) .abandon)
    (aborted : next (h ++ [⟨.askConditional, some true⟩] ++
      [⟨.retrieve ⟨options, .conditional, true⟩, some ()⟩] ++
      [⟨.awaitWithin window, some none⟩] ++ [⟨.abandon, some ()⟩]) .abort)
    (late : (retrieve options).run.Follows next ends (h ++ [⟨.askConditional, some true⟩] ++
      [⟨.retrieve ⟨options, .conditional, true⟩, some ()⟩] ++
      [⟨.awaitWithin window, some none⟩] ++ [⟨.abandon, some ()⟩] ++ [⟨.abort, some ()⟩])) :
    (retrieveWithin window options).run.Follows next ends h := by
  refine ⟨asked, fun available ↦ ?_⟩
  match available with
  | false => exact unavailable
  | true =>
    refine ⟨began, fun _ ↦ ⟨awaited, fun reply ↦ ?_⟩⟩
    match reply with
    | some reply => exact replied reply
    | none => exact ⟨abandoned, fun _ ↦ ⟨aborted, fun _ ↦ late⟩⟩

theorem retrieve_takesTurns (options : RequestOptions) {h : List Event}
    (hnone : begun h = ended h) :
    (retrieve options).run.Follows TakesTurns (fun _ _ ↦ True) h := by
  refine follows_retrieve ⟨fun _ ↦ hnone, nofun⟩ ⟨nofun, fun _ ↦ ?_⟩ fun _ ↦ trivial
  rw [begun_append, ended_append, hnone]
  rfl

/-- **A retrieval within a window takes turns**, whatever it is answered. -/
theorem retrieveWithin_takesTurns (window : Nat) (options : RequestOptions) {h : List Event}
    (hnone : begun h = ended h) :
    (retrieveWithin window options).run.Follows TakesTurns (fun _ _ ↦ True) h := by
  have hnone' : ∀ answer, begun (h ++ [⟨.askConditional, some answer⟩]) =
      ended (h ++ [⟨.askConditional, some answer⟩]) := by
    intro answer
    rw [begun_append, ended_append, hnone]
    rfl
  refine follows_retrieveWithin ⟨nofun, nofun⟩ (retrieve_takesTurns options (hnone' false))
    ⟨fun _ ↦ hnone' true, nofun⟩ ⟨nofun, fun _ ↦ ?_⟩ (fun _ ↦ trivial) ⟨nofun, fun _ ↦ ?_⟩
    ⟨nofun, nofun⟩ (retrieve_takesTurns options ?_)
  · rw [begun_append, ended_append, hnone' true]
    rfl
  · rw [begun_append, begun_append, ended_append, ended_append, hnone' true]
    rfl
  · simp only [begun_append, ended_append, hnone]
    rfl

end Attempt

/-! ## Signals -/

/-- What an event does with the controller of the ceremony. -/
def Event.controllerUse? : Event → Option AbortController.Use
  | ⟨.retrieve r, _⟩ => if r.abortable then some .signal else none
  | ⟨.abort, _⟩ => some .abort
  | _ => none

/-- The uses of a controller are those of the events, with clones in between that the platform made
of its signal. -/
def ControllerUses (events : List Event) (uses : List AbortController.Use) : Prop :=
  uses.filter (· ≠ .clone) = events.filterMap Event.controllerUse?

theorem AbortController.aborted_foldl_use (c : AbortController) (uses : List Use) :
    (uses.foldl use c).aborted = (c.aborted || decide (Use.abort ∈ uses)) := by
  induction uses generalizing c with
  | nil => simp
  | cons u uses ih =>
    rw [List.foldl_cons, ih]
    cases u with
    | signal => simp [use]
    | clone =>
      simp only [use]
      split <;> simp
    | abort => simp [use]

/-- Every signal shows whether the controller has aborted, whoever made it and when. -/
theorem AbortController.eq_of_mem_shown {uses : List Use} {b : Bool}
    (h : b ∈ (uses.foldl use new).shown) : b = decide (Use.abort ∈ uses) := by
  rw [shown, List.mem_replicate, aborted_foldl_use] at h
  exact h.2

theorem ControllerUses.count_abort {events : List Event} {uses : List AbortController.Use}
    (h : ControllerUses events uses) :
    uses.count .abort = (events.filterMap Event.controllerUse?).count .abort := by
  rw [← h, List.count_filter (by decide)]

/-! ## What the platform's time decides -/

variable {σ : Type} {w : Surroundings σ}

/-- A retrieval by a dialog, without a signal, with a reply that may never come. -/
def dialog (options : RequestOptions) (r : DelayedReply) : List Event :=
  [⟨.retrieve ⟨options, .optional, false⟩, some ()⟩, ⟨.await, r.delay.map fun _ ↦ r.reply⟩]

/-- What a reply leads to, if it ever comes. -/
def comesTo (r : DelayedReply) : Option (Except Failure Credential) :=
  r.delay.map fun _ ↦ credentialOf r.reply

/-- A conditional retrieval, with a signal, and what came of it within the window. -/
def offer (window : Nat) (options : RequestOptions) (reply : Option PlatformReply) : List Event :=
  [⟨.askConditional, some true⟩, ⟨.retrieve ⟨options, .conditional, true⟩, some ()⟩,
    ⟨.awaitWithin window, some reply⟩]

/-- A retrieval is abandoned, and then its signal is raised. -/
def surrender : List Event := [⟨.abandon, some ()⟩, ⟨.abort, some ()⟩]

namespace Attempt

/-- What is promised of the events of a retrieval within a window and of its result. -/
structure OneAtATime (p : w.Platform) (s : σ) (window : Nat) (options : RequestOptions)
    (events : List Event) (result : Option (Except Failure Credential)) : Prop where
  /-- Where the platform does not offer conditional retrievals, there is one dialog. -/
  unavailable : p.available s = false →
    ∀ r, p.replyTo s [.askConditional] ⟨options, .optional, false⟩ = r →
      events = ⟨.askConditional, some false⟩ :: dialog options r ∧ result = comesTo r
  /-- A reply that takes no longer than the window decides the result, and is the end. The signal
  and all its clones stay as they were. -/
  in_time : p.available s = true →
    ∀ r, p.replyTo s [.askConditional] ⟨options, .conditional, true⟩ = r →
      ∀ d, r.delay = some d → d ≤ window →
        events = offer window options (some r.reply) ∧ result = some (credentialOf r.reply) ∧
          ∀ uses, ControllerUses events uses →
            ∀ shown ∈ (uses.foldl AbortController.use .new).shown, shown = false
  /-- Without a reply within the window the retrieval is abandoned, its signal is raised, once and
  for all, and then there is one dialog with the same options, whose reply decides the result. -/
  late : p.available s = true →
    (∀ d, (p.replyTo s [.askConditional] ⟨options, .conditional, true⟩).delay = some d →
      window < d) →
    ∀ r, p.replyTo s [.askConditional, .retrieve ⟨options, .conditional, true⟩,
        .awaitWithin window, .abandon, .abort] ⟨options, .optional, false⟩ = r →
      events = offer window options none ++ surrender ++ dialog options r ∧ result = comesTo r ∧
        ∀ uses, ControllerUses events uses → uses.count .abort = 1 ∧
          ∀ shown ∈ (uses.foldl AbortController.use .new).shown, shown = true
  /-- At every moment, at most one retrieval more has begun than have ended. -/
  alone : ∀ before, before <+: events →
    ended before ≤ begun before ∧ begun before ≤ ended before + 1

theorem plays_retrieve (p : w.Platform) (s : σ) (options : RequestOptions) {r : DelayedReply}
    (hr : p.replyTo s [] ⟨options, .optional, false⟩ = r) :
    (retrieve options).run.Plays w s (dialog options r) (comesTo r) := by
  have hawait := p.respond_await s [] ⟨options, .optional, false⟩
  rw [hr] at hawait
  rw [dialog, comesTo]
  refine Program.Plays.ask (p.answers_retrieve s _) ?_
  cases hdelay : r.delay with
  | none =>
    rw [hdelay] at hawait
    exact Program.Plays.stuck hawait
  | some d =>
    rw [hdelay] at hawait
    exact Program.Plays.ask hawait (Program.plays_done _ _)

/-- What is left to do when the reply has come, or the window has passed without one. -/
def afterWindow (options : RequestOptions) :
    Option PlatformReply → Program (Except Failure Credential)
  | some reply => .done (credentialOf reply)
  | none => .ask .abandon fun _ ↦ .ask .abort fun _ ↦ (retrieve options).run

theorem plays_offer (p : w.Platform) (s : σ) (window : Nat) (options : RequestOptions)
    {reply : Option PlatformReply} {events : List Event}
    {result : Option (Except Failure Credential)} (havailable : p.available s = true)
    (hreply : (p.replyTo s [.askConditional] ⟨options, .conditional, true⟩).within? window = reply)
    (hrest : (afterWindow options reply).Plays w (w.after s [.askConditional,
      .retrieve ⟨options, .conditional, true⟩, .awaitWithin window]) events result) :
    (retrieveWithin window options).run.Plays w s (offer window options reply ++ events)
      result := by
  have hasked := p.answers_askConditional s
  rw [havailable] at hasked
  have hawaited := p.respond_awaitWithin s [.askConditional] ⟨options, .conditional, true⟩ window
  rw [hreply] at hawaited
  refine Program.Plays.ask hasked <| Program.Plays.ask (p.answers_retrieve _ _) <|
    Program.Plays.ask hawaited ?_
  cases reply <;> exact hrest

/-- **A retrieval within a window never overlaps with another one**, and the time of the platform
decides how it goes. -/
theorem retrieveWithin_oneAtATime (p : w.Platform) (s : σ) (window : Nat)
    (options : RequestOptions) :
    OneAtATime p s window options ((retrieveWithin window options).run.run w s).events
      ((retrieveWithin window options).run.run w s).result := by
  constructor
  · intro havailable r hr
    have hasked := p.answers_askConditional s
    rw [havailable] at hasked
    exact Program.Plays.ask hasked (plays_retrieve p _ options hr)
  · intro havailable r hr d hdelay hle
    have hreply : r.within? window = some r.reply := DelayedReply.within?_of_le hdelay hle
    rw [← hr] at hreply
    obtain ⟨hevents, hresult⟩ := plays_offer p s window options havailable hreply
      (Program.plays_done _ _)
    rw [hr] at hevents hresult
    refine ⟨hevents, hresult, fun uses huses shown hshown ↦ ?_⟩
    have hcount := huses.count_abort
    rw [hevents] at hcount
    rw [AbortController.eq_of_mem_shown hshown]
    exact decide_eq_false (List.count_eq_zero.mp hcount)
  · intro havailable hlate r hr
    obtain ⟨hevents, hresult⟩ := plays_offer p s window options havailable
      (DelayedReply.within?_of_forall_lt hlate) <|
        Program.Plays.ask (p.answers_abandon _) <| Program.Plays.ask (p.answers_abort _) <|
          plays_retrieve p _ options hr
    refine ⟨hevents, hresult, fun uses huses ↦ ?_⟩
    have hcount := huses.count_abort
    rw [hevents] at hcount
    refine ⟨hcount, fun shown hshown ↦ ?_⟩
    rw [AbortController.eq_of_mem_shown hshown]
    exact decide_eq_true (List.count_pos_iff.mp (hcount.symm ▸ Nat.one_pos))
  · exact balanced_of_takesTurns
      ((retrieveWithin_takesTurns window options rfl).course w s).1

/-- A platform that would reply after 200 milliseconds is given 100, and then there is a dialog. -/
theorem retrieveWithin_oneAtATime_late :
    ∃ (s : Session.State) (options : RequestOptions),
      OneAtATime Session.platform s 100 options
        ((retrieveWithin 100 options).run.run Session.surroundings s).events
        ((retrieveWithin 100 options).run.run Session.surroundings s).result ∧
      ((retrieveWithin 100 options).run.run Session.surroundings s).events =
        offer 100 options none ++ surrender ++ dialog options ⟨some 5, .ok none⟩ := by
  let options : RequestOptions := ⟨none, [], List.Pairwise.nil, List.not_mem_nil⟩
  let s : Session.State :=
    { Session.Sample.session [] with
      retrievals := [⟨some 200, .ok none⟩, ⟨some 5, .ok none⟩]
      conditional := some true }
  have hpromise := retrieveWithin_oneAtATime Session.platform s 100 options
  refine ⟨s, options, hpromise, (hpromise.late rfl (fun d hd ↦ ?_) _ rfl).1⟩
  obtain rfl := Option.some.inj hd
  decide

end Attempt

end PasskeyCeremony
