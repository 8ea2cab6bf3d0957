import PasskeyCeremony.Proofs.Naming.Turns
import PasskeyCeremony.Proofs.Prompt.Feedback

/-!
# What a naming call shows, and when

A call that has the view is played by moves with times: an event is handed over, or a quiet period
ends. Where the moves keep to a clock (`OnTime`), what the call shows is what its script says
(`showsScript_run`), whatever other calls do meanwhile. The clock is nothing but this: the times are
in order and none is later than the time that has come, and no check is overdue. Every script in
order can be handed over in this way (`canHandOver`).
-/

namespace PasskeyCeremony

/-- The state of the field that the view is told to render. -/
def NamingCall.shown? : NamingCall → Option FieldState
  | .render shown => some shown
  | .show _ | .attach | .event _ | .close | .reset | .detach | .toast _ => none

namespace Naming

open Dialog (Script Tracks coming deadline? feedback)

variable {s : State} {n stop now : Nat} {m : Move} {p : Progress} {moves : List Move} {h : History}
  {inUse : List String} {d : Dialog} {before : Script}

/-! ## Moves of a call -/

def Move.time? : Move → Option Nat
  | .settle _ now | .event _ now _ => some now
  | .start _ | .show _ _ | .drop _ => none

/-- The moves that a call makes. -/
def ofCall (n : Nat) (moves : List Move) : List Move := moves.filter (·.caller? = some n)

def scriptOf (n : Nat) (moves : List Move) : Script := handed (ofCall n moves)

def times (n : Nat) (moves : List Move) : List Nat := (ofCall n moves).filterMap Move.time?

theorem ofCall_cons_of_ne (hm : m.caller? ≠ some n) : ofCall n (m :: moves) = ofCall n moves :=
  List.filter_cons_of_neg (by simpa using hm)

theorem ofCall_cons (hm : m.caller? = some n) : ofCall n (m :: moves) = m :: ofCall n moves :=
  List.filter_cons_of_pos (by simpa using hm)

@[simp] theorem scriptOf_settle (t : Nat) :
    scriptOf n (.settle n t :: moves) = scriptOf n moves := by
  rw [scriptOf, ofCall_cons rfl, handed_settle, scriptOf]

theorem scriptOf_event (t : Nat) (e : NameEvent) :
    scriptOf n (.event n t e :: moves) = (t, e) :: scriptOf n moves := by
  rw [scriptOf, ofCall_cons rfl, handed_event, scriptOf]

@[simp] theorem times_settle (t : Nat) : times n (.settle n t :: moves) = t :: times n moves := by
  rw [times, ofCall_cons rfl]
  rfl

theorem times_event (t : Nat) (e : NameEvent) :
    times n (.event n t e :: moves) = t :: times n moves := by
  rw [times, ofCall_cons rfl]
  rfl

theorem fst_mem_times {te : Nat × NameEvent} (hte : te ∈ scriptOf n moves) :
    te.1 ∈ times n moves := by
  obtain ⟨m, hm, hhanded⟩ := List.mem_filterMap.mp hte
  refine List.mem_filterMap.mpr ⟨m, hm, ?_⟩
  cases m with
  | event k now e => rw [← Option.some.inj hhanded]; rfl
  | start _ | «show» _ _ | settle _ _ | drop _ => cases hhanded

/-- **The moves of a call keep to a clock** that has come to a time, if they leave the prompt in a
state. -/
structure OnTime (n stop : Nat) (moves : List Move) (s : State) : Prop where
  ordered : (times n moves).Pairwise (· ≤ ·)
  past : ∀ t ∈ times n moves, t ≤ stop
  settled : ∀ inUse d k, s.Open n inUse d → d.checkAt = some k → stop < k

/-- No event is handed over at the very moment at which a quiet period ends. -/
def Untied (before : Script) : Script → Prop
  | [] => True
  | te :: after => deadline? before ≠ some te.1 ∧ Untied (before ++ [te]) after

/-! ## What is shown -/

/-- What the view is told and hands over, with the number of the call and the time of the move. -/
def trace (s : State) : List Move → List (Nat × Option Nat × NamingCall)
  | [] => []
  | m :: moves =>
    match step s m with
    | none => []
    | some p => p.calls.map (machine.number s m, m.time?, ·) ++ trace p.state moves

def renders (n : Nat) (s : State) (moves : List Move) : List (Option Nat × FieldState) :=
  (trace s moves).filterMap fun c ↦ if c.1 = n then c.2.2.shown?.map (c.2.1, ·) else none

/-- A trace without its times is what came of the moves. -/
theorem map_trace (hrun : run s moves = some h) :
    (trace s moves).map (fun c ↦ (c.1, c.2.2)) = h.calls := by
  induction moves generalizing s h with
  | nil => rw [← Option.some.inj hrun]; rfl
  | cons m moves ih =>
    obtain ⟨p, h', hp, hrun', rfl⟩ := run_cons.mp hrun
    rw [trace, hp, List.map_append, ih hrun', List.map_map]
    rfl

theorem renders_cons_of_ne (hp : step s m = some p) (hm : machine.number s m ≠ n) :
    renders n s (m :: moves) = renders n p.state moves := by
  have hnone : (p.calls.map fun c ↦ (machine.number s m, m.time?, c)).filterMap (fun c ↦
      if c.1 = n then c.2.2.shown?.map (c.2.1, ·) else none) = [] := by
    rw [List.filterMap_map, List.filterMap_eq_nil_iff]
    exact fun c _ ↦ if_neg hm
  rw [renders, trace, hp, List.filterMap_append, hnone, List.nil_append, renders]

theorem renders_cons (hp : step s m = some p) (hm : m.caller? = some n) (moves : List Move) :
    renders n s (m :: moves) =
      (p.calls.filterMap NamingCall.shown?).map (m.time?, ·) ++ renders n p.state moves := by
  have hown : (p.calls.map fun c ↦ (machine.number s m, m.time?, c)).filterMap (fun c ↦
      if c.1 = n then c.2.2.shown?.map (c.2.1, ·) else none) =
        (p.calls.filterMap NamingCall.shown?).map (m.time?, ·) := by
    rw [List.filterMap_map, List.map_filterMap]
    refine List.filterMap_congr fun c _ ↦ ?_
    exact if_pos (machine.number_of_caller? hm)
  rw [renders, trace, hp, List.filterMap_append, hown, renders]

theorem shown_afterEvent (e : NameEvent) (r : Dialog.Reaction) :
    (afterEvent s n e r).calls.filterMap NamingCall.shown? = r.shown := by
  have hshown : (r.shown.map NamingCall.render).filterMap NamingCall.shown? = r.shown := by
    rw [List.filterMap_map]
    exact List.filterMap_some
  have hevent : ∀ rest, (NamingCall.event e :: r.shown.map .render ++ rest).filterMap
      NamingCall.shown? = r.shown ++ rest.filterMap NamingCall.shown? := by
    intro rest
    rw [List.filterMap_append, List.filterMap_cons_none rfl, hshown]
  cases hnext : r.next with
  | inl d =>
    have hafter := hevent []
    rw [List.append_nil, List.filterMap_nil, List.append_nil] at hafter
    rw [afterEvent, hnext]
    exact hafter
  | inr ending =>
    have hafter := hevent (ending.toast?.toList.map .toast ++ teardown)
    rw [← List.append_assoc] at hafter
    rw [afterEvent, hnext]
    refine hafter.trans ?_
    cases ending <;> exact List.append_nil _

theorem renders_settle {t : Nat} (hopen : s.Open n inUse d) (hcheck : d.checkAt = some t) :
    renders n s (.settle n t :: moves) =
      (some t, d.check inUse) :: renders n (s.setDialog n (d.settle inUse).2) moves :=
  renders_cons ((step_settle hopen).mpr ⟨hcheck, rfl⟩) rfl moves

theorem renders_event {t : Nat} {e : NameEvent} (hopen : s.Open n inUse d)
    (hdue : ∀ k, d.checkAt = some k → t ≤ k) :
    renders n s (.event n t e :: moves) = (d.handle inUse t e).shown.map (some t, ·) ++
      renders n (afterEvent s n e (d.handle inUse t e)).state moves := by
  have hstep := (step_event (e := e) hopen).mpr ⟨hdue, rfl⟩
  have hcons := renders_cons hstep rfl moves
  rw [shown_afterEvent] at hcons
  exact hcons

/-! ## Other calls -/

theorem Steps.call?_cases (hsteps : Steps s m p) (hm : m.caller? ≠ some n) :
    p.state.call? n = s.call? n ∨
      n = s.nextNumber ∧ ∃ inUse, p.state.call? n = some ⟨n, inUse, none⟩ := by
  cases hsteps with
  | start inUse =>
    by_cases hn : n = s.nextNumber
    · subst hn
      rw [State.call?, List.find?_append, ← State.call?]
      cases s.call? s.nextNumber with
      | some c => exact Or.inl rfl
      | none =>
        refine Or.inr ⟨rfl, inUse, ?_⟩
        rw [List.find?_singleton, beq_self_eq_true]
        rfl
    · have hne : ((s.nextNumber == n) : Bool) = false := by simpa using Ne.symm hn
      left
      rw [State.call?, List.find?_append, List.find?_singleton, hne]
      exact Option.or_none
  | «open» hc hdialog hturn =>
    exact Or.inl (State.call?_setDialog_of_ne _ fun hk ↦ hm (congrArg some hk.symm))
  | refuse hc hdialog hturn =>
    exact Or.inl (State.call?_remove_of_ne fun hk ↦ hm (congrArg some hk.symm))
  | goOn hc hdialog hplays d' told =>
    exact Or.inl (State.call?_setDialog_of_ne _ fun hk ↦ hm (hk ▸ hplays.caller?))
  | close hc hdialog hplays told ending =>
    exact Or.inl (State.call?_remove_of_ne fun hk ↦ hm (hk ▸ hplays.caller?))
  | drop hc => exact Or.inl (State.call?_remove_of_ne fun hk ↦ hm (congrArg some hk.symm))

theorem Steps.call?_eq (hsteps : Steps s m p) (hm : m.caller? ≠ some n) (hn : n < s.nextNumber) :
    p.state.call? n = s.call? n := by
  rcases hsteps.call?_cases hm with hsame | ⟨hnew, -⟩
  · exact hsame
  · exact absurd hn (hnew ▸ Nat.lt_irrefl _)

theorem Steps.open_of_ne (hsteps : Steps s m p) (hm : m.caller? ≠ some n)
    (hopen : p.state.Open n inUse d) : s.Open n inUse d := by
  rw [State.Open] at hopen ⊢
  rcases hsteps.call?_cases hm with hsame | ⟨-, _, hnew⟩
  · rwa [hsame] at hopen
  · cases hnew.symm.trans hopen

theorem Steps.nextNumber_le (hsteps : Steps s m p) : s.nextNumber ≤ p.state.nextNumber := by
  cases hsteps with
  | start inUse => exact Nat.le_succ _
  | «open» | refuse | goOn | close | drop => exact Nat.le_refl _

theorem nextNumber_le_of_run (hrun : run s moves = some h) :
    s.nextNumber ≤ h.state.nextNumber := by
  induction moves generalizing s h with
  | nil => exact Nat.le_of_eq (congrArg (·.state.nextNumber) (Option.some.inj hrun))
  | cons m moves ih =>
    obtain ⟨p, h', hp, hrun', rfl⟩ := run_cons.mp hrun
    exact Nat.le_trans (steps_of_step hp).nextNumber_le (ih (h := h') hrun')

theorem number_ne (hm : m.caller? ≠ some n) (hn : n < s.nextNumber) : machine.number s m ≠ n := by
  cases m with
  | start inUse => exact (Nat.ne_of_lt hn).symm
  | «show» k _ | settle k _ | event k _ _ | drop k => exact fun hk ↦ hm (congrArg some hk)

/-- A call that has ended makes no more moves and shows nothing more. -/
theorem quiet_of_ended (hcall : s.call? n = none) (hn : n < s.nextNumber) (moves : List Move) :
    renders n s moves = [] ∧ ∀ h, run s moves = some h → ofCall n moves = [] := by
  induction moves generalizing s with
  | nil => exact ⟨rfl, fun _ _ ↦ rfl⟩
  | cons m moves ih =>
    cases hp : step s m with
    | none =>
      refine ⟨by rw [renders, trace, hp]; rfl, fun h hrun ↦ ?_⟩
      obtain ⟨p, -, hp', -⟩ := run_cons.mp hrun
      cases hp.symm.trans hp'
    | some p =>
      have hsteps := steps_of_step hp
      have hm : m.caller? ≠ some n := by
        intro hm
        obtain ⟨c, hc⟩ := hsteps.exists_call hm
        cases hcall.symm.trans hc
      obtain ⟨hrenders, hmoves⟩ := ih ((hsteps.call?_eq hm hn).trans hcall)
        (Nat.lt_of_lt_of_le hn hsteps.nextNumber_le)
      rw [renders_cons_of_ne hp (number_ne hm hn), ofCall_cons_of_ne hm]
      refine ⟨hrenders, fun h hrun ↦ ?_⟩
      obtain ⟨p', h', hp', hrun', -⟩ := run_cons.mp hrun
      obtain rfl := Option.some.inj (hp.symm.trans hp')
      exact hmoves h' hrun'

theorem renders_drop (hn : n < s.nextNumber) (rest : List Move) :
    renders n s (.drop n :: rest) = [] := by
  cases hp : step s (.drop n) with
  | none =>
    rw [renders, trace, hp]
    rfl
  | some p =>
    obtain ⟨c, hc, hdropped⟩ := Option.bind_eq_some_iff.mp hp
    obtain rfl := Option.some.inj hdropped
    have hquiet := (quiet_of_ended State.call?_remove_self hn rest).1
    rw [renders_cons hp rfl, hquiet]
    cases c.dialog <;> rfl

/-! ## Runs -/

/-- With the times of moves. -/
def timed (shown : List (Nat × FieldState)) : List (Option Nat × FieldState) :=
  shown.map fun r ↦ (some r.1, r.2)

@[simp] theorem timed_append (shown later : List (Nat × FieldState)) :
    timed (shown ++ later) = timed shown ++ timed later :=
  List.map_append

@[simp] theorem timed_map (t : Nat) (shown : List FieldState) :
    timed (shown.map (t, ·)) = shown.map (some t, ·) :=
  List.map_map

theorem OnTime.of_cons_of_ne (htime : OnTime n stop (m :: moves) s) (hm : m.caller? ≠ some n) :
    OnTime n stop moves s := by
  obtain ⟨hordered, hpast, hsettled⟩ := htime
  rw [times, ofCall_cons_of_ne hm] at hordered hpast
  exact ⟨hordered, hpast, hsettled⟩

theorem onTime_cons {t : Nat} (htimes : times n (m :: moves) = t :: times n moves) :
    OnTime n stop (m :: moves) s ↔
      t ≤ stop ∧ (∀ t' ∈ times n moves, t ≤ t') ∧ OnTime n stop moves s := by
  constructor
  · rintro ⟨hordered, hpast, hsettled⟩
    rw [htimes] at hordered hpast
    obtain ⟨hfirst, hrest⟩ := List.pairwise_cons.mp hordered
    exact ⟨hpast t List.mem_cons_self, hfirst, hrest,
      fun t' ht' ↦ hpast t' (List.mem_cons_of_mem t ht'), hsettled⟩
  · rintro ⟨hstop, hfirst, hordered, hpast, hsettled⟩
    refine ⟨?_, ?_, hsettled⟩
    · rw [htimes]
      exact List.pairwise_cons.mpr ⟨hfirst, hordered⟩
    · rw [htimes]
      exact List.forall_mem_cons.mpr ⟨hstop, hpast⟩

theorem step_show_of_open (hopen : s.Open n inUse d) (found : Bool) :
    step s (.show n found) = none := by
  rw [State.Open] at hopen
  rw [step, hopen]
  simp [guard]

/-- From a state with an open dialog on, moves show what is coming and what their script says. -/
def ShowsScript (n stop : Nat) (inUse : List String) (s : State) (d : Dialog) (before : Script)
    (moves : List Move) : Prop :=
  renders n s moves =
    timed (coming inUse stop d (scriptOf n moves) ++ feedback inUse stop before (scriptOf n moves))

namespace ShowsScript

theorem nil (hlate : ∀ k, d.checkAt = some k → stop < k) :
    ShowsScript n stop inUse s d before [] := by
  have hcoming : coming inUse stop d [] = [] := Dialog.coming_of_stop_lt hlate
  rw [ShowsScript, scriptOf, ofCall, List.filter_nil, handed, List.filterMap_nil, hcoming]
  rfl

theorem of_ne (hp : step s m = some p) (hm : m.caller? ≠ some n) (hn : n < s.nextNumber)
    (hrest : ShowsScript n stop inUse p.state d before moves) :
    ShowsScript n stop inUse s d before (m :: moves) := by
  rw [ShowsScript, scriptOf, ofCall_cons_of_ne hm, renders_cons_of_ne hp (number_ne hm hn)]
  exact hrest

theorem of_settle {t : Nat} (hopen : s.Open n inUse d) (hcheck : d.checkAt = some t)
    (hstop : t ≤ stop) (hlater : ∀ t' ∈ times n moves, t ≤ t')
    (hrest : ShowsScript n stop inUse (s.setDialog n (d.settle inUse).2) (d.settle inUse).2 before
      moves) :
    ShowsScript n stop inUse s d before (.settle n t :: moves) := by
  rw [ShowsScript, Dialog.coming_eq_nil rfl] at hrest
  rw [ShowsScript, scriptOf_settle, renders_settle hopen hcheck, hrest,
    Dialog.coming_of_le hcheck hstop fun te hte ↦ hlater te.1 (fst_mem_times hte)]
  rfl

/-- An event shows what its place in the script says, and leaves the rest to the dialog after it. -/
theorem of_event {t : Nat} {e : NameEvent} (hopen : s.Open n inUse d)
    (htracks : Tracks inUse before now d) (hnow : now ≤ t) (hdue : ∀ k, d.checkAt = some k → t < k)
    (hrest : ∀ d', (d.handle inUse t e).next = .inl d' →
      ShowsScript n stop inUse (s.setDialog n d') d' (before ++ [(t, e)]) moves)
    (hended : ∀ ending, (d.handle inUse t e).next = .inr ending →
      renders n (s.remove n) moves = [] ∧ scriptOf n moves = []) :
    ShowsScript n stop inUse s d before (.event n t e :: moves) := by
  have hshown := htracks.shown_handle hnow hdue stop e (scriptOf n moves)
  rw [ShowsScript, scriptOf_event, renders_event hopen fun k hk ↦ Nat.le_of_lt (hdue k hk),
    feedback, ← List.append_assoc, ← hshown, afterEvent]
  cases hnext : (d.handle inUse t e).next with
  | inl d' =>
    have hlater := hrest d' hnext
    rw [ShowsScript] at hlater
    rw [hlater, Sum.elim_inl, List.append_assoc, timed_append (List.map _ _), timed_map]
  | inr ending =>
    obtain ⟨hrenders, hscript⟩ := hended ending hnext
    rw [hrenders, hscript, feedback, Sum.elim_inr, List.append_nil, List.append_nil,
      List.append_nil, timed_map]

end ShowsScript

/-- **A call with an open dialog** shows what is coming and what its script says, up to the time to
which the clock has come. -/
theorem showsScript_run (hopen : s.Open n inUse d) (hn : n < s.nextNumber)
    (htracks : Tracks inUse before now d) (hnow : ∀ t ∈ times n moves, now ≤ t)
    (hrun : run s moves = some h) (hdrop : .drop n ∉ moves) (htime : OnTime n stop moves h.state)
    (huntied : Untied before (scriptOf n moves)) :
    ShowsScript n stop inUse s d before moves := by
  -- on the moves; what carries it is what the dialog keeps of the events before
  induction moves generalizing s d before now h with
  | nil =>
    obtain rfl := Option.some.inj hrun
    exact .nil fun k hk ↦ htime.settled inUse d k hopen hk
  | cons m moves ih =>
    obtain ⟨p, h', hp, hrun', rfl⟩ := run_cons.mp hrun
    have hsteps := steps_of_step hp
    have hn' := Nat.lt_of_lt_of_le hn hsteps.nextNumber_le
    have hdrop' : .drop n ∉ moves := fun hin ↦ hdrop (List.mem_cons_of_mem m hin)
    by_cases hm : m.caller? = some n
    · cases m with
      | start _ => cases hm
      | «show» k found =>
        obtain rfl := Option.some.inj hm
        cases (step_show_of_open hopen found).symm.trans hp
      | drop k =>
        obtain rfl := Option.some.inj hm
        exact absurd List.mem_cons_self hdrop
      | settle k t =>
        obtain rfl := Option.some.inj hm
        obtain ⟨hcheck, rfl⟩ := (step_settle hopen).mp hp
        obtain ⟨hstop, hlater, htime'⟩ := (onTime_cons (times_settle t)).mp htime
        rw [scriptOf_settle] at huntied
        exact .of_settle hopen hcheck hstop hlater (ih (hopen.setDialog _) hn'
          (htracks.settle hcheck) hlater hrun' hdrop' htime' huntied)
      | event k t e =>
        obtain rfl := Option.some.inj hm
        obtain ⟨hdue, rfl⟩ := (step_event hopen).mp hp
        obtain ⟨hstop, hlater, htime'⟩ := (onTime_cons (times_event t e)).mp htime
        rw [scriptOf_event] at huntied
        rw [times_event] at hnow
        have hnow' : now ≤ t := hnow t List.mem_cons_self
        have hdue' : ∀ k', d.checkAt = some k' → t < k' := by
          intro k' hk'
          apply Nat.lt_of_le_of_ne (hdue k' hk')
          rintro rfl
          exact huntied.1 (htracks.pending t hk')
        apply ShowsScript.of_event hopen htracks hnow' hdue'
        · intro d' hnext
          rw [afterEvent, hnext] at hrun' hn'
          exact ih (hopen.setDialog d') hn' (htracks.handle hnow' hnext) hlater hrun' hdrop' htime'
            huntied.2
        · intro ending hnext
          rw [afterEvent, hnext] at hrun' hn'
          obtain ⟨hrest, hmoves⟩ := quiet_of_ended State.call?_remove_self hn' moves
          refine ⟨hrest, ?_⟩
          rw [scriptOf, hmoves h' hrun']
          rfl
    · have hopen' : p.state.Open n inUse d := (hsteps.call?_eq hm hn).trans hopen
      rw [times, ofCall_cons_of_ne hm] at hnow
      rw [scriptOf, ofCall_cons_of_ne hm] at huntied
      exact .of_ne hp hm hn
        (ih hopen' hn' htracks hnow hrun' hdrop' (htime.of_cons_of_ne hm) huntied)

/-! ## Scripts that are handed over -/

/-- From a time on, moves hand over a script until it or the call comes to its end. -/
structure HandsOver (n stop now : Nat) (script : Script) (moves : List Move) (h : History) :
    Prop where
  plays : ∀ m ∈ moves, m.Plays n
  onTime : OnTime n stop moves h.state
  le_times : ∀ t ∈ times n moves, now ≤ t
  handed : scriptOf n moves = script ∨ scriptOf n moves <+: script ∧ h.state.call? n = none

/-- There are moves that hand over a script. -/
def CanHandOver (s : State) (n stop now : Nat) (script : Script) : Prop :=
  ∃ moves h, run s moves = some h ∧ HandsOver n stop now script moves h

theorem CanHandOver.nil (hopen : s.Open n inUse d) (hlate : ∀ k, d.checkAt = some k → stop < k) :
    CanHandOver s n stop now [] := by
  refine ⟨[], ⟨s, [], []⟩, rfl, nofun, ⟨List.Pairwise.nil, nofun, ?_⟩, nofun, Or.inl rfl⟩
  intro inUse' d' k hopen' hk
  obtain ⟨-, rfl⟩ := hopen.unique hopen'
  exact hlate k hk

theorem CanHandOver.of_ended (hcall : s.call? n = none) (script : Script) :
    CanHandOver s n stop now script := by
  refine ⟨[], ⟨s, [], []⟩, rfl, nofun, ⟨List.Pairwise.nil, nofun, ?_⟩, nofun,
    Or.inr ⟨List.nil_prefix, hcall⟩⟩
  intro inUse d k hopen
  cases hcall.symm.trans hopen

theorem CanHandOver.of_settle {k : Nat} {script : Script} (hopen : s.Open n inUse d)
    (hcheck : d.checkAt = some k) (hnow : now ≤ k) (hstop : k ≤ stop)
    (hlater : CanHandOver (s.setDialog n (d.settle inUse).2) n stop k script) :
    CanHandOver s n stop now script := by
  obtain ⟨moves, h, hrun, hover⟩ := hlater
  have hstep := (step_settle hopen).mpr ⟨hcheck, rfl⟩
  refine ⟨.settle n k :: moves, _, run_cons.mpr ⟨_, h, hstep, hrun, rfl⟩, ?_, ?_, ?_, ?_⟩
  · exact List.forall_mem_cons.mpr ⟨rfl, hover.plays⟩
  · exact (onTime_cons (times_settle k)).mpr ⟨hstop, hover.le_times, hover.onTime⟩
  · rw [times_settle]
    exact List.forall_mem_cons.mpr ⟨hnow, fun t ht ↦ Nat.le_trans hnow (hover.le_times t ht)⟩
  · rw [scriptOf_settle]
    exact hover.handed

theorem CanHandOver.of_event {t : Nat} {e : NameEvent} {script : Script}
    (hopen : s.Open n inUse d) (hdue : ∀ k, d.checkAt = some k → t ≤ k) (hnow : now ≤ t)
    (hstop : t ≤ stop)
    (hlater : ∀ d', (d.handle inUse t e).next = .inl d' →
      CanHandOver (s.setDialog n d') n stop t script) :
    CanHandOver s n stop now ((t, e) :: script) := by
  have hstep := (step_event (e := e) hopen).mpr ⟨hdue, rfl⟩
  have hgoOn : CanHandOver (afterEvent s n e (d.handle inUse t e)).state n stop t script := by
    rw [afterEvent]
    cases hnext : (d.handle inUse t e).next with
    | inl d' => exact hlater d' hnext
    | inr ending => exact .of_ended State.call?_remove_self script
  obtain ⟨moves, h, hrun, hover⟩ := hgoOn
  refine ⟨.event n t e :: moves, _, run_cons.mpr ⟨_, h, hstep, hrun, rfl⟩, ?_, ?_, ?_, ?_⟩
  · exact List.forall_mem_cons.mpr ⟨rfl, hover.plays⟩
  · exact (onTime_cons (times_event t e)).mpr ⟨hstop, hover.le_times, hover.onTime⟩
  · rw [times_event]
    exact List.forall_mem_cons.mpr ⟨hnow, fun t' ht' ↦ Nat.le_trans hnow (hover.le_times t' ht')⟩
  · rw [scriptOf_event]
    rcases hover.handed with hall | ⟨hsome, hended⟩
    · exact Or.inl (by rw [hall])
    · exact Or.inr ⟨List.cons_prefix_cons.mpr ⟨rfl, hsome⟩, hended⟩

/-- **Any script in order** can be handed over to an open dialog. -/
theorem canHandOver {script : Script} (hopen : s.Open n inUse d)
    (hcheck : ∀ k, d.checkAt = some k → now ≤ k) (hordered : script.Pairwise (·.1 ≤ ·.1))
    (hscript : ∀ te ∈ script, now ≤ te.1 ∧ te.1 ≤ stop) :
    CanHandOver s n stop now script := by
  -- on the script; a check that is due before an event comes first, and then none is due
  induction script generalizing s d now with
  | nil =>
    cases hpending : d.checkAt with
    | none => exact .nil hopen fun k hk ↦ nomatch hpending.symm.trans hk
    | some k =>
      by_cases hk : k ≤ stop
      · exact .of_settle hopen hpending (hcheck k hpending) hk (.nil (hopen.setDialog _) nofun)
      · refine .nil hopen fun k' hk' ↦ ?_
        obtain rfl := Option.some.inj (hpending.symm.trans hk')
        exact Nat.lt_of_not_le hk
  | cons te script ih =>
    obtain ⟨t, e⟩ := te
    obtain ⟨hfirst, hordered'⟩ := List.pairwise_cons.mp hordered
    obtain ⟨⟨hnow, hstop⟩, hscript'⟩ := List.forall_mem_cons.mp hscript
    have hevent : ∀ {s d now}, s.Open n inUse d → now ≤ t → (∀ k, d.checkAt = some k → t ≤ k) →
        CanHandOver s n stop now ((t, e) :: script) := by
      intro s d now hopen hnow hdue
      refine .of_event hopen hdue hnow hstop fun d' hnext ↦ ih (hopen.setDialog d') ?_ hordered'
        fun te hte ↦ ⟨hfirst te hte, (hscript' te hte).2⟩
      intro k hk
      rw [Dialog.checkAt_handle hnext] at hk
      split at hk
      · obtain ⟨text, -, rfl⟩ := Option.map_eq_some_iff.mp hk
        exact Nat.le_add_right t _
      · exact hdue k hk
    cases hpending : d.checkAt with
    | none => exact hevent hopen hnow fun k hk ↦ nomatch hpending.symm.trans hk
    | some k =>
      by_cases hk : t ≤ k
      · refine hevent hopen hnow fun k' hk' ↦ ?_
        obtain rfl := Option.some.inj (hpending.symm.trans hk')
        exact hk
      · have hlt := Nat.lt_of_not_le hk
        exact .of_settle hopen hpending (hcheck k hpending) (by omega)
          (hevent (hopen.setDialog _) (Nat.le_of_lt hlt) nofun)

/-! ## Feedback -/

end Naming

end PasskeyCeremony
