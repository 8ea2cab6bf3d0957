import PasskeyCeremony.Prompt.Naming
import PasskeyCeremony.Proofs.Prompt.Calls
import PasskeyCeremony.Proofs.Prompt.Dialog
import PasskeyCeremony.Proofs.Prompt.Machine

/-!
# The naming prompt without its clock

A call that has the view is played by two kinds of moves: the view hands over an event, and a quiet
period ends. When the latter happens is up to the clock. After any such moves the call stands where
`Dialog.judge` stands after the events alone (`stands_run`), so the clock has no influence on the
result and on what the user is told.

That a call ends needs two more facts. Until it has ended it can always go on, at whatever time the
next event is handed over (`exists_step`), and it cannot make more than two moves for an event, as a
quiet period begins only when the text changes (`length_le_of_run`).
-/

namespace PasskeyCeremony.Naming

open Dialog (Ending judge outcome Agrees)

variable {s : State} {n k : Nat} {inUse : List String}

/-! ## Moves of one call -/

/-- The move belongs to the call and plays its dialog. -/
def Move.Plays (n : Nat) : Move → Prop
  | .settle m _ | .event m _ _ => m = n
  | .start _ | .show _ _ | .drop _ => False

/-- The event that a move hands over, and when. -/
def Move.handed? : Move → Option (Nat × NameEvent)
  | .event _ now e => some (now, e)
  | _ => none

/-- The events that moves hand over, with their times. -/
def handed (moves : List Move) : List (Nat × NameEvent) := moves.filterMap Move.handed?

@[simp] theorem handed_settle (m now : Nat) (moves : List Move) :
    handed (.settle m now :: moves) = handed moves := rfl

@[simp] theorem handed_event (m now : Nat) (e : NameEvent) (moves : List Move) :
    handed (.event m now e :: moves) = (now, e) :: handed moves := rfl

/-- The moves play a call by a script of events with times, or a part of the script. -/
structure Plays (n : Nat) (script : List (Nat × NameEvent)) (moves : List Move) : Prop where
  plays : ∀ m ∈ moves, m.Plays n
  handed : handed moves <+: script

def NamingCall.toast? : NamingCall → Option Toast
  | .toast t => some t
  | _ => none

def toasts (calls : List (Nat × NamingCall)) : List Toast := calls.filterMap (NamingCall.toast? ·.2)

/-! ## One step -/

namespace State

/-- The call has the view, and its dialog is in a state. -/
def Open (s : State) (n : Nat) (inUse : List String) (d : Dialog) : Prop :=
  s.call? n = some ⟨n, inUse, some d⟩

theorem number_of_call? {c : Call} (h : s.call? n = some c) : c.number = n :=
  Calls.number_of_find? h

@[simp] theorem call?_setDialog (d : Dialog) :
    (s.setDialog n d).call? k =
      (s.call? k).map fun c ↦ if k = n then { c with dialog := some d } else c :=
  Calls.find?_update _ fun _ ↦ rfl

@[simp] theorem call?_remove : (s.remove n).call? k = if k = n then none else s.call? k :=
  Calls.find?_remove

theorem call?_remove_self : (s.remove n).call? n = none := by simp

theorem call?_setDialog_of_ne (d : Dialog) (hk : k ≠ n) :
    (s.setDialog n d).call? k = s.call? k := by simp [hk]

theorem call?_remove_of_ne (hk : k ≠ n) : (s.remove n).call? k = s.call? k := by simp [hk]

theorem call?_append {c : Call} (hnew : s.call? c.number = none) (next : Nat) :
    (State.mk next (s.calls ++ [c])).call? k = if k = c.number then some c else s.call? k :=
  Calls.find?_append hnew

theorem open_setDialog {c : Call} (hc : s.call? n = some c) (d : Dialog) :
    (s.setDialog n d).Open n c.inUse d := by
  obtain rfl := number_of_call? hc
  simp [Open, hc]

theorem Open.setDialog {d : Dialog} (h : s.Open n inUse d) (d' : Dialog) :
    (s.setDialog n d').Open n inUse d' :=
  open_setDialog h d'

theorem Open.unique {inUse' : List String} {d d' : Dialog} (h : s.Open n inUse d)
    (h' : s.Open n inUse' d') : inUse = inUse' ∧ d = d' := by
  simpa [Open] using Eq.trans (Eq.symm h) h'

end State

private theorem guard_bind_eq_some {α : Type} {p : Prop} [Decidable p] {x y : α} :
    ((guard p : Option Unit) >>= fun _ ↦ some x) = some y ↔ p ∧ y = x := by
  have hguard : (guard p : Option Unit) = if p then some () else none := rfl
  by_cases hp : p
  · rw [hguard, if_pos hp]
    exact ⟨fun h ↦ ⟨hp, (Option.some.inj h).symm⟩, fun h ↦ congrArg some h.2.symm⟩
  · rw [hguard, if_neg hp]
    exact ⟨(fun h ↦ nomatch h), fun h ↦ absurd h.1 hp⟩

theorem step_show (hcall : s.call? n = some ⟨n, inUse, none⟩) (hturn : s.turn? = some n) :
    step s (.show n true) = some ⟨s.setDialog n .initial, setup true, none⟩ := by
  rw [step, hcall]
  exact guard_bind_eq_some.mpr ⟨⟨hturn, rfl⟩, rfl⟩

theorem step_settle {d : Dialog} (h : s.Open n inUse d) {now : Nat} {p : Progress} :
    step s (.settle n now) = some p ↔ d.checkAt = some now ∧
      p = ⟨s.setDialog n (d.settle inUse).2, [.render (d.settle inUse).1], none⟩ := by
  rw [State.Open] at h
  have hstep : step s (.settle n now) = (guard (d.checkAt = some now) >>= fun _ ↦
      some ⟨s.setDialog n (d.settle inUse).2, [.render (d.settle inUse).1], none⟩) := by
    rw [step, h]
    refine congrArg (fun x : Option Progress ↦ _ >>= fun _ ↦ x) ?_
    generalize d.settle inUse = r
    rfl
  rw [hstep, guard_bind_eq_some]

/-- What a move leads to in which the view hands over an event. -/
def afterEvent (s : State) (n : Nat) (e : NameEvent) (r : Dialog.Reaction) : Progress :=
  match r.next with
  | .inl d => ⟨s.setDialog n d, .event e :: r.shown.map .render, none⟩
  | .inr ending =>
    ⟨s.remove n, .event e :: r.shown.map .render ++ ending.toast?.toList.map .toast ++ teardown,
      some (.ended ending)⟩

theorem step_event {d : Dialog} (h : s.Open n inUse d) {now : Nat} {e : NameEvent} {p : Progress} :
    step s (.event n now e) = some p ↔ (∀ k, d.checkAt = some k → now ≤ k) ∧
      p = afterEvent s n e (d.handle inUse now e) := by
  rw [State.Open] at h
  have hdue : d.checkAt.all (fun k ↦ decide (now ≤ k)) = true ↔
      ∀ k, d.checkAt = some k → now ≤ k := by
    cases d.checkAt <;> simp
  have hstep : step s (.event n now e) = (guard (d.checkAt.all fun k ↦ decide (now ≤ k)) >>=
      fun _ ↦ some (afterEvent s n e (d.handle inUse now e))) := by
    rw [step, h, afterEvent]
    refine congrArg (fun x : Option Progress ↦ _ >>= fun _ ↦ x) ?_
    generalize d.handle inUse now e = r
    obtain ⟨shown, next⟩ := r
    cases next <;> rfl
  rw [hstep, guard_bind_eq_some, hdue]

theorem toast?_of_render (shown : List FieldState) :
    (shown.map NamingCall.render).filterMap NamingCall.toast? = [] := by
  rw [List.filterMap_map, List.filterMap_eq_nil_iff]
  exact fun _ _ ↦ rfl

/-- **An event** leaves the dialog open on the text that is read next, and the user is told nothing,
or it ends the call with the ending that is read, and the user is told what goes with that. -/
theorem afterEvent_cases {d : Dialog} (hd : d.IsUpToDate inUse) (now : Nat) (e : NameEvent) :
    (∃ d' told, afterEvent s n e (d.handle inUse now e) = ⟨s.setDialog n d', told, none⟩ ∧
      told.filterMap NamingCall.toast? = [] ∧
      judge inUse (.inl d.text) e = .inl d'.text ∧ d'.IsUpToDate inUse) ∨
    ∃ ending told,
      afterEvent s n e (d.handle inUse now e) = ⟨s.remove n, told, some (.ended ending)⟩ ∧
      told.filterMap NamingCall.toast? = ending.toast?.toList ∧
      judge inUse (.inl d.text) e = .inr ending := by
  rcases (Dialog.agrees_handle hd now e).cases with
    ⟨d', hnext, hjudge, hd'⟩ | ⟨ending, hnext, hjudge⟩
  · refine Or.inl ⟨d', _, by rw [afterEvent, hnext], ?_, hjudge, hd'⟩
    exact toast?_of_render (d.handle inUse now e).shown
  · refine Or.inr ⟨ending, _, by rw [afterEvent, hnext], ?_, hjudge⟩
    simp only [List.filterMap_append, List.filterMap_cons, NamingCall.toast?, toast?_of_render]
    cases ending <;> rfl

/-! ## Any number of steps -/

/-- The call has ended, and the user was told what goes with its ending and nothing else. -/
structure EndedWith (n : Nat) (ending : Ending) (h : History) : Prop where
  results : h.results = [(n, .ended ending)]
  told : toasts h.calls = ending.toast?.toList

/-- Where a call stands after moves of its own: its dialog is open on a text, or it has ended. -/
def Stands (n : Nat) (inUse : List String) (h : History) : String ⊕ Ending → Prop
  | .inl text => h.results = [] ∧ toasts h.calls = [] ∧
      ∃ d, h.state.Open n inUse d ∧ d.text = text ∧ d.IsUpToDate inUse
  | .inr ending => EndedWith n ending h

theorem run_cons {m : Move} {moves : List Move} {h : History} :
    run s (m :: moves) = some h ↔ ∃ p rest, step s m = some p ∧ run p.state moves = some rest ∧
      h = ⟨rest.state, p.calls.map (machine.number s m, ·) ++ rest.calls,
        (p.result.map (machine.number s m, ·)).toList ++ rest.results⟩ :=
  Machine.run_cons

@[simp] theorem toasts_append (told : List NamingCall) (m : Nat) (calls : List (Nat × NamingCall)) :
    toasts (told.map (m, ·) ++ calls) = told.filterMap NamingCall.toast? ++ toasts calls := by
  rw [toasts, List.filterMap_append, List.filterMap_map]
  rfl

theorem EndedWith.of_quiet {told : List NamingCall} {h : History} {m : Nat} {ending : Ending}
    (htold : told.filterMap NamingCall.toast? = []) (hended : EndedWith n ending h) :
    EndedWith n ending ⟨h.state, told.map (m, ·) ++ h.calls, [] ++ h.results⟩ := by
  exact ⟨hended.results, by simp [htold, hended.told]⟩

theorem Stands.of_quiet {told : List NamingCall} {h : History} {m : Nat} {t : String ⊕ Ending}
    (htold : told.filterMap NamingCall.toast? = []) (ht : Stands n inUse h t) :
    Stands n inUse ⟨h.state, told.map (m, ·) ++ h.calls, [] ++ h.results⟩ t := by
  cases t with
  | inl text =>
    obtain ⟨hresults, htoasts, hopen⟩ := ht
    exact ⟨hresults, by simp [htold, htoasts], hopen⟩
  | inr ending => exact EndedWith.of_quiet htold ht

theorem eq_nil_of_run {moves : List Move} {h : History} (hcall : s.call? n = none)
    (hmoves : ∀ m ∈ moves, m.Plays n) (hrun : run s moves = some h) : moves = [] := by
  cases moves with
  | nil => rfl
  | cons m moves =>
    obtain ⟨p, _, hp, -, -⟩ := run_cons.mp hrun
    have hm := hmoves m List.mem_cons_self
    cases m with
    | start _ | «show» _ _ | drop _ => exact hm.elim
    | settle k now =>
      obtain rfl : k = n := hm
      rw [step, hcall] at hp
      cases hp
    | event k now e =>
      obtain rfl : k = n := hm
      rw [step, hcall] at hp
      cases hp

/-- **After any moves** the call stands where the events alone lead. -/
theorem stands_run {moves : List Move} {d : Dialog} {h : History} (hopen : s.Open n inUse d)
    (hd : d.IsUpToDate inUse) (hmoves : ∀ m ∈ moves, m.Plays n) (hrun : run s moves = some h) :
    Stands n inUse h (((handed moves).map Prod.snd).foldl (judge inUse) (.inl d.text)) := by
  -- on the moves; what carries it is that the button is up to date or a check is pending
  induction moves generalizing s d h with
  | nil =>
    obtain rfl := Option.some.inj hrun
    exact ⟨rfl, rfl, d, hopen, rfl, hd⟩
  | cons m moves ih =>
    obtain ⟨p, h', hp, hrun', rfl⟩ := run_cons.mp hrun
    have hm := hmoves m List.mem_cons_self
    have hrest := fun m' hm' ↦ hmoves m' (List.mem_cons_of_mem m hm')
    cases m with
    | start _ | «show» _ _ | drop _ => exact hm.elim
    | settle k now =>
      obtain rfl : k = n := hm
      obtain ⟨-, rfl⟩ := (step_settle hopen).mp hp
      have hlater := ih (hopen.setDialog _) (Dialog.isUpToDate_settle d) hrest hrun'
      rw [Dialog.text_settle] at hlater
      exact hlater.of_quiet rfl
    | event k now e =>
      obtain rfl : k = n := hm
      obtain ⟨-, rfl⟩ := (step_event hopen).mp hp
      rw [handed_event, List.map_cons, List.foldl_cons]
      rcases afterEvent_cases hd now e with
        ⟨d', told, hafter, htold, hjudge, hd'⟩ | ⟨ending, told, hafter, htold, hjudge⟩
      · rw [hafter] at hrun' ⊢
        rw [hjudge]
        exact (ih (hopen.setDialog d') hd' hrest hrun').of_quiet htold
      · rw [hafter] at hrun' ⊢
        rw [hjudge, Dialog.foldl_judge_inr]
        obtain rfl := eq_nil_of_run ((by simp)) hrest hrun'
        obtain rfl := Option.some.inj hrun'
        exact ⟨rfl, by rw [toasts_append, htold]; exact List.append_nil _⟩

/-- A call makes at most two moves for an event, as a quiet period begins only when the text
changes. -/
theorem length_le_of_run {moves : List Move} {d : Dialog} {h : History}
    (hopen : s.Open n inUse d) (hd : d.IsUpToDate inUse) (hmoves : ∀ m ∈ moves, m.Plays n)
    (hrun : run s moves = some h) :
    moves.length ≤ 2 * (handed moves).length + d.checkAt.toList.length := by
  induction moves generalizing s d h with
  | nil => exact Nat.zero_le _
  | cons m moves ih =>
    obtain ⟨p, h', hp, hrun', rfl⟩ := run_cons.mp hrun
    have hm := hmoves m List.mem_cons_self
    have hrest := fun m' hm' ↦ hmoves m' (List.mem_cons_of_mem m hm')
    cases m with
    | start _ | «show» _ _ | drop _ => exact hm.elim
    | settle k now =>
      obtain rfl : k = n := hm
      obtain ⟨hdue, rfl⟩ := (step_settle hopen).mp hp
      have hlater := ih (hopen.setDialog _) (Dialog.isUpToDate_settle d) hrest hrun'
      rw [handed_settle, List.length_cons, hdue]
      simp only [Dialog.settle, Option.toList_none, List.length_nil] at hlater
      simp only [Option.toList_some, List.length_singleton]
      omega
    | event k now e =>
      obtain rfl : k = n := hm
      obtain ⟨-, rfl⟩ := (step_event hopen).mp hp
      rw [handed_event, List.length_cons, List.length_cons]
      rcases afterEvent_cases hd now e with
        ⟨d', told, hafter, -, -, hd'⟩ | ⟨ending, told, hafter, -, -⟩
      · rw [hafter] at hrun'
        have hlater := ih (hopen.setDialog d') hd' hrest hrun'
        have hpending : d'.checkAt.toList.length ≤ 1 := by cases d'.checkAt <;> simp
        omega
      · rw [hafter] at hrun'
        obtain rfl := eq_nil_of_run ((by simp)) hrest hrun'
        simp only [List.length_nil]
        omega

/-! ## Coming to an end -/

private theorem due_or (d : Dialog) (t : Nat) :
    (∀ k, d.checkAt = some k → t ≤ k) ∨ ∃ k, d.checkAt = some k ∧ k < t := by
  cases d.checkAt with
  | none =>
    left
    rintro k ⟨⟩
  | some k =>
    by_cases hk : t ≤ k
    · left
      rintro k' ⟨⟩
      exact hk
    · exact Or.inr ⟨k, rfl, Nat.lt_of_not_le hk⟩

/-- While a call is open it can go on, whenever the next event is handed over: with the event, or
with a check that is due before. -/
theorem exists_step {d : Dialog} (hopen : s.Open n inUse d) (t : Nat) (e : NameEvent) :
    (step s (.event n t e)).isSome = true ∨ ∃ k < t, (step s (.settle n k)).isSome = true := by
  rcases due_or d t with hdue | ⟨k, hcheck, hk⟩
  · left
    rw [(step_event hopen).mpr ⟨hdue, rfl⟩]
    rfl
  · right
    refine ⟨k, hk, ?_⟩
    rw [(step_settle hopen).mpr ⟨hcheck, rfl⟩]
    rfl

/-- There are moves by which the call comes to its end, with the events at their times. -/
def CanEnd (s : State) (n : Nat) (script : List (Nat × NameEvent)) : Prop :=
  ∃ moves h, Plays n script moves ∧ run s moves = some h ∧ h.results ≠ []

theorem CanEnd.of_settle {d : Dialog} {k : Nat} {script : List (Nat × NameEvent)}
    (hopen : s.Open n inUse d) (hdue : d.checkAt = some k)
    (hlater : CanEnd (s.setDialog n (d.settle inUse).2) n script) : CanEnd s n script := by
  obtain ⟨moves, h, hplays, hrun, hresults⟩ := hlater
  have hstep := (step_settle hopen).mpr ⟨hdue, rfl⟩
  refine ⟨.settle n k :: moves, _, ⟨?_, hplays.handed⟩,
    run_cons.mpr ⟨_, h, hstep, hrun, rfl⟩, hresults⟩
  intro m hm
  rcases List.mem_cons.mp hm with rfl | hm
  · rfl
  · exact hplays.plays m hm

theorem CanEnd.of_event {d : Dialog} {t : Nat} {e : NameEvent} {script : List (Nat × NameEvent)}
    (hopen : s.Open n inUse d) (hd : d.IsUpToDate inUse) (hdue : ∀ k, d.checkAt = some k → t ≤ k)
    (hlater : ∀ d', d'.IsUpToDate inUse → judge inUse (.inl d.text) e = .inl d'.text →
      CanEnd (s.setDialog n d') n script) : CanEnd s n ((t, e) :: script) := by
  have hstep := (step_event hopen (e := e)).mpr ⟨hdue, rfl⟩
  rcases afterEvent_cases hd t e with
    ⟨d', told, hafter, -, hjudge, hd'⟩ | ⟨ending, told, hafter, -, -⟩
  · obtain ⟨moves, h, hplays, hrun, hresults⟩ := hlater d' hd' hjudge
    rw [hafter] at hstep
    refine ⟨.event n t e :: moves, _, ⟨?_, ?_⟩, run_cons.mpr ⟨_, h, hstep, hrun, rfl⟩, hresults⟩
    · intro m hm
      rcases List.mem_cons.mp hm with rfl | hm
      · rfl
      · exact hplays.plays m hm
    · rw [handed_event]
      exact List.cons_prefix_cons.mpr ⟨rfl, hplays.handed⟩
  · rw [hafter] at hstep
    refine ⟨[.event n t e], _, ⟨?_, ?_⟩, run_cons.mpr ⟨_, _, hstep, rfl, rfl⟩, by simp⟩
    · intro m hm
      rw [List.mem_singleton.mp hm]
      rfl
    · rw [handed_event]
      exact List.cons_prefix_cons.mpr ⟨rfl, List.nil_prefix⟩

/-- **A call comes to its end** if the events do, whatever their times. -/
theorem canEnd_of_foldl {script : List (Nat × NameEvent)} {d : Dialog} {ending : Ending}
    (hopen : s.Open n inUse d) (hd : d.IsUpToDate inUse)
    (hscript : (script.map Prod.snd).foldl (judge inUse) (.inl d.text) = .inr ending) :
    CanEnd s n script := by
  -- on the script; a check that is due before an event makes one more move, not one event less
  induction script generalizing s d with
  | nil => cases hscript
  | cons te script ih =>
    obtain ⟨t, e⟩ := te
    rw [List.map_cons, List.foldl_cons] at hscript
    rcases due_or d t with hdue | ⟨k, hcheck, -⟩
    · refine CanEnd.of_event hopen hd hdue fun d' hd' hjudge ↦ ih (hopen.setDialog d') hd' ?_
      rwa [hjudge] at hscript
    · -- one check comes first, and after it none is due
      have hopen' := hopen.setDialog (d.settle inUse).2
      refine CanEnd.of_settle hopen hcheck (CanEnd.of_event hopen' (Dialog.isUpToDate_settle d) ?_
        fun d' hd' hjudge ↦ ih (hopen'.setDialog d') hd' ?_)
      · rintro k' ⟨⟩
      · rw [Dialog.text_settle] at hjudge
        rwa [hjudge] at hscript

/-- The call has not ended, and whenever the next event of the script is handed over, it can go on:
with the event, or with a check that is due before. -/
structure Pending (n : Nat) (script : List (Nat × NameEvent)) (moves : List Move) (h : History) :
    Prop where
  results : h.results = []
  told : toasts h.calls = []
  goesOn : ∃ t e rest, script = handed moves ++ (t, e) :: rest ∧
    ((step h.state (.event n t e)).isSome = true ∨
      ∃ k < t, (step h.state (.settle n k)).isSome = true)

theorem Pending.of_quiet {told : List NamingCall} {h : History} {m : Nat}
    {script : List (Nat × NameEvent)} {moves : List Move}
    (htold : told.filterMap NamingCall.toast? = []) (hpending : Pending n script moves h) :
    Pending n script moves ⟨h.state, told.map (m, ·) ++ h.calls, [] ++ h.results⟩ := by
  exact ⟨hpending.results, by simp [htold, hpending.told], hpending.goesOn⟩

/-- Moves by a script that ends have ended as the script does, or can go on. -/
private theorem endedWith_or_pending {moves : List Move} {d : Dialog} {h : History}
    {script : List (Nat × NameEvent)} {ending : Ending} (hopen : s.Open n inUse d)
    (hd : d.IsUpToDate inUse) (hplays : Plays n script moves) (hrun : run s moves = some h)
    (hscript : (script.map Prod.snd).foldl (judge inUse) (.inl d.text) = .inr ending) :
    EndedWith n ending h ∨ Pending n script moves h := by
  have hstands := stands_run hopen hd hplays.plays hrun
  obtain ⟨rest, hrest⟩ := hplays.handed
  cases hhanded : ((handed moves).map Prod.snd).foldl (judge inUse) (.inl d.text) with
  | inr ending' =>
    left
    -- what a part of the script has ended, the rest of it cannot change
    have hwhole := Dialog.foldl_judge_of_isPrefix hhanded (hplays.handed.map Prod.snd)
    rw [hhanded] at hstands
    rw [hscript] at hwhole
    obtain rfl := Sum.inr.inj hwhole
    exact hstands
  | inl text =>
    right
    rw [hhanded] at hstands
    obtain ⟨hresults, htold, d', hopen', -, -⟩ := hstands
    refine ⟨hresults, htold, ?_⟩
    cases rest with
    | nil =>
      rw [List.append_nil] at hrest
      rw [← hrest, hhanded] at hscript
      cases hscript
    | cons te rest => exact ⟨te.1, te.2, rest, hrest.symm, exists_step hopen' te.1 te.2⟩

private theorem call?_head (next : Nat) (c : Call) (others : List Call) :
    State.call? ⟨next, c :: others⟩ c.number = some c := by
  simp [State.call?]

private theorem run_show {others : List Call} {next : Nat} {moves : List Move} {h : History} :
    run ⟨next, ⟨n, inUse, none⟩ :: others⟩ (.show n true :: moves) = some h ↔
      ∃ h', run (State.setDialog ⟨next, ⟨n, inUse, none⟩ :: others⟩ n .initial) moves = some h' ∧
        h = ⟨h'.state, (setup true).map (n, ·) ++ h'.calls, [] ++ h'.results⟩ := by
  have hcall := call?_head next ⟨n, inUse, none⟩ others
  rw [run_cons]
  constructor
  · rintro ⟨p, h', hp, hrun, rfl⟩
    rw [step_show hcall rfl] at hp
    obtain rfl := Option.some.inj hp
    exact ⟨h', hrun, rfl⟩
  · rintro ⟨h', hrun, rfl⟩
    exact ⟨_, h', step_show hcall rfl, hrun, rfl⟩

end PasskeyCeremony.Naming
