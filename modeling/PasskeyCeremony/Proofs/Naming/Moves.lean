import PasskeyCeremony.Proofs.Prompt.Naming

/-!
# What a move of the naming prompt can do

The list of what a move can do (`Steps`), and the induction on the moves made so far
(`run_induction`), in which a run grows at its end, as it does in time. Whatever is proved about
many calls at once rests on these two; what a single call tells its user is another matter and rests
on the dialog alone.

While a dialog is open, its view is told and hands over only two kinds of things (`Inner`): a state
of the field is rendered, and an event arrives.
-/

namespace PasskeyCeremony.Naming

variable {s : State} {n k : Nat}

/-! ## One move -/

/-- What happens between an open dialog and its view. -/
inductive Inner where
  /-- A state of the field is rendered. -/
  | render (shown : FieldState)
  /-- The view hands over an event. -/
  | event (e : NameEvent)
  deriving DecidableEq, Repr

/-- It is one of the things that the view is told or hands over. -/
def Inner.call : Inner → NamingCall
  | render shown => .render shown
  | event e => .event e

theorem Move.Plays.caller? {m : Move} (h : m.Plays n) : m.caller? = some n := by
  cases m with
  | settle k now | event k now e => exact congrArg some h
  | start _ | «show» _ _ | drop _ => exact h.elim

/-- All that a move can do. -/
inductive Steps (s : State) : Move → Progress → Prop where
  | start (inUse : List String) :
      Steps s (.start inUse)
        ⟨⟨s.nextNumber + 1, s.calls ++ [⟨s.nextNumber, inUse, none⟩]⟩, [], none⟩
  /-- The call whose turn it is opens its dialog. -/
  | open {c : Call} (hc : s.call? c.number = some c) (hdialog : c.dialog = none)
      (hturn : s.turn? = some c.number) :
      Steps s (.show c.number true) ⟨s.setDialog c.number .initial, setup true, none⟩
  /-- The call whose turn it is ends where the elements are not found. -/
  | refuse {c : Call} (hc : s.call? c.number = some c) (hdialog : c.dialog = none)
      (hturn : s.turn? = some c.number) :
      Steps s (.show c.number false) ⟨s.remove c.number, setup false, some .unavailable⟩
  /-- A dialog that is open stays open. -/
  | goOn {c : Call} {d : Dialog} {m : Move} (hc : s.call? c.number = some c)
      (hdialog : c.dialog = some d) (hm : m.Plays c.number) (d' : Dialog) (told : List Inner) :
      Steps s m ⟨s.setDialog c.number d', told.map Inner.call, none⟩
  /-- A dialog that is open ends. -/
  | close {c : Call} {d : Dialog} {m : Move} (hc : s.call? c.number = some c)
      (hdialog : c.dialog = some d) (hm : m.Plays c.number) (told : List Inner)
      (ending : Dialog.Ending) :
      Steps s m ⟨s.remove c.number,
        told.map Inner.call ++ ending.toast?.toList.map .toast ++ teardown, some (.ended ending)⟩
  | drop {c : Call} (hc : s.call? c.number = some c) :
      Steps s (.drop c.number)
        ⟨s.remove c.number, if c.dialog.isSome then teardown else [], none⟩

theorem map_call_event (e : NameEvent) (shown : List FieldState) :
    NamingCall.event e :: shown.map .render =
      (Inner.event e :: shown.map Inner.render).map Inner.call := by
  rw [List.map_cons, List.map_map]
  rfl

/-- An event leads to one of the two ends of a move on an open dialog. -/
private theorem steps_afterEvent {c : Call} {d : Dialog} {now : Nat} {e : NameEvent}
    (hc : s.call? c.number = some c) (hdialog : c.dialog = some d) (r : Dialog.Reaction) :
    Steps s (.event c.number now e) (afterEvent s c.number e r) := by
  have hplays : Move.Plays c.number (.event c.number now e) := rfl
  obtain ⟨shown, next⟩ := r
  rw [afterEvent, map_call_event]
  cases next with
  | inl d' => exact .goOn hc hdialog hplays d' _
  | inr ending => exact .close hc hdialog hplays _ ending

theorem steps_of_step {m : Move} {p : Progress} (h : step s m = some p) : Steps s m p := by
  cases m with
  | start inUse =>
    obtain rfl := Option.some.inj h
    exact .start inUse
  | «show» n found =>
    obtain ⟨c, hc, h⟩ := Option.bind_eq_some_iff.mp h
    obtain rfl := State.number_of_call? hc
    obtain ⟨_, hguard, h⟩ := Option.bind_eq_some_iff.mp h
    obtain ⟨hturn, hdialog⟩ : s.turn? = some c.number ∧ c.dialog = none := by
      simpa [guard] using hguard
    cases found with
    | true =>
      obtain rfl := Option.some.inj h
      exact .open hc hdialog hturn
    | false =>
      obtain rfl := Option.some.inj h
      exact .refuse hc hdialog hturn
  | settle n now =>
    obtain ⟨c, hc, h'⟩ := Option.bind_eq_some_iff.mp h
    obtain ⟨d, hdialog, -⟩ := Option.bind_eq_some_iff.mp h'
    obtain rfl := State.number_of_call? hc
    have hopen : s.Open c.number c.inUse d := by rw [State.Open, hc, ← hdialog]
    obtain ⟨-, rfl⟩ := (step_settle hopen).mp h
    have hplays : Move.Plays c.number (.settle c.number now) := rfl
    exact .goOn hc hdialog hplays _ [.render (d.settle c.inUse).1]
  | event n now e =>
    obtain ⟨c, hc, h'⟩ := Option.bind_eq_some_iff.mp h
    obtain ⟨d, hdialog, -⟩ := Option.bind_eq_some_iff.mp h'
    obtain rfl := State.number_of_call? hc
    have hopen : s.Open c.number c.inUse d := by rw [State.Open, hc, ← hdialog]
    obtain ⟨-, rfl⟩ := (step_event hopen).mp h
    exact steps_afterEvent hc hdialog _
  | drop n =>
    obtain ⟨c, hc, h⟩ := Option.bind_eq_some_iff.mp h
    obtain rfl := State.number_of_call? hc
    obtain rfl := Option.some.inj h
    exact .drop hc

theorem Steps.exists_call {m : Move} {p : Progress} (hsteps : Steps s m p)
    (hm : m.caller? = some n) : ∃ c, s.call? n = some c := by
  cases hsteps with
  | start => cases hm
  | «open» hc | refuse hc | drop hc =>
    obtain rfl := Option.some.inj hm
    exact ⟨_, hc⟩
  | goOn hc hdialog hplays | close hc hdialog hplays =>
    obtain rfl := Option.some.inj (hplays.caller?.symm.trans hm)
    exact ⟨_, hc⟩

/-! ## Any number of moves -/

/-- **Induction on the moves** made on a prompt that had not been used. -/
theorem run_induction {motive : List Move → History → Prop}
    (nil : motive [] ⟨.initial, [], []⟩)
    (snoc : ∀ moves h m p, motive moves h → Steps h.state m p →
      motive (moves ++ [m]) (machine.extend h m p))
    {moves : List Move} {h : History} (hrun : run .initial moves = some h) : motive moves h :=
  Machine.run_induction (M := machine) nil
    (fun moves h m p _ hmoves hp ↦ snoc moves h m p hmoves (steps_of_step hp)) hrun

end PasskeyCeremony.Naming
