import PasskeyCeremony.Prompt.Dialog
import PasskeyCeremony.Proofs.Prompt.Names

/-!
# The naming dialog without its clock

What a dialog comes to is decided by the events of the user alone. `Dialog.judge` reads them one by
one, keeping nothing but the latest text; it has no button and no quiet period. A dialog whose
button is up to date, or is going to be checked, reacts to an event as `judge` does
(`agrees_handle`), and the end of a quiet period changes nothing that `judge` keeps
(`isUpToDate_settle`).
-/

namespace PasskeyCeremony.Dialog

/-! ## Reading without a clock -/

/-- What comes of a click on the button that submits, given the latest text. -/
def verdict (inUse : List String) (text : String) : String ⊕ Ending :=
  match validateName inUse text with
  | .ok name => .inr (.named name)
  | .error _ => .inl text

/-- What comes of an event, given the latest text; what has ended stays as it is. -/
def judge (inUse : List String) : String ⊕ Ending → NameEvent → String ⊕ Ending
  | .inr ending, _ => .inr ending
  | .inl _, .input text => .inl text
  | .inl text, .submit => verdict inUse text
  | .inl text, .key name => if name = "Enter" then verdict inUse text else .inl text
  | .inl _, .cancel => .inr .cancelled
  | .inl _, .closed => .inr .closed

/-- What comes of the events of a dialog: the latest text, or how it ended. -/
def outcome (inUse : List String) (events : List NameEvent) : String ⊕ Ending :=
  events.foldl (judge inUse) (.inl "")

variable {inUse : List String}

theorem foldl_judge_inr (ending : Ending) (events : List NameEvent) :
    events.foldl (judge inUse) (.inr ending) = .inr ending := by
  induction events with
  | nil => rfl
  | cons e events ih => rw [List.foldl_cons, judge, ih]

theorem foldl_judge_of_isPrefix {start : String ⊕ Ending} {ending : Ending}
    {events more : List NameEvent} (h : events.foldl (judge inUse) start = .inr ending)
    (hmore : events <+: more) : more.foldl (judge inUse) start = .inr ending := by
  obtain ⟨rest, rfl⟩ := hmore
  rw [List.foldl_append, h, foldl_judge_inr]

theorem exists_outcome_closed (start : String ⊕ Ending) (events : List NameEvent) :
    ∃ ending, (events ++ [NameEvent.closed]).foldl (judge inUse) start = .inr ending := by
  rw [List.foldl_append, List.foldl_cons, List.foldl_nil]
  cases events.foldl (judge inUse) start with
  | inl text => exact ⟨.closed, rfl⟩
  | inr ending => exact ⟨ending, rfl⟩

/-- A dialog ends only with a name that the check has accepted. -/
theorem isName_of_judge {t : String ⊕ Ending} {e : NameEvent} {name : String}
    (ht : ∀ name, t = .inr (.named name) → IsName inUse name)
    (h : judge inUse t e = .inr (.named name)) : IsName inUse name := by
  have hverdict : ∀ text, verdict inUse text = .inr (.named name) → IsName inUse name := by
    intro text hv
    rw [verdict] at hv
    split at hv
    · rename_i hname
      cases hv
      exact isName_of_validateName hname
    · cases hv
  cases t with
  | inr ending => exact ht name h
  | inl text =>
    cases e with
    | input _ | cancel | closed => cases h
    | submit => exact hverdict text h
    | key k =>
      rw [judge] at h
      split at h
      · exact hverdict text h
      · cases h

theorem isName_of_foldl_judge {events : List NameEvent} {t : String ⊕ Ending} {name : String}
    (ht : ∀ name, t = .inr (.named name) → IsName inUse name)
    (h : events.foldl (judge inUse) t = .inr (.named name)) : IsName inUse name := by
  induction events generalizing t with
  | nil => exact ht name h
  | cons e events ih => exact ih (fun _ hname ↦ isName_of_judge ht hname) h

/-! ## The button -/

/-- The button shows what the check would say of the text, unless the text has changed since. -/
def IsUpToDate (inUse : List String) (d : Dialog) : Prop :=
  d.checkAt = none → d.submitEnabled = (validateName inUse d.text).isOk

/-- A dialog, or how it ended, is what has been read. -/
def Agrees (inUse : List String) : Dialog ⊕ Ending → String ⊕ Ending → Prop
  | .inl d, .inl text => d.text = text ∧ d.IsUpToDate inUse
  | .inr ending, .inr ending' => ending = ending'
  | _, _ => False

theorem isUpToDate_initial : initial.IsUpToDate inUse := fun _ ↦ rfl

theorem submitEnabled_ofCheck (r : Except NameFault String) :
    (FieldState.ofCheck r).submitEnabled = r.isOk := by
  cases r <;> rfl

@[simp] theorem text_settle (d : Dialog) : (d.settle inUse).2.text = d.text := by rw [settle]

theorem submitEnabled_check (d : Dialog) :
    (d.check inUse).submitEnabled = (validateName inUse d.text).isOk := by
  rw [check, submitEnabled_ofCheck]

@[simp] theorem submitEnabled_settle (d : Dialog) :
    (d.settle inUse).2.submitEnabled = (validateName inUse d.text).isOk := by
  rw [settle, submitEnabled_check]

theorem isUpToDate_settle (d : Dialog) : (d.settle inUse).2.IsUpToDate inUse := fun _ ↦ by
  rw [submitEnabled_settle, text_settle]

/-- A button that is up to date lets through what the check accepts, and nothing else. -/
theorem agrees_submitChecked {d : Dialog} {text : String} (htext : d.text = text)
    (hd : d.submitEnabled = (validateName inUse text).isOk) :
    Agrees inUse (d.submitChecked inUse).next (verdict inUse text) := by
  rw [submitChecked, verdict, htext, hd]
  cases hname : validateName inUse text with
  | ok name =>
    have hself := Page.Markup.escapeText_eq_self (isName_of_validateName hname)
    simp only [Except.isOk, Except.toBool, if_true, hself, Agrees]
  | error f =>
    -- the click is refused, and the button is still up to date
    simp only [Except.isOk, Except.toBool, Bool.false_eq_true, if_false, Agrees]
    refine ⟨htext, fun _ ↦ ?_⟩
    rw [hd, htext]

theorem submit_of_checked {d : Dialog} (hcheck : d.checkAt = none) :
    d.submit inUse = d.submitChecked inUse := by
  rw [submit, hcheck]

theorem next_submit_of_unchecked {d : Dialog} {k : Nat} (hcheck : d.checkAt = some k) :
    (d.submit inUse).next = ((d.settle inUse).2.submitChecked inUse).next := by
  rw [submit, hcheck]

theorem shown_submit_of_unchecked {d : Dialog} {k : Nat} (hcheck : d.checkAt = some k) :
    (d.submit inUse).shown = d.check inUse :: ((d.settle inUse).2.submitChecked inUse).shown := by
  simp only [submit, hcheck, settle]

theorem agrees_submit {d : Dialog} (hd : d.IsUpToDate inUse) :
    Agrees inUse (d.submit inUse).next (verdict inUse d.text) := by
  cases hcheck : d.checkAt with
  | none =>
    rw [submit_of_checked hcheck]
    exact agrees_submitChecked rfl (hd hcheck)
  | some k =>
    rw [next_submit_of_unchecked hcheck]
    exact agrees_submitChecked (text_settle d) (submitEnabled_settle d)

/-- **A dialog reacts to an event** as if there were no button and no clock. -/
theorem agrees_handle {d : Dialog} (hd : d.IsUpToDate inUse) (now : Nat) (e : NameEvent) :
    Agrees inUse (d.handle inUse now e).next (judge inUse (.inl d.text) e) := by
  cases e with
  | input text => exact ⟨rfl, fun hcheck ↦ nomatch hcheck⟩
  | submit => exact agrees_submit hd
  | cancel | closed => rfl
  | key name =>
    rw [handle, judge]
    by_cases hname : name = "Enter"
    · rw [if_pos hname, if_pos hname]
      exact agrees_submit hd
    · rw [if_neg hname, if_neg hname]
      exact ⟨rfl, hd⟩

theorem Agrees.cases {r : Dialog ⊕ Ending} {t : String ⊕ Ending} (h : Agrees inUse r t) :
    (∃ d, r = .inl d ∧ t = .inl d.text ∧ d.IsUpToDate inUse) ∨
      ∃ ending, r = .inr ending ∧ t = .inr ending := by
  match r, t with
  | .inl d, .inl text =>
    obtain ⟨rfl, hd⟩ := h
    exact Or.inl ⟨d, rfl, rfl, hd⟩
  | .inr ending, .inr _ =>
    obtain rfl : ending = _ := h
    exact Or.inr ⟨ending, rfl, rfl⟩
  | .inl _, .inr _ => exact h.elim
  | .inr _, .inl _ => exact h.elim

end PasskeyCeremony.Dialog
