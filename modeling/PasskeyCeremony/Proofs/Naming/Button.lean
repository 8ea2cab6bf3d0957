import PasskeyCeremony.Proofs.Naming.Feedback

/-!
# The button of the naming dialog

Between two moves, a dialog remembers whether its button can be clicked. What it remembers is what
was shown last, and once nothing is left to be checked it is the verdict on the latest text
(`UpToDate`). While a check is pending the button may be out of date, but a click checks first, so a
click that counts always has a name to end with (`UpToDate.click`).

`Reached` has no clock: an event may be handed over at any time, also after the end of a quiet
period that has not been taken notice of. So what holds of all that is reached does not depend on
who comes first, and every run of the prompt is a case of it (`reached_run`).
-/

namespace PasskeyCeremony

/-- The event is a click on the button that submits, or counts as one. -/
def NameEvent.clicks : NameEvent → Bool
  | .submit => true
  | .key name => name = "Enter"
  | .input _ | .cancel | .closed => false

namespace Dialog

variable {inUse : List String} {now : Nat} {e : NameEvent} {d d' : Dialog}

/-- The dialog when it decides whether a click counts: a text that has not been checked is checked
first. -/
def atClick (inUse : List String) (d : Dialog) : Dialog :=
  match d.checkAt with
  | none => d
  | some _ => (d.settle inUse).2

theorem submitEnabled_atClick (hd : d.IsUpToDate inUse) :
    (d.atClick inUse).submitEnabled = (validateName inUse d.text).isOk := by
  rw [atClick]
  cases hcheck : d.checkAt with
  | none => exact hd hcheck
  | some k => exact submitEnabled_settle d

theorem judge_of_clicks (he : e.clicks = true) (text : String) :
    judge inUse (.inl text) e = verdict inUse text := by
  cases e with
  | submit => rfl
  | key name => exact if_pos (of_decide_eq_true he)
  | input _ | cancel | closed => cases he

theorem isOk_iff {r : Except NameFault String} : r.isOk = true ↔ ∃ name, r = .ok name := by
  cases r with
  | ok name => exact iff_of_true rfl ⟨name, rfl⟩
  | error _ => exact iff_of_false Bool.false_ne_true nofun

theorem next_handle_of_clicks (hd : d.IsUpToDate inUse) (he : e.clicks = true) {name : String}
    (hname : validateName inUse d.text = .ok name) (now : Nat) :
    (d.handle inUse now e).next = .inr (.named name) := by
  have hagrees := agrees_handle hd now e
  rw [judge_of_clicks he, verdict, hname] at hagrees
  rcases hagrees.cases with ⟨_, -, h, -⟩ | ⟨ending, hnext, h⟩
  · cases h
  · rw [hnext, Sum.inr.inj h]

/-! ## What was shown last -/

/-- The button as it was shown last, or as it was before. -/
def enabledAfter (before : Bool) (shown : List FieldState) : Bool :=
  (shown.getLast?.map (·.submitEnabled)).getD before

@[simp] theorem enabledAfter_nil (before : Bool) : enabledAfter before [] = before := rfl

@[simp] theorem enabledAfter_cons (before : Bool) (s : FieldState) (shown : List FieldState) :
    enabledAfter before (s :: shown) = enabledAfter s.submitEnabled shown := by
  rw [enabledAfter, enabledAfter, List.getLast?_cons]
  cases shown.getLast? <;> rfl

theorem enabledAfter_submitChecked (h : (d.submitChecked inUse).next = .inl d') :
    d'.submitEnabled = enabledAfter d.submitEnabled (d.submitChecked inUse).shown := by
  rw [shown_submitChecked]
  rw [submitChecked] at h
  split at h
  · rename_i henabled
    rw [if_pos henabled, enabledAfter_cons, enabledAfter_nil]
    cases hname : validateName inUse d.text with
    | ok name =>
      rw [hname] at h
      cases h
    | error f =>
      rw [hname] at h
      rw [← Sum.inl.inj h]
  · rename_i hdisabled
    rw [if_neg hdisabled, enabledAfter_nil, ← Sum.inl.inj h]

theorem enabledAfter_submit (h : (d.submit inUse).next = .inl d') :
    d'.submitEnabled = enabledAfter d.submitEnabled (d.submit inUse).shown := by
  cases hcheck : d.checkAt with
  | none =>
    rw [submit_of_checked hcheck] at h ⊢
    exact enabledAfter_submitChecked h
  | some k =>
    rw [next_submit_of_unchecked hcheck] at h
    rw [shown_submit_of_unchecked hcheck, enabledAfter_cons, submitEnabled_check,
      ← submitEnabled_settle]
    exact enabledAfter_submitChecked h

/-- A dialog that goes on remembers what it has shown. -/
theorem enabledAfter_handle (h : (d.handle inUse now e).next = .inl d') :
    d'.submitEnabled = enabledAfter d.submitEnabled (d.handle inUse now e).shown := by
  cases e with
  | input text =>
    rw [← Sum.inl.inj h]
    rfl
  | submit => exact enabledAfter_submit h
  | cancel | closed => cases h
  | key name =>
    rw [handle] at h ⊢
    split at h
    · rename_i hname
      rw [if_pos hname]
      exact enabledAfter_submit h
    · rename_i hname
      rw [if_neg hname, ← Sum.inl.inj h]
      rfl

end Dialog

namespace Naming

variable {inUse : List String} {told : List Inner} {d : Dialog} {s : State} {n : Nat} {m : Move}
  {p : Progress} {moves : List Move} {h : History}

/-! ## What is reached -/

def Inner.text? : Inner → Option String
  | event e => e.text?
  | render _ => none

def Inner.shown? : Inner → Option FieldState
  | render shown => some shown
  | event _ => none

/-- The latest text; the field is empty at first. -/
def lastText (told : List Inner) : String := (told.filterMap Inner.text?).getLast?.getD ""

def lastShown? (told : List Inner) : Option FieldState := (told.filterMap Inner.shown?).getLast?

/-- What a dialog that goes on can come to, whatever the view hands over and however long it takes,
together with all that was rendered and handed over. -/
inductive Reached (inUse : List String) : List Inner → Dialog → Prop where
  | opened : Reached inUse [.render .initial] .initial
  /-- A quiet period ends. -/
  | settled {told : List Inner} {d : Dialog} {k : Nat} (hd : Reached inUse told d)
      (hcheck : d.checkAt = some k) :
      Reached inUse (told ++ [.render (d.settle inUse).1]) (d.settle inUse).2
  /-- An event is handed over that does not end the dialog. -/
  | handled {told : List Inner} {d d' : Dialog} (hd : Reached inUse told d) (now : Nat)
      (e : NameEvent) (hnext : (d.handle inUse now e).next = .inl d') :
      Reached inUse (told ++ .event e :: (d.handle inUse now e).shown.map .render) d'

/-- What a dialog remembers is what was told. -/
structure UpToDate (inUse : List String) (told : List Inner) (d : Dialog) : Prop where
  text : d.text = lastText told
  /-- The button is remembered as it was shown last. -/
  shown : (lastShown? told).map (·.submitEnabled) = some d.submitEnabled
  /-- Where no check is pending, it can be clicked if the latest text is good. -/
  judged : d.checkAt = none →
    (d.submitEnabled = true ↔ ∃ name, validateName inUse (lastText told) = .ok name)
  /-- A click that counts has a name to end with. -/
  click : ∀ e : NameEvent, e.clicks = true → (d.atClick inUse).submitEnabled = true →
    ∃ name, validateName inUse (lastText told) = .ok name ∧
      ∀ now, (d.handle inUse now e).next = .inr (.named name)

theorem lastText_render (told : List Inner) (s : FieldState) :
    lastText (told ++ [.render s]) = lastText told := by
  rw [lastText, List.filterMap_append]
  exact congrArg (·.getLast?.getD "") (List.append_nil _)

theorem lastText_event (told : List Inner) (e : NameEvent) (shown : List FieldState) :
    lastText (told ++ .event e :: shown.map .render) = e.text?.getD (lastText told) := by
  have hrenders : (shown.map Inner.render).filterMap Inner.text? = [] := by
    rw [List.filterMap_map, List.filterMap_eq_nil_iff]
    exact fun _ _ ↦ rfl
  rw [lastText, List.filterMap_append, List.filterMap_cons, hrenders, Inner.text?]
  cases e.text? with
  | none => exact congrArg (·.getLast?.getD "") (List.append_nil _)
  | some text => rw [List.getLast?_concat]; rfl

theorem lastShown?_render (told : List Inner) (s : FieldState) :
    lastShown? (told ++ [.render s]) = some s := by
  rw [lastShown?, List.filterMap_append]
  exact List.getLast?_concat

@[simp] theorem lastShown?_append (told : List Inner) (e : NameEvent) (shown : List FieldState) :
    lastShown? (told ++ .event e :: shown.map .render) = shown.getLast?.or (lastShown? told) := by
  have hrenders : (shown.map Inner.render).filterMap Inner.shown? = shown := by
    rw [List.filterMap_map]
    exact List.filterMap_some
  rw [lastShown?, List.filterMap_append, List.filterMap_cons_none rfl, hrenders,
    List.getLast?_append]
  rfl

/-- What a dialog keeps of what was told, without the clicks that are still to come. -/
structure Keeps (inUse : List String) (told : List Inner) (d : Dialog) : Prop where
  text : d.text = lastText told
  shown : (lastShown? told).map (·.submitEnabled) = some d.submitEnabled
  isUpToDate : d.IsUpToDate inUse

namespace Keeps

theorem opened : Keeps inUse [.render .initial] .initial where
  text := rfl
  shown := rfl
  isUpToDate := Dialog.isUpToDate_initial

theorem settled (hkeeps : Keeps inUse told d) :
    Keeps inUse (told ++ [.render (d.settle inUse).1]) (d.settle inUse).2 where
  text := by rw [Dialog.text_settle, lastText_render, hkeeps.text]
  shown := by
    rw [lastShown?_render, Option.map_some, Dialog.settle]
  isUpToDate := Dialog.isUpToDate_settle d

theorem handled {d' : Dialog} {now : Nat} {e : NameEvent} (hkeeps : Keeps inUse told d)
    (hnext : (d.handle inUse now e).next = .inl d') :
    Keeps inUse (told ++ .event e :: (d.handle inUse now e).shown.map .render) d' := by
  have hagrees := Dialog.agrees_handle hkeeps.isUpToDate now e
  rw [hnext] at hagrees
  rcases hagrees.cases with ⟨_, ⟨⟩, hjudge, hd'⟩ | ⟨_, ⟨⟩, -⟩
  refine ⟨?_, ?_, hd'⟩
  · rw [lastText_event, Dialog.text_of_judge hjudge, hkeeps.text]
  · rw [lastShown?_append, Option.map_or, hkeeps.shown, Dialog.enabledAfter_handle hnext,
      Dialog.enabledAfter]
    cases (d.handle inUse now e).shown.getLast? <;> rfl

theorem upToDate (hkeeps : Keeps inUse told d) : UpToDate inUse told d where
  text := hkeeps.text
  shown := hkeeps.shown
  judged hcheck := by rw [hkeeps.isUpToDate hcheck, Dialog.isOk_iff, hkeeps.text]
  click e he henabled := by
    rw [Dialog.submitEnabled_atClick hkeeps.isUpToDate, Dialog.isOk_iff] at henabled
    obtain ⟨name, hname⟩ := henabled
    refine ⟨name, ?_, Dialog.next_handle_of_clicks hkeeps.isUpToDate he hname⟩
    rw [← hkeeps.text, hname]

end Keeps

/-- **Whatever is reached** is up to date. -/
theorem Reached.upToDate (hd : Reached inUse told d) : UpToDate inUse told d := by
  suffices Keeps inUse told d from this.upToDate
  induction hd with
  | opened => exact .opened
  | settled _ _ ih => exact ih.settled
  | handled _ now e hnext ih => exact ih.handled hnext

/-! ## Runs -/

/-- What the view is told and hands over for one call. -/
def callsOf (n : Nat) (calls : List (Nat × NamingCall)) : List NamingCall :=
  calls.filterMap fun c ↦ if c.1 = n then some c.2 else none

theorem callsOf_extend (h : History) (m : Move) (p : Progress) :
    callsOf n (machine.extend h m p).calls =
      callsOf n h.calls ++ if machine.number h.state m = n then p.calls else [] := by
  rw [Machine.extend, callsOf, List.filterMap_append, ← callsOf, List.filterMap_map]
  congr 1
  split
  · rename_i hm
    exact (List.filterMap_congr fun c _ ↦ if_pos hm).trans List.filterMap_some
  · rename_i hm
    exact List.filterMap_eq_nil_iff.mpr fun c _ ↦ if_neg hm

theorem callsOf_of_waiting {c : Call} (hrun : run .initial moves = some h)
    (hcall : h.state.call? n = some c) (hdialog : c.dialog = none) : callsOf n h.calls = [] := by
  obtain ⟨fates, hfates⟩ := fates_run hrun
  have hpending := hfates.pending n
  rw [hcall, Option.map_some, hdialog] at hpending
  obtain ⟨f, hf, hwaiting⟩ := Option.bind_eq_some_iff.mp hpending.symm
  obtain rfl := Fate.eq_waiting hwaiting.symm
  refine List.filterMap_eq_nil_iff.mpr fun c hc ↦ if_neg ?_
  rintro rfl
  rw [hfates.calls] at hc
  obtain ⟨g, hg, hmem⟩ := mem_numbered.mp hc
  obtain rfl := Option.some.inj (hf.symm.trans hg)
  exact absurd hmem List.not_mem_nil

/-- The dialog of a call has been reached, and this is what its call has told the view. -/
def ReachedBy (n : Nat) (h : History) (inUse : List String) (d : Dialog) : Prop :=
  ∃ told, Reached inUse told d ∧
    callsOf n h.calls = [.show Dialog.fieldLength, .attach] ++ told.map Inner.call

theorem ReachedBy.extend {told : List Inner} {d' : Dialog}
    (hreached : ReachedBy n h inUse d) (hm : m.caller? = some n)
    (hcalls : p.calls = told.map Inner.call)
    (hnext : ∀ before, Reached inUse before d → Reached inUse (before ++ told) d') :
    ReachedBy n (machine.extend h m p) inUse d' := by
  obtain ⟨before, hd, hbefore⟩ := hreached
  refine ⟨before ++ told, hnext before hd, ?_⟩
  rw [callsOf_extend, if_pos (machine.number_of_caller? hm), hbefore, hcalls, List.map_append,
    List.append_assoc]

theorem Steps.exists_open (hsteps : Steps s m p) (hm : m.Plays n) :
    ∃ inUse d, s.Open n inUse d := by
  cases hsteps with
  | start | «open» | refuse | drop => exact hm.elim
  | goOn hc hdialog hplays | close hc hdialog hplays =>
    obtain rfl := Option.some.inj (hplays.caller?.symm.trans hm.caller?)
    exact ⟨_, _, by rw [State.Open, hc, ← hdialog]⟩

theorem ReachedBy.opened {c : Call} (hrun : run .initial moves = some h)
    (hcall : h.state.call? c.number = some c) (hdialog : c.dialog = none)
    (hopen : (h.state.setDialog c.number .initial).Open c.number inUse d) :
    ReachedBy c.number (machine.extend h (.show c.number true)
      ⟨h.state.setDialog c.number .initial, setup true, none⟩) inUse d := by
  have hinitial : (h.state.setDialog c.number .initial).Open c.number c.inUse .initial :=
    State.open_setDialog hcall .initial
  obtain ⟨rfl, rfl⟩ := hinitial.unique hopen
  refine ⟨_, .opened, ?_⟩
  rw [callsOf_extend, if_pos (machine.number_of_caller? rfl), callsOf_of_waiting hrun hcall hdialog]
  rfl

theorem ReachedBy.settled {now : Nat} (hreached : ReachedBy n h inUse d)
    (hcheck : d.checkAt = some now) :
    ReachedBy n (machine.extend h (.settle n now) ⟨h.state.setDialog n (d.settle inUse).2,
      [.render (d.settle inUse).1], none⟩) inUse (d.settle inUse).2 := by
  have hcalls : [NamingCall.render (d.settle inUse).1] =
      [Inner.render (d.settle inUse).1].map Inner.call := rfl
  exact hreached.extend rfl hcalls fun _ hbefore ↦ .settled hbefore hcheck

theorem ReachedBy.handled {d' : Dialog} {now : Nat} {e : NameEvent}
    (hreached : ReachedBy n h inUse d) (hnext : (d.handle inUse now e).next = .inl d') :
    ReachedBy n (machine.extend h (.event n now e) ⟨h.state.setDialog n d',
      .event e :: (d.handle inUse now e).shown.map .render, none⟩) inUse d' :=
  hreached.extend rfl (map_call_event e _) fun _ hbefore ↦ .handled hbefore now e hnext

/-- A move of a call whose dialog is open afterwards has opened it or played it. -/
theorem reachedBy_of_caller (hrun : run .initial moves = some h)
    (hreached : ∀ {inUse d}, h.state.Open n inUse d → ReachedBy n h inUse d)
    (hm : m.caller? = some n) (hp : step h.state m = some p) (hopen : p.state.Open n inUse d) :
    ReachedBy n (machine.extend h m p) inUse d := by
  have hsteps := steps_of_step hp
  cases m with
  | start _ => cases hm
  | «show» k found =>
    obtain rfl := Option.some.inj hm
    cases hsteps with
    | «open» hc hdialog => exact .opened hrun hc hdialog hopen
    | refuse => cases State.call?_remove_self.symm.trans hopen
    | goOn _ _ hplays | close _ _ hplays => exact hplays.elim
  | drop k =>
    obtain rfl := Option.some.inj hm
    cases hsteps with
    | drop => cases State.call?_remove_self.symm.trans hopen
    | goOn _ _ hplays | close _ _ hplays => exact hplays.elim
  | settle k now =>
    obtain rfl := Option.some.inj hm
    obtain ⟨_, _, hbefore⟩ := hsteps.exists_open rfl
    obtain ⟨hcheck, rfl⟩ := (step_settle hbefore).mp hp
    obtain ⟨rfl, rfl⟩ := (hbefore.setDialog _).unique hopen
    exact (hreached hbefore).settled hcheck
  | event k now e =>
    obtain rfl := Option.some.inj hm
    obtain ⟨inUse', d', hbefore⟩ := hsteps.exists_open rfl
    obtain ⟨-, rfl⟩ := (step_event hbefore).mp hp
    rw [afterEvent] at hopen ⊢
    cases hnext : (d'.handle inUse' now e).next with
    | inl next =>
      rw [hnext] at hopen
      obtain ⟨rfl, rfl⟩ := (hbefore.setDialog next).unique hopen
      exact (hreached hbefore).handled hnext
    | inr ending =>
      rw [hnext] at hopen
      cases State.call?_remove_self.symm.trans hopen

/-- **Every open dialog of a run** has been reached. -/
theorem reached_run (hrun : run .initial moves = some h) (hopen : h.state.Open n inUse d) :
    ReachedBy n h inUse d := by
  refine Machine.run_induction (M := machine)
    (motive := fun _ h ↦ ∀ inUse d, h.state.Open n inUse d → ReachedBy n h inUse d)
    (fun _ _ hopen ↦ nomatch hopen) ?_ hrun inUse d hopen
  intro moves before m p hbefore ih hp inUse d hopen
  by_cases hm : m.caller? = some n
  · exact reachedBy_of_caller hbefore (ih _ _) hm hp hopen
  · -- Another call has no say in a dialog that is not its own.
    have hopen' := (steps_of_step hp).open_of_ne hm hopen
    obtain ⟨told, hd, htold⟩ := ih _ _ hopen'
    refine ⟨told, hd, ?_⟩
    rw [callsOf_extend, if_neg (number_ne hm (number_lt_of_run hbefore hopen')), htold,
      List.append_nil]

/-- **The button of the naming dialog** is up to date between any two moves, whatever the view hands
over and when: it is remembered as it was shown last, once no check is pending it is the verdict on
the latest text, and a click that counts ends the dialog with a name. This holds of whatever can be
reached, and every dialog that is open after a run of the prompt has been reached by what its call
has told the view. -/
theorem button_up_to_date :
    (∀ inUse told d, Reached inUse told d → UpToDate inUse told d) ∧
    ∀ moves h n inUse d, run .initial moves = some h → h.state.Open n inUse d →
      ∃ told, Reached inUse told d ∧ UpToDate inUse told d ∧
        callsOf n h.calls = [.show Dialog.fieldLength, .attach] ++ told.map Inner.call := by
  refine ⟨fun _ _ _ ↦ Reached.upToDate, fun moves h n inUse d hrun hopen ↦ ?_⟩
  obtain ⟨told, hd, htold⟩ := reached_run hrun hopen
  exact ⟨told, hd, hd.upToDate, htold⟩

/-- After a good text has been checked, a click would end the dialog with its name. -/
theorem button_up_to_date_key :
    ∃ h d told, run .initial [.start ["work"], .show 0 true, .event 0 0 (.input "Key"),
        .settle 0 150] = some h ∧ h.state.Open 0 ["work"] d ∧
      callsOf 0 h.calls = [.show Dialog.fieldLength, .attach] ++ told.map Inner.call ∧
      (lastShown? told).map (·.submitEnabled) = some true ∧
      (d.handle ["work"] 200 (.key "Enter")).next = .inr (.named "Key") := by
  let moves : List Move := [.start ["work"], .show 0 true, .event 0 0 (.input "Key"), .settle 0 150]
  have hmade : (run .initial moves).map (·.state) =
      some ⟨1, [⟨0, ["work"], some ⟨"Key", true, none⟩⟩]⟩ := by decide +kernel
  obtain ⟨h, hrun, hstate⟩ := Option.map_eq_some_iff.mp hmade
  have hopen : h.state.Open 0 ["work"] ⟨"Key", true, none⟩ := by
    rw [State.Open, hstate]
    rfl
  obtain ⟨told, -, hd, htold⟩ := button_up_to_date.2 moves h 0 _ _ hrun hopen
  obtain ⟨name, hname, hclick⟩ := hd.click (.key "Enter") rfl rfl
  rw [← hd.text] at hname
  have hkey : validateName ["work"] "Key" = .ok "Key" := by decide +kernel
  obtain rfl := Except.ok.inj (hkey.symm.trans hname)
  exact ⟨h, _, told, hrun, hopen, htold, hd.shown, hclick 200⟩

end Naming

end PasskeyCeremony
