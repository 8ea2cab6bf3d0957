import Mathlib.Data.List.Basic
import PasskeyCeremony.Proofs.Prompt.Dialog

/-!
# What the naming dialog shows

What a dialog shows can be told from its script, the events of the user with their times, without
the dialog (`feedback`). A change of the text is shown at the end of its quiet period, unless
something that counts happens before; a click shows a text that has not been looked at, and shows a
good text once more. A key other than enter does not count.

A dialog that has read a part of the script keeps three things of it (`Tracks`): the text, whether
the button is up to date, and when the next check is due. What it shows for an event, and is still
to show, is what the script says (`Tracks.shown_handle`).
-/

namespace PasskeyCeremony

def NameEvent.counts : NameEvent → Bool
  | .key name => name = "Enter"
  | .input _ | .submit | .cancel | .closed => true

theorem NameEvent.counts_of_eq {name : String} (h : name = "Enter") :
    (NameEvent.key name).counts = true :=
  decide_eq_true h

theorem NameEvent.counts_of_ne {name : String} (h : name ≠ "Enter") :
    (NameEvent.key name).counts = false :=
  decide_eq_false h

def NameEvent.text? : NameEvent → Option String
  | .input text => some text
  | .submit | .cancel | .key _ | .closed => none

namespace Dialog

/-! ## Scripts -/

/-- Events of the user, each with the time at which it is handed over. -/
abbrev Script := List (Nat × NameEvent)

/-- The text that was typed last; the field is empty at first. -/
def typed (before : Script) : String := (before.filterMap (·.2.text?)).getLast?.getD ""

/-- When a change of the text would be shown if nothing more happened, where that is what happened
last. -/
def deadline? (before : Script) : Option Nat :=
  match (before.filter (·.2.counts)).getLast? with
  | some (t, .input _) => some (t + quietPeriod)
  | _ => none

/-- A check that is due at `k` is made: this is not after the `stop`, and nothing that counts
happens before. -/
def Undisturbed (stop k : Nat) (after : Script) : Prop :=
  k ≤ stop ∧ ∀ te ∈ after, te.2.counts → k ≤ te.1

instance (stop k : Nat) (after : Script) : Decidable (Undisturbed stop k after) :=
  inferInstanceAs (Decidable (_ ∧ _))

/-- What a click on the button that submits shows: the latest text if it has not been looked at, and
again if it is good. -/
def shownAtClick (inUse : List String) (before : Script) (t : Nat) : List (Nat × FieldState) :=
  let result := validateName inUse (typed before)
  (if (deadline? before).any (t < ·) then [(t, .ofCheck result)] else []) ++
    if result.isOk then [(t, .ofCheck result)] else []

/-- What is shown for an event, given what was before and what comes after it. -/
def shownFor (inUse : List String) (stop : Nat) (before after : Script) (t : Nat) :
    NameEvent → List (Nat × FieldState)
  | .input text =>
    if Undisturbed stop (t + quietPeriod) after then
      [(t + quietPeriod, .ofCheck (validateName inUse text))]
    else []
  | .submit => shownAtClick inUse before t
  | .key name => if name = "Enter" then shownAtClick inUse before t else []
  | .cancel | .closed => []

/-- What is shown for the rest of a script up to the `stop`, with the times. -/
def feedback (inUse : List String) (stop : Nat) (before : Script) :
    Script → List (Nat × FieldState)
  | [] => []
  | (t, e) :: after =>
    shownFor inUse stop before after t e ++ feedback inUse stop (before ++ [(t, e)]) after

variable {inUse : List String} {stop now t k : Nat} {before after : Script} {d d' : Dialog}
  {e : NameEvent}

@[simp] theorem typed_concat : typed (before ++ [(t, e)]) = e.text?.getD (typed before) := by
  rw [typed, List.filterMap_append]
  cases e with
  | input text => simp [NameEvent.text?]
  | submit | cancel | key _ | closed => simp [NameEvent.text?, typed]

theorem deadline?_concat_of_not_counts (h : e.counts = false) :
    deadline? (before ++ [(t, e)]) = deadline? before := by
  simp [deadline?, h]

theorem deadline?_concat_of_counts (h : e.counts = true) :
    deadline? (before ++ [(t, e)]) = e.text?.map fun _ ↦ t + quietPeriod := by
  rw [deadline?]
  cases e <;> simp [NameEvent.text?, h]

theorem text_of_judge {text text' : String} (h : judge inUse (.inl text) e = .inl text') :
    text' = e.text?.getD text := by
  have hverdict : ∀ text', verdict inUse text = .inl text' → text' = text := by
    intro text' hv
    rw [verdict] at hv
    split at hv
    · cases hv
    · exact (Sum.inl.inj hv).symm
  cases e with
  | input text => exact (Sum.inl.inj h).symm
  | submit => exact hverdict text' h
  | cancel | closed => cases h
  | key name =>
    rw [judge] at h
    split at h
    · exact hverdict text' h
    · exact (Sum.inl.inj h).symm

/-! ## Dialogs -/

/-- What a dialog is still to show at the end of a quiet period that has begun. -/
def coming (inUse : List String) (stop : Nat) (d : Dialog) (after : Script) :
    List (Nat × FieldState) :=
  match d.checkAt with
  | none => []
  | some k => if Undisturbed stop k after then [(k, d.check inUse)] else []

/-- What a dialog keeps of the events that it has read, at the time of the last of them or of a
later check. -/
structure Tracks (inUse : List String) (before : Script) (now : Nat) (d : Dialog) : Prop where
  text : d.text = typed before
  isUpToDate : d.IsUpToDate inUse
  pending : ∀ k, d.checkAt = some k → deadline? before = some k
  settled : d.checkAt = none → ∀ k, deadline? before = some k → k ≤ now

theorem tracks_initial : Tracks inUse [] now .initial where
  text := rfl
  isUpToDate := isUpToDate_initial
  pending := nofun
  settled := nofun

theorem coming_eq_nil (hcheck : d.checkAt = none) : coming inUse stop d after = [] := by
  rw [coming, hcheck]

theorem coming_of_le (hcheck : d.checkAt = some k) (hstop : k ≤ stop)
    (hafter : ∀ te ∈ after, k ≤ te.1) : coming inUse stop d after = [(k, d.check inUse)] := by
  rw [coming, hcheck]
  exact if_pos ⟨hstop, fun te hte _ ↦ hafter te hte⟩

theorem coming_of_stop_lt (hcheck : ∀ k, d.checkAt = some k → stop < k) :
    coming inUse stop d after = [] := by
  rw [coming]
  cases h : d.checkAt with
  | none => rfl
  | some k => exact if_neg fun hk ↦ absurd hk.1 (Nat.not_le.mpr (hcheck k h))

theorem coming_of_counts (hcounts : e.counts = true) (hcheck : ∀ k, d.checkAt = some k → t < k) :
    coming inUse stop d ((t, e) :: after) = [] := by
  rw [coming]
  cases h : d.checkAt with
  | none => rfl
  | some k =>
    apply if_neg
    intro hk
    exact absurd (hk.2 _ List.mem_cons_self hcounts) (Nat.not_le.mpr (hcheck k h))

theorem coming_of_not_counts (hcounts : e.counts = false) :
    coming inUse stop d ((t, e) :: after) = coming inUse stop d after := by
  have hiff : ∀ k, Undisturbed stop k ((t, e) :: after) ↔ Undisturbed stop k after := by
    intro k
    simp [Undisturbed, hcounts]
  rw [coming, coming]
  simp only [hiff]

theorem Tracks.settle (htracks : Tracks inUse before now d) (hcheck : d.checkAt = some k) :
    Tracks inUse before k (d.settle inUse).2 where
  text := by rw [text_settle, htracks.text]
  isUpToDate := isUpToDate_settle d
  pending := nofun
  settled _ k' hk' := by
    rw [htracks.pending k hcheck] at hk'
    exact Nat.le_of_eq (Option.some.inj hk').symm

/-! ## Clicks -/

theorem shown_submitChecked :
    (d.submitChecked inUse).shown = if d.submitEnabled then [d.check inUse] else [] := by
  rw [submitChecked]
  split
  · cases validateName inUse d.text <;> rfl
  · rfl

theorem checkAt_submitChecked (h : (d.submitChecked inUse).next = .inl d') :
    d'.checkAt = d.checkAt := by
  rw [submitChecked] at h
  split at h
  · cases hname : validateName inUse d.text <;> simp only [hname] at h <;> cases h
    rfl
  · rw [← Sum.inl.inj h]

theorem checkAt_submit (h : (d.submit inUse).next = .inl d') : d'.checkAt = none := by
  cases hcheck : d.checkAt with
  | none =>
    rw [submit_of_checked hcheck] at h
    rw [checkAt_submitChecked h, hcheck]
  | some k =>
    rw [next_submit_of_unchecked hcheck] at h
    exact checkAt_submitChecked h

/-- **A click** shows what the script says. -/
theorem Tracks.shown_submit (htracks : Tracks inUse before now d) (hnow : now ≤ t)
    (hdue : ∀ k, d.checkAt = some k → t < k) :
    (d.submit inUse).shown.map (t, ·) = shownAtClick inUse before t := by
  have hcheck : d.check inUse = .ofCheck (validateName inUse (typed before)) := by
    rw [check, htracks.text]
  rw [shownAtClick]
  cases hpending : d.checkAt with
  | none =>
    have hlooked : (deadline? before).any (t < ·) = false := by
      rw [Option.any_eq_false]
      intro k hk
      have hle := htracks.settled hpending k hk
      simp only [decide_eq_false_iff_not]
      omega
    have henabled : d.submitEnabled = (validateName inUse (typed before)).isOk := by
      rw [htracks.isUpToDate hpending, htracks.text]
    rw [submit_of_checked hpending, shown_submitChecked, henabled, hcheck, hlooked]
    split <;> rfl
  | some k =>
    have hlooked : (deadline? before).any (t < ·) = true := by
      rw [htracks.pending k hpending, Option.any_some]
      exact decide_eq_true (hdue k hpending)
    have henabled : (d.settle inUse).2.submitEnabled =
        (validateName inUse (typed before)).isOk := by
      rw [submitEnabled_settle, htracks.text]
    have hsettled : (d.settle inUse).2.check inUse = d.check inUse := by
      rw [check, text_settle, check]
    rw [shown_submit_of_unchecked hpending, shown_submitChecked, henabled, hsettled, hcheck,
      hlooked]
    split <;> rfl

/-! ## Events -/

theorem elim_coming_submit (d : Dialog) :
    (d.submit inUse).next.elim (coming inUse stop · after) (fun _ ↦ []) = [] := by
  cases hnext : (d.submit inUse).next with
  | inl d' => exact coming_eq_nil (checkAt_submit hnext)
  | inr ending => rfl

/-- **An event** shows what the script says, now or when the text has been left alone; after the end
nothing is shown. -/
theorem Tracks.shown_handle (htracks : Tracks inUse before now d) (hnow : now ≤ t)
    (hdue : ∀ k, d.checkAt = some k → t < k) (stop : Nat) (e : NameEvent) (after : Script) :
    (d.handle inUse t e).shown.map (t, ·) ++
        (d.handle inUse t e).next.elim (coming inUse stop · after) (fun _ ↦ []) =
      coming inUse stop d ((t, e) :: after) ++ shownFor inUse stop before after t e := by
  have hclick : (d.submit inUse).shown.map (t, ·) ++
      (d.submit inUse).next.elim (coming inUse stop · after) (fun _ ↦ []) =
        shownAtClick inUse before t := by
    rw [elim_coming_submit, htracks.shown_submit hnow hdue, List.append_nil]
  cases e with
  | input _ | cancel | closed =>
    rw [coming_of_counts rfl hdue]
    rfl
  | submit =>
    rw [coming_of_counts rfl hdue]
    exact hclick
  | key name =>
    rw [handle, shownFor]
    by_cases hname : name = "Enter"
    · rw [coming_of_counts (NameEvent.counts_of_eq hname) hdue, if_pos hname, if_pos hname]
      exact hclick
    · rw [coming_of_not_counts (NameEvent.counts_of_ne hname), if_neg hname, if_neg hname,
        List.append_nil]
      rfl

theorem checkAt_handle (hnext : (d.handle inUse t e).next = .inl d') :
    d'.checkAt = if e.counts then e.text?.map fun _ ↦ t + quietPeriod else d.checkAt := by
  cases e with
  | input text => rw [← Sum.inl.inj hnext]; rfl
  | submit => exact checkAt_submit hnext
  | cancel | closed => cases hnext
  | key name =>
    rw [handle] at hnext
    by_cases hname : name = "Enter"
    · rw [if_pos hname] at hnext
      rw [checkAt_submit hnext, if_pos (NameEvent.counts_of_eq hname)]
      rfl
    · rw [if_neg hname] at hnext
      rw [← Sum.inl.inj hnext, NameEvent.counts_of_ne hname]
      rfl

theorem Tracks.handle (htracks : Tracks inUse before now d) (hnow : now ≤ t)
    (hnext : (d.handle inUse t e).next = .inl d') : Tracks inUse (before ++ [(t, e)]) t d' := by
  have hagrees := agrees_handle htracks.isUpToDate t e
  rw [hnext] at hagrees
  obtain ⟨d'', hd'', hjudge, hupToDate⟩ | ⟨ending, hending, -⟩ := hagrees.cases
  · obtain rfl := Sum.inl.inj hd''
    have hcheck := checkAt_handle hnext
    refine ⟨?_, hupToDate, ?_, ?_⟩
    · rw [text_of_judge hjudge, typed_concat, htracks.text]
    · intro k hk
      by_cases hcounts : e.counts = true
      · rw [deadline?_concat_of_counts hcounts, ← hk, hcheck, if_pos hcounts]
      · rw [if_neg hcounts] at hcheck
        rw [Bool.not_eq_true] at hcounts
        rw [deadline?_concat_of_not_counts hcounts, htracks.pending k (hcheck ▸ hk)]
    · intro hnone k hk
      by_cases hcounts : e.counts = true
      · rw [if_pos hcounts] at hcheck
        rw [deadline?_concat_of_counts hcounts, ← hcheck, hnone] at hk
        cases hk
      · rw [if_neg hcounts] at hcheck
        rw [Bool.not_eq_true] at hcounts
        rw [deadline?_concat_of_not_counts hcounts] at hk
        exact Nat.le_trans (htracks.settled (hcheck ▸ hnone) k hk) hnow
  · cases hending

end Dialog

end PasskeyCeremony
