import PasskeyCeremony.Proofs.Naming.Moves

/-!
# The fate of a call

Every call of the naming prompt that has begun has a fate: it waits for the view, it left while it
waited, or it got hold of the view and then met with one of three things (`Fate`). With the fate
goes the block of the call, which is everything that the view was told by it, and what its caller
gets.

A fate changes only with a move of its own call, and in few ways (`Fate.Next`). So it says which of
the moves of the call have been made (`Told`), and a move lengthens the block of its call by what
the view is told (`Steps.advances`).
-/

namespace PasskeyCeremony.Naming

variable {s : State} {n k : Nat} {moves : List Move} {m : Move} {p : Progress}

/-! ## Fates -/

/-- What has become of a call. -/
inductive Fate where
  /-- It waits for the view. -/
  | waiting
  /-- Its caller dropped it while it waited. -/
  | left
  /-- It got hold of the view, which did not find the elements. -/
  | refused
  /-- Its dialog is open. -/
  | standing (inside : List Inner)
  /-- Its dialog has gone away, with an ending or because its caller dropped it. -/
  | closed (inside : List Inner) (ending : Option Dialog.Ending)
  deriving DecidableEq, Repr

namespace Fate

/-- The block of the call: what the view is told, what it hands over, and what the user is told
before the dialog goes away. -/
def calls : Fate → List NamingCall
  | waiting | left => []
  | refused => [.show Dialog.fieldLength]
  | standing inside =>
    [.show Dialog.fieldLength, .attach, .render .initial] ++ inside.map Inner.call
  | closed inside ending =>
    [.show Dialog.fieldLength, .attach, .render .initial] ++ inside.map Inner.call ++
      (ending.bind (·.toast?)).toList.map .toast ++ [.close, .reset, .detach]

/-- What its caller gets. -/
def answer? : Fate → Option (Except Failure (Option String))
  | refused => some (.error (.promptUnavailable "passkey name modal"))
  | closed _ ending => ending.map fun e ↦ .ok e.name?
  | waiting | left | standing _ => none

/-- Whether the elements were found, if it got hold of the view. -/
def found? : Fate → Option Bool
  | refused => some false
  | standing _ | closed _ _ => some true
  | waiting | left => none

/-- Whether its dialog is open, if the call is pending. -/
def open? : Fate → Option Bool
  | waiting => some false
  | standing _ => some true
  | left | refused | closed _ _ => none

/-- Its caller dropped it. -/
def Dropped : Fate → Prop
  | left | closed _ none => True
  | waiting | refused | standing _ | closed _ (some _) => False

theorem calls_eq_nil {f : Fate} (h : f.found? = none) : f.calls = [] := by
  cases f <;> first | rfl | cases h

theorem answer?_eq_none {f : Fate} (h : f.found? = none) : f.answer? = none := by
  cases f <;> first | rfl | cases h

/-- What a move of the call makes of its fate. -/
inductive Next (n : Nat) : Fate → Move → Fate → Prop where
  | open : Next n .waiting (.show n true) (.standing [])
  | refuse : Next n .waiting (.show n false) .refused
  | leave : Next n .waiting (.drop n) .left
  | goOn {m : Move} (hm : m.Plays n) (inside more : List Inner) :
      Next n (.standing inside) m (.standing (inside ++ more))
  | close {m : Move} (hm : m.Plays n) (inside more : List Inner) (ending : Dialog.Ending) :
      Next n (.standing inside) m (.closed (inside ++ more) (some ending))
  | drop (inside : List Inner) : Next n (.standing inside) (.drop n) (.closed inside none)

variable {f f' : Fate}

theorem Next.caller? (h : Next n f m f') : m.caller? = some n := by
  cases h with
  | goOn hm | close hm => exact hm.caller?
  | «open» | refuse | leave | drop => rfl

theorem Next.open?_ne_none (h : Next n f m f') : f.open? ≠ none := by
  cases h <;> exact Option.some_ne_none _

theorem Next.answer?_eq_none (h : Next n f m f') : f.answer? = none := by
  cases h <;> rfl

end Fate

/-- What calls have with their numbers, one call after the other. -/
def numbered {α : Type} (of : Fate → List α) (fates : List Fate) : List (Nat × α) :=
  fates.zipIdx.flatMap fun f ↦ (of f.1).map (f.2, ·)

section Numbered

variable {α : Type} {of : Fate → List α} {fates : List Fate}

theorem mem_numbered {a : α} :
    (n, a) ∈ numbered of fates ↔ ∃ f, fates[n]? = some f ∧ a ∈ of f := by
  simp only [numbered, List.mem_flatMap, List.mem_map, Prod.mk.injEq, Prod.exists,
    List.mem_zipIdx_iff_getElem?]
  constructor
  · rintro ⟨f, i, hf, a', ha, rfl, rfl⟩
    exact ⟨f, hf, ha⟩
  · rintro ⟨f, hf, ha⟩
    exact ⟨f, n, hf, a, ha, rfl, rfl⟩

@[simp] theorem numbered_concat (f : Fate) :
    numbered of (fates ++ [f]) = numbered of fates ++ (of f).map (fates.length, ·) := by
  simp [numbered, List.zipIdx_append]

/-- Where the later calls have nothing, what one call has more comes at the end. -/
theorem numbered_change {before after : List Fate} {f f' : Fate} {more : List α}
    (hmore : of f' = of f ++ more) (hafter : ∀ g ∈ after, of g = []) :
    numbered of (before ++ f' :: after) =
      numbered of (before ++ f :: after) ++ more.map (before.length, ·) := by
  have hnone : ∀ k, ((after.zipIdx k).flatMap fun g ↦ (of g.1).map (g.2, ·)) = [] := by
    intro k
    rw [List.flatMap_eq_nil_iff]
    intro g hg
    rw [hafter g.1 (List.fst_mem_of_mem_zipIdx hg), List.map_nil]
  simp [numbered, List.zipIdx_append, hmore, hnone]

end Numbered

/-! ## Moves of one call -/

/-- The caller of a call that has not got hold of the view drops it. -/
def LeavesWaiting (n : Nat) (moves : List Move) : Prop :=
  ∃ before, before ++ [.drop n] <+: moves ∧ ∀ found, .show n found ∉ before

theorem leavesWaiting_concat : LeavesWaiting n (moves ++ [m]) ↔
    LeavesWaiting n moves ∨ m = .drop n ∧ ∀ found, .show n found ∉ moves := by
  constructor
  · rintro ⟨before, hbefore, hshow⟩
    rcases List.prefix_concat_iff.mp hbefore with hall | hearlier
    · obtain ⟨rfl, hlast⟩ := List.append_inj' hall rfl
      exact Or.inr ⟨(List.singleton_inj.mp hlast).symm, hshow⟩
    · exact Or.inl ⟨before, hearlier, hshow⟩
  · rintro (⟨before, hbefore, hshow⟩ | ⟨rfl, hshow⟩)
    · exact ⟨before, hbefore.trans (List.prefix_append _ _), hshow⟩
    · exact ⟨moves, List.prefix_rfl, hshow⟩

/-- The fate of a call says which of its moves were made. -/
structure Told (n : Nat) (moves : List Move) (f : Fate) : Prop where
  shown : ∀ found, .show n found ∈ moves ↔ f.found? = some found
  dropped : .drop n ∈ moves ↔ f.Dropped
  left : LeavesWaiting n moves ↔ f = .left

namespace Told

variable {f f' : Fate}

theorem waiting (hnone : ∀ m ∈ moves, m.caller? ≠ some n) : Told n moves .waiting where
  shown found := ⟨fun hshow ↦ absurd rfl (hnone _ hshow), nofun⟩
  dropped := ⟨fun hdrop ↦ absurd rfl (hnone _ hdrop), nofun⟩
  left := by
    refine ⟨?_, nofun⟩
    rintro ⟨before, hbefore, -⟩
    exact absurd rfl (hnone (.drop n) (hbefore.subset (by simp)))

theorem of_ne (htold : Told n moves f) (hm : m.caller? ≠ some n) : Told n (moves ++ [m]) f := by
  have hother : ∀ m', m'.caller? = some n → (m' ∈ moves ++ [m] ↔ m' ∈ moves) := by
    intro m' hm'
    rw [List.mem_append, List.mem_singleton]
    refine ⟨?_, Or.inl⟩
    rintro (hin | rfl)
    · exact hin
    · exact absurd hm' hm
  constructor
  · intro found
    rw [hother _ rfl, htold.shown]
  · rw [hother _ rfl, htold.dropped]
  · rw [leavesWaiting_concat, htold.left, or_iff_left]
    rintro ⟨rfl, -⟩
    exact hm rfl

private theorem of_plays (htold : Told n moves f) (hm : m.Plays n) (hfound : f'.found? = f.found?)
    (hdropped : f'.Dropped ↔ f.Dropped) (hleft : f' = .left ↔ f = .left) :
    Told n (moves ++ [m]) f' := by
  have hother : ∀ m', ¬m'.Plays n → (m' ∈ moves ++ [m] ↔ m' ∈ moves) := by
    intro m' hm'
    rw [List.mem_append, List.mem_singleton, or_iff_left]
    rintro rfl
    exact hm' hm
  constructor
  · intro found
    rw [hother _ id, htold.shown, hfound]
  · rw [hother _ id, htold.dropped, hdropped]
  · rw [leavesWaiting_concat, htold.left, hleft, or_iff_left]
    rintro ⟨rfl, -⟩
    exact hm

theorem next (htold : Told n moves f) (hnext : f.Next n m f') : Told n (moves ++ [m]) f' := by
  have hshown := htold.shown
  have hdropped := htold.dropped
  have hleft := htold.left
  cases hnext with
  | goOn hm inside more => exact htold.of_plays hm rfl Iff.rfl ⟨nofun, nofun⟩
  | close hm inside more ending => exact htold.of_plays hm rfl Iff.rfl ⟨nofun, nofun⟩
  | «open» | refuse | leave | drop =>
    constructor
    · simp [hshown, Fate.found?]
    · simp [hdropped, Fate.Dropped]
    · simp [leavesWaiting_concat, hleft, hshown, Fate.found?]

end Told

/-! ## What a move does -/

/-- What a move of a call does: its fate changes, its block grows by what the view is told, and the
others are left alone. -/
structure Advances (s : State) (m : Move) (p : Progress) (n : Nat) (f f' : Fate) : Prop where
  next : f.Next n m f'
  calls : f'.calls = f.calls ++ p.calls
  answer : f'.answer? = p.result.map Result.answer
  pending : (p.state.call? n).map (·.dialog.isSome) = f'.open?
  others : ∀ k, k ≠ n → p.state.call? k = s.call? k
  number : p.state.nextNumber = s.nextNumber
  queue : (p.state.calls.map Call.number).Sublist (s.calls.map Call.number)
  /-- It is given the view when it is its turn. -/
  turn : f.found? = none → f'.found? ≠ none → s.turn? = some n

@[simp] theorem State.numbers_setDialog (d : Dialog) :
    (s.setDialog n d).calls.map Call.number = s.calls.map Call.number := by
  rw [setDialog, List.map_map]
  refine List.map_congr_left fun c _ ↦ ?_
  rw [Function.comp_apply]
  split <;> rfl

theorem State.numbers_remove :
    ((s.remove n).calls.map Call.number).Sublist (s.calls.map Call.number) :=
  List.filter_sublist.map _

theorem Advances.of_setDialog {f f' : Fate} {c : Call} {d : Dialog} {told : List NamingCall}
    (hc : s.call? n = some c) (hnext : f.Next n m f') (hcalls : f'.calls = f.calls ++ told)
    (hanswer : f'.answer? = none) (hopen : f'.open? = some true)
    (hturn : f.found? = none → f'.found? ≠ none → s.turn? = some n) :
    Advances s m ⟨s.setDialog n d, told, none⟩ n f f' where
  next := hnext
  calls := hcalls
  answer := hanswer
  pending := by simp [hc, hopen]
  others k hk := State.call?_setDialog_of_ne d hk
  number := rfl
  queue := by simp only [State.numbers_setDialog, List.Sublist.refl]
  turn := hturn

theorem Advances.of_remove {f f' : Fate} {told : List NamingCall} {result : Option Result}
    (hnext : f.Next n m f') (hcalls : f'.calls = f.calls ++ told)
    (hanswer : f'.answer? = result.map Result.answer) (hopen : f'.open? = none)
    (hturn : f.found? = none → f'.found? ≠ none → s.turn? = some n) :
    Advances s m ⟨s.remove n, told, result⟩ n f f' where
  next := hnext
  calls := hcalls
  answer := hanswer
  pending := by simp [hopen]
  others k hk := State.call?_remove_of_ne hk
  number := rfl
  queue := State.numbers_remove
  turn := hturn

theorem Fate.eq_waiting {f : Fate} (hf : some false = f.open?) : f = .waiting := by
  cases f <;> first | rfl | cases hf

theorem Fate.eq_standing {f : Fate} (hf : some true = f.open?) :
    ∃ inside, f = .standing inside := by
  cases f <;> first | exact ⟨_, rfl⟩ | cases hf

/-- **A move of a call** advances its fate. -/
theorem Steps.advances {f : Fate} (hsteps : Steps s m p) (hm : m.caller? = some n)
    (hf : (s.call? n).map (·.dialog.isSome) = f.open?) : ∃ f', Advances s m p n f f' := by
  cases hsteps with
  | start => cases hm
  | «open» hc hdialog hturn =>
    obtain rfl := Option.some.inj hm
    rw [hc, Option.map_some, hdialog] at hf
    obtain rfl := Fate.eq_waiting hf
    exact ⟨_, .of_setDialog hc .open rfl rfl rfl fun _ _ ↦ hturn⟩
  | refuse hc hdialog hturn =>
    obtain rfl := Option.some.inj hm
    rw [hc, Option.map_some, hdialog] at hf
    obtain rfl := Fate.eq_waiting hf
    exact ⟨_, .of_remove .refuse rfl rfl rfl fun _ _ ↦ hturn⟩
  | goOn hc hdialog hplays d' told =>
    obtain rfl := Option.some.inj (hplays.caller?.symm.trans hm)
    rw [hc, Option.map_some, hdialog] at hf
    obtain ⟨inside, rfl⟩ := Fate.eq_standing hf
    refine ⟨_, .of_setDialog hc (.goOn hplays inside told) ?_ rfl rfl nofun⟩
    rw [Fate.calls, Fate.calls, List.map_append, List.append_assoc]
  | close hc hdialog hplays told ending =>
    obtain rfl := Option.some.inj (hplays.caller?.symm.trans hm)
    rw [hc, Option.map_some, hdialog] at hf
    obtain ⟨inside, rfl⟩ := Fate.eq_standing hf
    refine ⟨_, .of_remove (.close hplays inside told ending) ?_ rfl rfl nofun⟩
    simp [Fate.calls, teardown]
  | @drop c hc =>
    obtain rfl := Option.some.inj hm
    rw [hc, Option.map_some] at hf
    cases hdialog : c.dialog with
    | none =>
      rw [hdialog] at hf
      obtain rfl := Fate.eq_waiting hf
      exact ⟨_, .of_remove .leave rfl rfl rfl fun _ h ↦ absurd rfl h⟩
    | some d =>
      rw [hdialog] at hf
      obtain ⟨inside, rfl⟩ := Fate.eq_standing hf
      refine ⟨_, .of_remove (.drop inside) ?_ rfl rfl nofun⟩
      simp [Fate.calls, teardown]

end PasskeyCeremony.Naming
