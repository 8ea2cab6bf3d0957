import PasskeyCeremony.Ceremony.Program

/-!
# What a program does with a history behind it

A program is judged by its actions in order: each of them against the events that came before it,
and the result against all events. `Program.Follows` says that a program passes such a judgement
whatever it is answered. It is defined by recursion on the program and not on runs, so it can be
computed piece by piece: one rule for a single action and one for a program after another.

The rules are used with relations that say what may come next; `Follows.permitted` and
`Follows.ended` carry what has been shown of a program over to its runs in any surroundings. A run
without a result is one whose last action was left without an answer
(`exists_unanswered_of_result`), and that is how a run is shown to come to its end. What a run in
given surroundings comes to is found one action at a time (`Plays`).
-/

namespace PasskeyCeremony

/-- Where nothing of a kind comes before something of that kind, the kind occurs at most once. -/
theorem length_filter_le_one {α : Type} {kind : α → Bool} {xs : List α}
    (h : ∀ before x after, xs = before ++ x :: after → kind x = true →
      ∀ y ∈ before, kind y = false) : (xs.filter kind).length ≤ 1 := by
  induction xs with
  | nil => simp
  | cons x xs ih =>
    by_cases hx : kind x = true
    · have hrest : xs.filter kind = [] := by
        rw [List.filter_eq_nil_iff]
        intro y hy hkind
        obtain ⟨before, after, rfl⟩ := List.append_of_mem hy
        have hfirst := h (x :: before) y after rfl hkind x List.mem_cons_self
        rw [hx] at hfirst
        exact Bool.false_ne_true hfirst.symm
      simp [List.filter_cons_of_pos hx, hrest]
    · rw [List.filter_cons_of_neg hx]
      -- `x` is not of the kind, so it may stand before everything else
      refine ih fun before y after hsplit hy z hz ↦ ?_
      exact h (x :: before) y after (by rw [hsplit, List.cons_append]) hy z
        (List.mem_cons_of_mem x hz)

def Surroundings.after {σ : Type} (w : Surroundings σ) (s : σ) (actions : List Action) : σ :=
  actions.foldl (fun s q ↦ (w.respond s q).2) s

namespace Program

variable {α β σ : Type} {next next' : List Event → Action → Prop}
  {ends ends' : List Event → α → Prop}

/-- Whatever the answers, each action of the program is one that may come next after the events
before it, and the result is one that the events may end with. -/
def Follows (next : List Event → Action → Prop) (ends : List Event → α → Prop) :
    Program α → List Event → Prop
  | done a, h => ends h a
  | ask q go, h => next h q ∧ ∀ answer, (go answer).Follows next ends (h ++ [⟨q, some answer⟩])

theorem follows_ask {q : Action} {go : q.Answer → Program α} {h : List Event} :
    (ask q go).Follows next ends h ↔
      next h q ∧ ∀ answer, (go answer).Follows next ends (h ++ [⟨q, some answer⟩]) := Iff.rfl

theorem Follows.mono {p : Program α} {h : List Event} (hp : p.Follows next ends h)
    (hnext : ∀ h q, next h q → next' h q) (hends : ∀ h a, ends h a → ends' h a) :
    p.Follows next' ends' h := by
  induction p generalizing h with
  | done a => exact hends h a hp
  | ask q go ih => exact ⟨hnext h q hp.1, fun answer ↦ ih answer (hp.2 answer)⟩

theorem Follows.behind {p : Program α} {h : List Event} (hp : p.Follows next ends h)
    (before : List Event) :
    p.Follows (fun h q ↦ ∃ own, h = before ++ own ∧ next own q)
      (fun h a ↦ ∃ own, h = before ++ own ∧ ends own a) (before ++ h) := by
  induction p generalizing h with
  | done a => exact ⟨h, rfl, hp⟩
  | ask q go ih =>
    refine ⟨⟨h, rfl, hp.1⟩, fun answer ↦ ?_⟩
    rw [List.append_assoc]
    exact ih answer (hp.2 answer)

/-- The second program has the history that the first one leaves behind. -/
theorem follows_bind {p : Program α} {f : α → Program β} {ends : List Event → β → Prop}
    {h : List Event} :
    (p >>= f).Follows next ends h ↔ p.Follows next (fun h a ↦ (f a).Follows next ends h) h := by
  induction p generalizing h with
  | done a => exact Iff.rfl
  | ask q go ih =>
    rw [ask_bind, follows_ask, follows_ask]
    exact and_congr_right fun _ ↦ forall_congr' fun answer ↦ ih answer

/-! ## Runs -/

/-- **Every action of a run** is one that may come next after the events before it. -/
theorem Follows.permitted {p : Program α} {h : List Event} (hp : p.Follows next ends h)
    (w : Surroundings σ) (s : σ) {before after : List Event} {e : Event}
    (hsplit : (p.run w s).events = before ++ e :: after) : next (h ++ before) e.action := by
  -- on the program: an answer leads to a smaller one, with one more event in its history
  induction p generalizing h s before with
  | done a => simp [run] at hsplit
  | ask q go ih =>
    rw [run] at hsplit
    split at hsplit
    · -- the action is left without an answer, so it is the only event
      rw [List.cons_eq_append_iff] at hsplit
      rcases hsplit with ⟨rfl, hcons⟩ | ⟨rest, rfl, hrest⟩
      · obtain ⟨rfl, -⟩ := List.cons.inj hcons
        rw [List.append_nil]
        exact hp.1
      · simp at hrest
    · rename_i answer s' _
      rw [List.cons_eq_append_iff] at hsplit
      rcases hsplit with ⟨rfl, hcons⟩ | ⟨rest, rfl, hrest⟩
      · obtain ⟨rfl, -⟩ := List.cons.inj hcons
        rw [List.append_nil]
        exact hp.1
      · have hlater := ih answer (hp.2 answer) s' hrest
        rwa [List.append_assoc, List.singleton_append] at hlater

/-- **The result of a run** is one that its events may end with. -/
theorem Follows.ended {p : Program α} {h : List Event} (hp : p.Follows next ends h)
    (w : Surroundings σ) (s : σ) {a : α} (hresult : (p.run w s).result = some a) :
    ends (h ++ (p.run w s).events) a := by
  induction p generalizing h s with
  | done b =>
    obtain rfl : b = a := Option.some.inj hresult
    rw [run, List.append_nil]
    exact hp
  | ask q go ih =>
    rw [run] at hresult ⊢
    split at hresult
    · simp at hresult
    · rename_i answer s' _
      have hlater := ih answer (hp.2 answer) s' hresult
      rwa [List.append_assoc, List.singleton_append] at hlater

/-- What a program follows from the beginning, every run of it keeps to. -/
theorem Follows.course {p : Program α} (hp : p.Follows next ends []) (w : Surroundings σ) (s : σ) :
    (∀ before e after, (p.run w s).events = before ++ e :: after → next before e.action) ∧
      ∀ a, (p.run w s).result = some a → ends (p.run w s).events a := by
  constructor
  · intro before e after hsplit
    have hnext := hp.permitted w s hsplit
    rwa [List.nil_append] at hnext
  · intro a hresult
    have hends := hp.ended w s hresult
    rwa [List.nil_append] at hends

/-- A run that did not come to its end waits for the answer to its last action. -/
theorem exists_unanswered_of_result (w : Surroundings σ) (p : Program α) (s : σ)
    (hresult : (p.run w s).result = none) :
    ∃ before q, (p.run w s).events = before ++ [⟨q, none⟩] := by
  induction p generalizing s with
  | done a => simp [run] at hresult
  | ask q go ih =>
    rw [run] at hresult ⊢
    split at hresult
    · exact ⟨[], q, rfl⟩
    · rename_i answer s' _
      obtain ⟨before, q', hevents⟩ := ih answer s' hresult
      refine ⟨⟨q, some answer⟩ :: before, q', ?_⟩
      simp only [hevents, List.cons_append]

theorem exists_result_of_answered (w : Surroundings σ) (p : Program α) (s : σ)
    (hanswered : ∀ e ∈ (p.run w s).events, e.answer ≠ none) : ∃ a, (p.run w s).result = some a := by
  rw [← Option.ne_none_iff_exists']
  intro hresult
  obtain ⟨before, q, hevents⟩ := exists_unanswered_of_result w p s hresult
  exact hanswered ⟨q, none⟩ (by simp [hevents]) rfl

/-- The answers in a run are those of the surroundings in the states that the actions lead to. -/
theorem answer_of_run (w : Surroundings σ) (p : Program α) (s : σ) {before after : List Event}
    {e : Event} (hsplit : (p.run w s).events = before ++ e :: after) :
    e.answer = (w.respond (w.after s (before.map (·.action))) e.action).1 := by
  -- on the program: an answer leads to a smaller one, which starts in the next state
  induction p generalizing s before with
  | done a => simp [run] at hsplit
  | ask q next ih =>
    rw [run] at hsplit
    split at hsplit
    · rename_i s' hrespond
      rw [List.cons_eq_append_iff] at hsplit
      rcases hsplit with ⟨rfl, hcons⟩ | ⟨rest, rfl, hrest⟩
      · obtain ⟨rfl, -⟩ := List.cons.inj hcons
        exact (congrArg Prod.fst hrespond).symm
      · simp at hrest
    · rename_i answer s' hrespond
      rw [List.cons_eq_append_iff] at hsplit
      rcases hsplit with ⟨rfl, hcons⟩ | ⟨rest, rfl, hrest⟩
      · obtain ⟨rfl, -⟩ := List.cons.inj hcons
        exact (congrArg Prod.fst hrespond).symm
      · have hlater := ih answer s' hrest
        obtain rfl : w.after s [q] = s' := congrArg Prod.snd hrespond
        exact hlater

/-! ## A single run -/

variable {w : Surroundings σ}

/-- From a state on, the program has these events and this result. -/
def Plays (w : Surroundings σ) (p : Program α) (s : σ) (events : List Event)
    (result : Option α) : Prop :=
  (p.run w s).events = events ∧ (p.run w s).result = result

theorem plays_done (a : α) (s : σ) : (done a).Plays w s [] (some a) := ⟨rfl, rfl⟩

/-- A program that begins with an action goes on with what it does with the answer. -/
theorem Plays.step {p : Program α} {q : Action} {next : q.Answer → Program α} {s : σ}
    {answer : q.Answer} {events : List Event} {result : Option α} (hp : p = ask q next)
    (hanswer : (w.respond s q).1 = some answer)
    (hnext : (next answer).Plays w (w.respond s q).2 events result) :
    p.Plays w s (⟨q, some answer⟩ :: events) result := by
  obtain ⟨rfl, rfl⟩ := hnext
  have hrespond : w.respond s q = (some answer, (w.respond s q).2) := Prod.ext hanswer rfl
  rw [hp, Plays, run, hrespond]
  exact ⟨rfl, rfl⟩

theorem Plays.ask {q : Action} {next : q.Answer → Program α} {s : σ} {answer : q.Answer}
    {events : List Event} {result : Option α} (hanswer : (w.respond s q).1 = some answer)
    (hnext : (next answer).Plays w (w.after s [q]) events result) :
    (Program.ask q next).Plays w s (⟨q, some answer⟩ :: events) result :=
  .step rfl hanswer hnext

theorem Plays.stuck {q : Action} {next : q.Answer → Program α} {s : σ}
    (hanswer : (w.respond s q).1 = none) : (Program.ask q next).Plays w s [⟨q, none⟩] none := by
  rw [Plays, run]
  split
  · exact ⟨rfl, rfl⟩
  · rename_i answer s' hrespond
    rw [hrespond] at hanswer
    cases hanswer

end Program

theorem answer_eq_none_of_open {events : List Event}
    (hopen : ∃ before q, events = before ++ [⟨q, none⟩]) (before : List Event) {e : Event}
    (hevents : events = before ++ [e]) : e.answer = none := by
  obtain ⟨before', q, hlast⟩ := hopen
  rw [hevents] at hlast
  obtain ⟨-, hlast⟩ := List.append_inj' hlast rfl
  cases hlast
  rfl

/-! ## Programs that may fail -/

namespace Attempt

variable {α β : Type} {next : List Event → Action → Prop}

/-- The second attempt is made after the first one has succeeded; a failure is the end of both. -/
theorem follows_bind {x : Attempt α} {f : α → Attempt β}
    {ends : List Event → Except Failure β → Prop} {h : List Event} :
    (x >>= f).run.Follows next ends h ↔
      x.run.Follows next
        (fun h r ↦ match r with
          | .ok a => (f a).run.Follows next ends h
          | .error e => ends h (.error e)) h := by
  rw [ExceptT.run_bind, Program.follows_bind]
  constructor <;> intro hx <;> refine hx.mono (fun _ _ hq ↦ hq) fun h r hr ↦ ?_ <;>
    cases r <;> exact hr

theorem follows_ofExcept {x : Except Failure α} {ends : List Event → Except Failure α → Prop}
    {h : List Event} : (ofExcept x).run.Follows next ends h ↔ ends h x := Iff.rfl

end Attempt

end PasskeyCeremony
