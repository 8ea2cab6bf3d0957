/-!
# Virtual time

Jobs that share a state and wait for each other or for a time. Time stands still while any job can
go on and then passes to the next moment at which something is due: the start of a job, the time a
job waits for, or the end of the patience of its caller.

At such a moment the jobs that are due to start do so in the order of the list, each going on until
it has to wait. Then the jobs that wait are resumed, the newest first, again and again until none of
them can go on; a job that still waits when the patience of its caller is over is dropped.
-/

namespace PasskeyCeremony.Timeline

/-- What jobs do to the state they share. A job is known by its place in the list. -/
structure Work (σ ε ρ : Type) where
  /-- A job begins. -/
  start : σ → (now job : Nat) → σ × List ε
  /-- A job goes on by one piece, and may end with a result, or it has to wait. -/
  advance : σ → (now job : Nat) → Option (σ × List ε × Option ρ)
  /-- The time that a waiting job waits for. -/
  due : σ → (job : Nat) → Option Nat
  /-- A job is dropped. -/
  drop : σ → (job : Nat) → σ × List ε

/-- When a job starts, and how long its caller waits for it. -/
structure Job where
  /-- The time of the start. -/
  begins : Nat
  /-- How long the caller waits from then on. -/
  patience : Nat
  deriving Repr

/-- What can be seen of the jobs. -/
inductive Entry (ε ρ : Type) where
  /-- Something that a job did. -/
  | seen (e : ε)
  /-- A job ended with a result, or was dropped. -/
  | ended (job : Nat) (result : Option ρ)
  deriving DecidableEq, Repr

/-- A job that has been started and has not ended. -/
structure Waiting where
  /-- Its place in the list. -/
  job : Nat
  /-- When its caller drops it. -/
  deadline : Nat
  deriving Repr

variable {σ ε ρ : Type}

/-- One job goes on until it ends or has to wait; at most `n` pieces. The last part of the result
says whether it has ended. -/
def goOn (w : Work σ ε ρ) (now job : Nat) : Nat → σ → σ × List (Entry ε ρ) × Bool
  | 0, s => (s, [], false)
  | n + 1, s =>
    match w.advance s now job with
    | none => (s, [], false)
    | some (s, seen, some r) => (s, seen.map .seen ++ [.ended job (some r)], true)
    | some (s, seen, none) =>
      let (s, more, ended) := goOn w now job n s
      (s, seen.map .seen ++ more, ended)

/-- A waiting job is resumed, and dropped if its time is over. The last part of the result is the
job, if it still waits. -/
def resume (w : Work σ ε ρ) (now n : Nat) (s : σ) (j : Waiting) :
    σ × List (Entry ε ρ) × Option Waiting :=
  let (s, entries, ended) := goOn w now j.job n s
  if ended then (s, entries, none)
  else if j.deadline ≤ now then
    let (s, seen) := w.drop s j.job
    (s, entries ++ seen.map .seen ++ [.ended j.job none], none)
  else (s, entries, some j)

def resumeEach (w : Work σ ε ρ) (now n : Nat) (s : σ) :
    List Waiting → σ × List (Entry ε ρ) × List Waiting
  | [] => (s, [], [])
  | j :: rest =>
    let (s, entries, left) := resume w now n s j
    let (s, more, waiting) := resumeEach w now n s rest
    (s, entries ++ more, left.toList ++ waiting)

/-- The waiting jobs are resumed until nothing is seen any more; at most `rounds` times. -/
def resumeAll (w : Work σ ε ρ) (now n : Nat) :
    (rounds : Nat) → σ → List Waiting → σ × List (Entry ε ρ) × List Waiting
  | 0, s, waiting => (s, [], waiting)
  | rounds + 1, s, waiting =>
    match resumeEach w now n s waiting with
    | (s, [], waiting) => (s, [], waiting)
    | (s, entries, waiting) =>
      let (s, more, waiting) := resumeAll w now n rounds s waiting
      (s, entries ++ more, waiting)

/-- Jobs are started in order, each going on until it has to wait. Waiting jobs stand with the
newest first. -/
def startEach (w : Work σ ε ρ) (now n : Nat) (s : σ) (waiting : List Waiting) :
    List (Nat × Job) → σ × List (Entry ε ρ) × List Waiting
  | [] => (s, [], waiting)
  | (i, j) :: rest =>
    let (s, seen) := w.start s now i
    let (s, entries, ended) := goOn w now i n s
    let waiting := if ended then waiting else ⟨i, now + j.patience⟩ :: waiting
    let (s, more, waiting) := startEach w now n s waiting rest
    (s, seen.map .seen ++ entries ++ more, waiting)

/-- The next moment at which something is due. -/
def nextMoment? (w : Work σ ε ρ) (s : σ) (waiting : List Waiting) (jobs : List (Nat × Job)) :
    Option Nat :=
  (jobs.map (·.2.begins) ++ waiting.map (·.deadline) ++
    waiting.filterMap fun j ↦ w.due s j.job).min?

/-- The state at the end, the time then, and what was seen on the way. -/
structure Run (σ ε ρ : Type) where
  /-- The shared state. -/
  state : σ
  /-- The time. -/
  now : Nat
  /-- What was seen. -/
  entries : List (Entry ε ρ)

/-- Let time pass from moment to moment until nothing is due; at most `n` moments. -/
def pass (w : Work σ ε ρ) (bound : Nat) :
    Nat → σ → Nat → List Waiting → List (Nat × Job) → Run σ ε ρ
  | 0, s, now, _, _ => ⟨s, now, []⟩
  | n + 1, s, now, waiting, jobs =>
    match nextMoment? w s waiting jobs with
    | none => ⟨s, now, []⟩
    | some t =>
      let now := max now t
      let (s, started, waiting) :=
        startEach w now bound s waiting (jobs.filter fun j ↦ j.2.begins ≤ now)
      let (s, resumed, waiting) := resumeAll w now bound bound s waiting
      let r := pass w bound n s now waiting (jobs.filter fun j ↦ now < j.2.begins)
      ⟨r.state, r.now, started ++ resumed ++ r.entries⟩

/-- The jobs run together, each from its own time on. -/
def together (w : Work σ ε ρ) (bound : Nat) (s : σ) (jobs : List Job) : Run σ ε ρ :=
  pass w bound bound s 0 [] (jobs.zipIdx.map fun j ↦ (j.2, j.1))

/-- The jobs run one after the other, whatever their own times. -/
def inTurn (w : Work σ ε ρ) (bound : Nat) (s : σ) (jobs : List Job) : Run σ ε ρ :=
  jobs.zipIdx.foldl
    (fun r j ↦
      let next := pass w bound bound r.state r.now [] [(j.2, { j.1 with begins := r.now })]
      ⟨next.state, next.now, r.entries ++ next.entries⟩)
    ⟨s, 0, []⟩

end PasskeyCeremony.Timeline
