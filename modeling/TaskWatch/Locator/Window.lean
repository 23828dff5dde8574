/-!
# Jobs in a window

Jobs are started in order, but no more than a given number of them are in the window at a time, and
they may end in any order. The answer of a job leaves the window when all jobs before it have left,
so answers come out in the order of the jobs.

A *schedule* says which of the jobs under way ends next.
-/

namespace TaskWatch

/-- Jobs that are done in a window. -/
structure Window (α β : Type) where
  /-- How many jobs may be in the window; at least one. -/
  width : Nat
  /-- The jobs that are not started yet. -/
  waiting : List α
  /-- The jobs in the window, oldest first, with the answers of those that have ended. -/
  started : List (α × Option β) := []
  /-- The answers that have left the window. -/
  answers : List β := []

namespace Window

variable {α β σ : Type}

/-- Jobs that are all still to be started. -/
def new (width : Nat) (jobs : List α) : Window α β :=
  { width := max width 1, waiting := jobs }

/-- Starts jobs as long as there is room. -/
def refill (w : Window α β) : Window α β :=
  let room := w.width - w.started.length
  { w with
    started := w.started ++ (w.waiting.take room).map fun job => (job, none)
    waiting := w.waiting.drop room }

/-- Lets the answers leave before which no job is under way. -/
def release : List (α × Option β) → List β × List (α × Option β)
  | (_, some answer) :: rest =>
    let (answers, rest) := release rest
    (answer :: answers, rest)
  | rest => ([], rest)

/-- The places of the jobs under way. -/
def underWay (w : Window α β) : List Nat :=
  (List.range w.started.length).filter fun i => w.started[i]?.any (·.2.isNone)

/-- The place that a schedule chooses among the jobs under way. -/
def chosen? (w : Window α β) (choice : Nat) : Option Nat :=
  w.underWay[choice % w.underWay.length]?

/-- Ends the job that is chosen. -/
def step (work : α → σ → β × σ) (choice : Nat) (w : Window α β) (s : σ) : Window α β × σ :=
  let w := w.refill
  match w.chosen? choice with
  | none => (w, s)
  | some i =>
    match w.started[i]? with
    | none => (w, s)
    | some (job, _) =>
      let (answer, s) := work job s
      let (answers, started) := release (w.started.set i (job, some answer))
      ({ w with started := started, answers := w.answers ++ answers }, s)

/-- A number of steps; the schedule is asked with the number of steps that are left. -/
def run (work : α → σ → β × σ) (schedule : Nat → Nat) : Nat → Window α β → σ → Window α β × σ
  | 0, w, s => (w, s)
  | n + 1, w, s =>
    let (w, s) := w.step work (schedule n) s
    run work schedule n w s

/-- The answers of all jobs, in the order of the jobs. -/
def answersOf (work : α → σ → β × σ) (schedule : Nat → Nat) (width : Nat) (jobs : List α) (s : σ) :
    List β × σ :=
  let (w, s) := run work schedule jobs.length (Window.new width jobs) s
  (w.answers, s)

end Window

end TaskWatch
