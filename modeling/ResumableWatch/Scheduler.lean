import ResumableWatch.Application
import ResumableWatch.PollLoop
/-!
# The scheduler

A run of the tasks.  One move of a run lets the task whose step it is go on to its next wait, or
takes what is due first in this round, or begins the next round.  A run in which no move is left
waits for ever.

What the jobs of the tasks come to is a parameter, and so is the number of moves that a run may
take.
-/

namespace ResumableWatch

/-- Where a fiber comes to when it runs without a break. -/
inductive Pause (σ α : Type) where
  | done (result : α)
  | fail (failure : Failure)
  | wait (what : Wait) (next : Wakeup → Fiber σ α)

/-- Runs a fiber up to its next wait or to its end. -/
def Fiber.advance {σ α : Type} : Fiber σ α → σ → σ × Pause σ α
  | done a, s => (s, .done a)
  | fail e, s => (s, .fail e)
  | read next, s => advance (next s) s
  | write s next, _ => advance next s
  | wait w next, s => (s, .wait w next)

/-- What the jobs come to: each may be followed by another one. -/
abbrev Work := Job → Act (Option Job)

/-- What the parts of a session do, by the paths to them. -/
abbrev Session := (path : List Nat) → Act Unit

namespace Job

/-- Goes on with a job if there is more to do. -/
def continuedBy (next : Job) (round : Act Bool) : Act (Option Job) := do
  return if ← round then some next else none

/-- What a task does, and what it goes on with. -/
def body (session : Session) : Work
  | pollLoop s => continuedBy (pollLoop s) (Act.pollRound (Act.handle s) s)
  | statusLoop s => continuedBy (statusLoop s) (Act.statusRound s)
  | closeAbandoned s => do
    Fiber.await .turn
    Act.closeObservation s
    return none
  | launch => continuedBy attend Act.launch
  | attend => continuedBy attend Act.attend
  | shutdown => do
    Act.stopApplication
    return none
  | cancellation t => do
    Act.cancel t
    return none
  | .session path => do
    session path
    return none

end Job

/-- The state of a run. -/
structure Run where
  world : World
  /-- What the current task goes on with, while it is its step. -/
  active : Option (Act (Option Job)) := none
  /-- What the waiting tasks go on with when they are answered. -/
  waiting : List (TaskId × (Wakeup → Act (Option Job))) := []

namespace Run

/-- Changes the records of the tasks. -/
def changeTasks (f : Tasks Job → Tasks Job) (r : Run) : Run :=
  { r with world := r.world.changeTasks f }

/-- Ends the current task. -/
def finish (outcome : Wakeup) (r : Run) : Run :=
  { r with active := none }.changeTasks fun ts => ts.finish ts.current outcome

/-- Lets the current task wait. -/
def suspend (what : Wait) (next : Wakeup → Act (Option Job)) (r : Run) : Run :=
  { r with
    active := none
    waiting := (r.world.tasks.current, next) :: r.waiting }.changeTasks
      fun ts => ts.suspend ts.current what

/-- The current task goes on to its next wait. -/
def carryOn (work : Work) (fiber : Act (Option Job)) (r : Run) : Run :=
  let (world, pause) := fiber.advance r.world
  let r := { r with world }
  match pause with
  | .done (some job) => { r with active := some (work job) }
  | .done none => r.finish (.ok ())
  | .fail failure => r.finish (.error failure)
  | .wait what next => r.suspend what next

/-- Answers the wait of a task; it becomes the current one. -/
def resume (t : TaskId) (answer : Wakeup) (r : Run) : Run :=
  let (answer, tasks) := r.world.tasks.takeAnswer t answer
  { world := { r.world with tasks := { tasks with current := t } }
    active := (r.waiting.lookup t).map (· answer)
    waiting := r.waiting.filter (·.1 != t) }

/-- Starts a task, unless it was cancelled before. -/
def start (work : Work) (t : TaskId) (job : Job) (r : Run) : Run :=
  let r := r.changeTasks fun ts =>
    { ts with current := t }.change t fun task => { task with status := .ready }
  if (r.world.tasks.task t).cancelling then r.finish (.error .cancelled)
  else { r with active := some (work job) }

/-- Does what is due. -/
def take (work : Work) (due : Due Job) (r : Run) : Run :=
  match due with
  | .start t job => r.start work t job
  | .resume t answer => r.resume t answer
  | .ring t => r.changeTasks (·.wake t (.ok ()))

/-- One move of a run, if one is left. -/
def move (work : Work) (r : Run) : Option Run :=
  match r.active with
  | some fiber => some (r.carryOn work fiber)
  | none =>
    match r.world.tasks.round with
    | due :: round => some ((r.changeTasks fun ts => { ts with round }).take work due)
    | [] => r.world.tasks.nextRound.map fun tasks => { r with world := { r.world with tasks } }

/-- At most `moves` moves, up to the first state in which `isOver` holds. -/
def go (work : Work) (isOver : World → Bool) : (moves : Nat) → Run → Run
  | 0, r => r
  | moves + 1, r =>
    if r.active.isNone && isOver r.world then r
    else
      match r.move work with
      | some next => go work isOver moves next
      | none => r

/-- Runs a world up to the end of its first task. -/
def ofWorld (work : Work) (moves : Nat) (world : World) : Run :=
  go work (·.tasks.isFinished 0) moves { world }

/-! ### After the end of the first task -/

/-- The rest of this round. -/
def finishRound (work : Work) (moves : Nat) (r : Run) : Run :=
  go work (·.tasks.round.isEmpty) moves r

/-- That many rounds, at the present time. -/
def runRounds (work : Work) (moves : Nat) : Nat → Run → Run
  | 0, r => r
  | n + 1, r => runRounds work moves n ((r.changeTasks (·.beginRound)).finishRound work moves)

/-- The tasks that have begun, or are ready to, and have not finished. -/
def unfinished (w : World) : List TaskId :=
  (List.range w.tasks.table.length).filter fun t =>
    match (w.tasks.task t).status with
    | .finished _ => false
    | .scheduled => false
    | _ => true

/-- Whether the first task ended with an exit, which breaks off its round. -/
def hasExited (w : World) : Bool :=
  match w.tasks.outcome? 0 with
  | some (.error (.exit _)) => true
  | _ => false

/-- The rounds up to the one in which the end of the first task is noticed. -/
def notice (work : Work) (moves : Nat) (r : Run) : Run :=
  if hasExited r.world then r else (r.finishRound work moves).runRounds work moves 1

/-- Cancels the tasks that are left, runs them to their ends, and notices these. -/
def cancelLeft (work : Work) (moves : Nat) (r : Run) : Run :=
  let left := unfinished r.world
  if left.isEmpty then r
  else
    let r := r.changeTasks fun ts => (left.foldl (fun ts t => ts.cancel t) ts).beginRound
    ((go work (fun w => (unfinished w).isEmpty) moves r).finishRound work moves).runRounds
      work moves 2

/-- The rounds in which a run is closed down. -/
def closingRounds : Nat := 4

/-- Winds up a run whose first task has ended. -/
def windUp (work : Work) (moves : Nat) (r : Run) : Run :=
  ((r.notice work moves).cancelLeft work moves).runRounds work moves closingRounds

end Run

end ResumableWatch
