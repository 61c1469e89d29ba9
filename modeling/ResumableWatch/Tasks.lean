import ResumableWatch.Fiber
import ResumableWatch.Log
/-!
# Tasks

The bookkeeping of cooperative tasks: who is ready and in which order, who waits for what, which
timers run, and what the finished tasks came to.  Tasks run in rounds.  A round takes what was ready
when it began, in the order in which it became ready, and after that the timers that were due; what
becomes ready meanwhile is left for the next round.  Only when nothing is ready the clock goes on, to
the time of the first timer.

A cancellation strikes a waiting task at its wait; a task that is ready takes it instead of the
answer it was ready with; a task that waits for another one passes it on to that one.

What a task does is a value of a type `J` of jobs; the fibers themselves are kept by the scheduler.
-/

namespace ResumableWatch

/-- Where a task stands. -/
inductive TaskStatus where
  /-- In the queue of the ready, or running. -/
  | ready
  /-- To be started by a timer. -/
  | scheduled
  | waiting (what : Wait)
  | finished (outcome : Wakeup)

/-- What the records say about one task. -/
structure Task where
  status : TaskStatus := .ready
  /-- A cancellation is to strike at its next step. -/
  cancelling : Bool := false
  /-- The tasks that wait for this one, the first one first. -/
  waiters : List TaskId := []
  /-- What is attached to the log lines of the task. -/
  context : Option Log.Context := none

/-- Something that is due. -/
inductive Due (J : Type) where
  | start (task : TaskId) (job : J)
  | resume (task : TaskId) (answer : Wakeup)
  /-- The timer of a sleeping task rang. -/
  | ring (task : TaskId)

/-- Whether this is the ringing of the timer of a task. -/
def Due.isRingOf {J : Type} (t : TaskId) : Due J → Bool
  | .ring other => other == t
  | _ => false

/-- Whether this is the start of a task. -/
def Due.isStartOf {J : Type} (t : TaskId) : Due J → Bool
  | .start other _ => other == t
  | _ => false

/-- A running timer, and what is due when its time has come. -/
structure Timer (J : Type) where
  time : Double
  due : Due J

/-- The records of all tasks. -/
structure Tasks (J : Type) where
  now : Double := .zero
  /-- The task whose step it is. -/
  current : TaskId := 0
  /-- What is left of this round. -/
  round : List (Due J) := []
  /-- What the next round begins with. -/
  queue : List (Due J) := []
  timers : List (Timer J) := []
  table : List Task := []

namespace Tasks

variable {J : Type}

/-- The record of a task; one that does not exist counts as finished. -/
def task (ts : Tasks J) (t : TaskId) : Task := (ts.table[t]?).getD { status := .finished (.ok ()) }

/-- Changes the record of a task. -/
def change (t : TaskId) (f : Task → Task) (ts : Tasks J) : Tasks J :=
  { ts with table := ts.table.modify t f }

/-- Puts something last into the queue for the next round. -/
def enqueue (d : Due J) (ts : Tasks J) : Tasks J := { ts with queue := ts.queue ++ [d] }

/-- What the task came to, if it has finished. -/
def outcome? (ts : Tasks J) (t : TaskId) : Option Wakeup :=
  match (ts.task t).status with
  | .finished outcome => some outcome
  | _ => none

/-- Whether the task has finished. -/
def isFinished (ts : Tasks J) (t : TaskId) : Bool := (ts.outcome? t).isSome

/-- A new task; it starts when its turn comes, with a context of its own. -/
def spawn (job : J) (context : Option Log.Context) (ts : Tasks J) : TaskId × Tasks J :=
  let t := ts.table.length
  (t, { ts with table := ts.table ++ [({ context } : Task)] }.enqueue (.start t job))

/-- The context of the task whose step it is. -/
def context (ts : Tasks J) : Option Log.Context := (ts.task ts.current).context

/-- Binds a context to the task whose step it is. -/
def bindContext (context : Log.Context) (ts : Tasks J) : Tasks J :=
  ts.change ts.current fun task => { task with context := some context }

/-- Puts a timer behind all that are due before it or with it. -/
def insertTimer (timer : Timer J) : List (Timer J) → List (Timer J)
  | [] => [timer]
  | other :: rest =>
    if timer.time.lt other.time then timer :: other :: rest else other :: insertTimer timer rest

/-- Starts a timer.  When a time comes that is no number is left open: one event loop compares it with
the clock, which fails, and lets the timer ring, and another refuses such a delay at once.  Here it
never comes. -/
def addTimer (seconds : Double) (due : Due J) (ts : Tasks J) : Tasks J :=
  if (ts.now + seconds).isNan then ts
  else { ts with timers := insertTimer ⟨ts.now + seconds, due⟩ ts.timers }

/-- A new task that a timer starts. -/
def schedule (seconds : Double) (job : J) (context : Option Log.Context) (ts : Tasks J) :
    TaskId × Tasks J :=
  let t := ts.table.length
  (t, { ts with table := ts.table ++ [({ status := .scheduled, context } : Task)] }.addTimer
    seconds (.start t job))

/-- Drops what is due or will be and satisfies `p`. -/
def drop (p : Due J → Bool) (ts : Tasks J) : Tasks J :=
  { ts with
    round := ts.round.filter (!p ·)
    queue := ts.queue.filter (!p ·)
    timers := ts.timers.filter (!p ·.due) }

/-- Gives up a task that a timer was to start, unless it has been started. -/
def unschedule (t : TaskId) (ts : Tasks J) : Tasks J := ts.drop (Due.isStartOf t)

/-- Wakes a waiting task with an answer; its timer is of no more use. -/
def wake (t : TaskId) (answer : Wakeup) (ts : Tasks J) : Tasks J :=
  ((ts.drop (Due.isRingOf t)).enqueue (.resume t answer)).change t fun task =>
    { task with status := .ready }

/-- Cancels a task and says whether it was still running.  `fuel` bounds the chain of tasks that
wait for one another. -/
def cancelWithin : Nat → TaskId → Tasks J → Bool × Tasks J
  | fuel, t, ts =>
    let mark (ts : Tasks J) : Bool × Tasks J :=
      (true, ts.change t fun task => { task with cancelling := true })
    match (ts.task t).status with
    | .finished _ => (false, ts)
    | .ready => mark ts
    | .scheduled => mark ts
    | .waiting (.join other) =>
      match fuel with
      | 0 => mark ts
      | fuel + 1 =>
        match cancelWithin fuel other ts with
        | (true, ts) => (true, ts)
        | (false, ts) => mark ts
    | .waiting _ => (true, ts.wake t (.error .cancelled))

/-- Cancels a task. -/
def cancel (t : TaskId) (ts : Tasks J) : Tasks J := (ts.cancelWithin ts.table.length t).2

/-- Lets a task wait.  A wait for a task that has finished does not come here.  A cancellation that
came while the task was running strikes at once, unless the task only lets others run. -/
def suspend (t : TaskId) (w : Wait) (ts : Tasks J) : Tasks J :=
  let waiting (ts : Tasks J) : Tasks J :=
    let ts := ts.change t fun task => { task with status := .waiting w }
    if (ts.task t).cancelling then
      (ts.change t fun task => { task with cancelling := false }).cancel t
    else ts
  match w with
  | .turn => ts.enqueue (.resume t (.ok ()))
  | .sleep seconds =>
    if seconds.le .zero then ts.enqueue (.resume t (.ok ()))
    else waiting (ts.addTimer seconds (.ring t))
  | .forever => waiting ts
  | .join other =>
    if other = t then ts.enqueue (.resume t (.error .selfWait))
    else waiting (ts.change other fun task => { task with waiters := task.waiters ++ [t] })

/-- The answer with which a task goes on: a cancellation that is due takes its place. -/
def takeAnswer (t : TaskId) (answer : Wakeup) (ts : Tasks J) : Wakeup × Tasks J :=
  if (ts.task t).cancelling then
    (.error .cancelled, ts.change t fun task => { task with cancelling := false })
  else (answer, ts)

/-- Records what a task came to and wakes those that wait for it. -/
def finish (t : TaskId) (outcome : Wakeup) (ts : Tasks J) : Tasks J :=
  let waiters := (ts.task t).waiters
  waiters.foldl (fun ts waiter => ts.wake waiter outcome)
    (ts.change t fun task => { task with status := .finished outcome, waiters := [] })

/-! ### Rounds -/

/-- How much of the future a round counts as now: a nanosecond. -/
def resolution : Double := .ofDecimal false 1 (-9)

/-- Whether a timer is due. -/
def isDue (ts : Tasks J) (timer : Timer J) : Bool :=
  timer.time.le ts.now || timer.time.lt (ts.now + resolution)

/-- Begins a round: it takes what is ready, and then the timers that are due. -/
def beginRound (ts : Tasks J) : Tasks J :=
  let due := ts.timers.takeWhile ts.isDue
  { ts with
    round := ts.round ++ ts.queue ++ due.map (·.due)
    queue := []
    timers := ts.timers.drop due.length }

/-- The clock at the time of a timer; it never goes back. -/
def setClock (timer : Timer J) (ts : Tasks J) : Tasks J :=
  { ts with now := if ts.now.lt timer.time then timer.time else ts.now }

/-- Begins the next round, unless nothing is ever due again. -/
def nextRound (ts : Tasks J) : Option (Tasks J) :=
  match ts.queue, ts.timers with
  | [], [] => none
  | [], first :: _ => some (ts.setClock first).beginRound
  | _, _ => some ts.beginRound

end Tasks

end ResumableWatch
