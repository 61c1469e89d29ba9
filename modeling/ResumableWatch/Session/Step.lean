import ResumableWatch.Scheduler
/-!
# Sessions

A session is a list of steps that are done one after the other and reported.  A step may be a task
of its own, a call, which the session waits for while other tasks interfere with it: each of them
does a step of its own after some seconds, and a timer may cancel the call.  Those who interfere are
dismissed when the call has ended.

The parts of a session are the tasks in it, and the path to a part tells where it belongs: the path
to a step, followed by zero for its call or by `n + 1` for the `n`-th of those who interfere.
-/

namespace ResumableWatch

/-- A step of a session. -/
structure Step where
  act : Act Outcome
  /-- What is made of the outcome. -/
  conclude : Outcome → Act Outcome := pure
  /-- Whether the step is a task of its own. -/
  apart : Bool := false
  /-- What others do meanwhile, and after how many seconds. -/
  during : List (Double × Step) := []
  cancelAfter : Option Double := none

instance : Inhabited Step := ⟨{ act := pure .nothing }⟩

namespace Act

/-- Changes what the session keeps. -/
def changeRehearsal (f : Rehearsal → Rehearsal) : Act Unit := .update (·.changeRehearsal f)

/-- What the session keeps. -/
def rehearsal : Act Rehearsal := .gets (·.rehearsal)

/-- An act that comes to nothing in particular. -/
def silently (m : Act Unit) : Act Outcome := do
  m
  return .nothing

/-- An act whose failure is its outcome. -/
def withOutcome (m : Act Outcome) : Act Outcome := m.recover fun failure => pure (.failure failure)

end Act

namespace World

/-- The phases of the informers of a session. -/
def phases (w : World) : List (String × Phase) :=
  w.rehearsal.informers.map fun (name, i) => (name, (w.informer i).phase)

/-- The entries of the journal from a number on, the first one first. -/
def entriesFrom (start : Nat) (w : World) : List Entry :=
  (w.journal.take (w.journal.length - start)).reverse

/-- Reports a step that began when the journal had `start` entries. -/
def report (outcome : Outcome) (start : Nat) (w : World) : World :=
  w.changeRehearsal fun kept =>
    { kept with
      reports := {
        outcome
        time := w.tasks.now
        cursor := w.cursor 0
        phases := w.phases
        expiries := w.informers.foldl (fun n informer => n + informer.expiries) 0
        entries := w.entriesFrom start } :: kept.reports }

end World

namespace Step

open Act

/-! ### Calls -/

/-- Does the step as a task of its own, and keeps what it came to. -/
def call (step : Step) : Act Unit := do
  let outcome ← step.act
  let t := (← Fiber.state).tasks.current
  changeRehearsal fun kept => { kept with produced := (t, outcome) :: kept.produced }

/-- What a call has come to. -/
def ending (called : TaskId) : Act Outcome := do
  match ← (join called).attempt with
  | .ok () => return ((← rehearsal).produced.lookup called).getD .nothing
  | .error failure => return .failure failure

/-- Starts parts of the session at paths and gives their tasks. -/
def spawnParts : List (List Nat) → Act (List TaskId)
  | [] => pure []
  | path :: rest => do
    let t ← spawn (.session path)
    return t :: (← spawnParts rest)

/-- Starts the timer that cancels a call. -/
def scheduleCancellation (called : TaskId) : Option Double → Act (Option TaskId)
  | none => pure none
  | some seconds => do
    return some (← schedule seconds (.cancellation called))

/-- Waits until the tasks have ended, whatever they came to. -/
def settle : List TaskId → Act Unit
  | [] => pure ()
  | t :: rest => do
    let _ ← (join t).attempt
    settle rest

/-- Cancels tasks and waits until the last one of them has ended, and one turn more, in which that
is noticed.  Ends that are in the past already take a turn as well. -/
def dismiss (others : List TaskId) : Act Unit := do
  if !others.isEmpty then
    cancelAll others
    let w ← Fiber.state
    if others.all w.tasks.isFinished then Fiber.await .turn else settle others.reverse
    Fiber.await .turn

/-- Does the step at a path as a task of its own, which others may interfere with. -/
def runApart (step : Step) (path : List Nat) : Act Outcome := do
  let others ← spawnParts ((List.range step.during.length).map fun n => path ++ [n + 1])
  let called ← spawn (.session (path ++ [0]))
  let timer ← scheduleCancellation called step.cancelAfter
  let outcome ← step.conclude (← ending called)
  whenAsked timer unschedule
  dismiss others
  return outcome

/-- Does the step at a path. -/
def run (step : Step) (path : List Nat) : Act Outcome := do
  if step.apart then step.runApart path else step.conclude (← step.act)

/-- What a part does; `before` is the path to the step, and the rest of the path to the part
follows. -/
def part (step : Step) (before : List Nat) : List Nat → Act Unit
  | [] => pure ()
  | 0 :: _ => step.call
  | (n + 1) :: rest =>
    match step.during[n]?, rest with
    | none, _ => pure ()
    | some (after, other), [] => do
      sleep after
      let _ ← other.run (before ++ [n + 1])
    | some (_, other), inner :: more => other.part (before ++ [n + 1]) (inner :: more)

/-! ### Sessions -/

/-- Does the step at a path and reports it. -/
def runReported (step : Step) (path : List Nat) : Act Unit := do
  let start := (← Fiber.state).journal.length
  let outcome ← withOutcome (step.run path)
  Fiber.update (·.report outcome start)

/-- Does the steps, which are numbered from `number` on. -/
def runAll (number : Nat) : List Step → Act Unit
  | [] => pure ()
  | step :: rest => do
    step.runReported [number]
    runAll (number + 1) rest

end Step

/-- The session of some steps. -/
def Session.ofSteps (steps : List Step) : Session
  | [] => Step.runAll 0 steps
  | number :: path =>
    match steps[number]? with
    | some step => step.part [number] path
    | none => pure ()

/-- How many moves a session may take. -/
def Session.moves : Nat := Nat.pow 10 8

namespace World

/-- The world after a session. -/
def after (session : Session) (w : World) : World :=
  (Run.ofWorld (Job.body session) Session.moves (w.spawn (.session []) none)).world

/-- The world after a session of some steps. -/
def rehearse (steps : List Step) (w : World) : World := w.after (.ofSteps steps)

/-- The reports of a session, the first one first. -/
def reports (w : World) : List Report := w.rehearsal.reports.reverse

/-- The journal, the first entry first. -/
def entries (w : World) : List Entry := w.journal.reverse

end World

end ResumableWatch
