import ResumableWatch.Session.Rehearsals
/-!
# Rehearsals of the application

Sessions on the whole application.  In one kind the session starts and stops it at given times; in
the other the main task does, while signals arrive and the main task may be cancelled from outside.
When the session has ended the run is wound up: the tasks that are left are cancelled.
-/

namespace ResumableWatch.Session

open Act

/-- The world of an application. -/
def applicationWorld (surroundings : Surroundings) (server : Server)
    (configuration : Option Configuration) : World where
  surroundings
  server
  application := { configuration }

/-- The run of a session on an application, wound up when the session has ended. -/
def runApplication (session : Session) (world : World) : Run :=
  (Run.ofWorld (Job.body session) moves world).windUp (Job.body session) moves

/-- What the session came to. -/
def outcome (r : Run) : Wakeup := (r.world.tasks.outcome? 0).getD (.ok ())

/-! ### Starting and stopping -/

/-- An action on an application. -/
inductive ApplicationAction where
  | start
  | stop

/-- The name of an action. -/
def ApplicationAction.name : ApplicationAction → String
  | start => "start"
  | stop => "stop"

/-- Does an action. -/
def ApplicationAction.act : ApplicationAction → Act Unit
  | start => startApplication
  | stop => stopApplication

/-- What a session sees of the application. -/
def viewApplication : Act Unit := do
  let w ← Fiber.state
  record (.applicationView w.application.running
    (w.application.informer.map fun i => (w.informer i).phase.name))

/-- Does actions at their times; an action whose time has passed is done when the others have had a
turn. -/
def actAt {α : Type} (act : α → Act Unit) : List (Double × α) → Act Unit
  | [] => pure ()
  | (time, action) :: rest => do
    sleep (time - (← Fiber.state).tasks.now)
    act action
    actAt act rest

/-- A session that starts and stops an application. -/
def ofActions (actions : List (Double × ApplicationAction)) : Session
  | [] => actAt (fun action => marked action.name action.act viewApplication) actions
  | _ => pure ()

/-- The run of such a session. -/
def runActions (actions : List (Double × ApplicationAction)) (world : World) : Run :=
  runApplication (ofActions actions) (world.spawn (.session []) none)

/-! ### The main task -/

/-- What reaches the main task from outside, and when. -/
structure Interruptions where
  signals : List Double := []
  cancelled : Option Double := none

/-- The parts of a session on the main task: a signal arrives, or the main task, which is the first
one, is cancelled from outside. -/
def interruptions : Session
  | [0] => do
    record .signal
    requestShutdown
  | [1] => do
    record .interrupt
    cancel 0
  | _ => pure ()

/-- Schedules what reaches the main task. -/
def Interruptions.schedule (i : Interruptions) (world : World) : World :=
  let world := i.signals.foldl (fun w seconds => w.schedule seconds (.session [0]) none) world
  match i.cancelled with
  | some seconds => world.schedule seconds (.session [1]) none
  | none => world

/-- The run of the main task. -/
def runMain (i : Interruptions) (world : World) : Run :=
  runApplication interruptions (i.schedule (world.spawn .launch none))

end ResumableWatch.Session
