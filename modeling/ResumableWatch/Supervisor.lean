import ResumableWatch.Informer
/-!
# Starting and stopping a supervisor

A supervisor keeps an informer polling by two tasks, the poll loop and the status reporter.
Starting one that runs changes nothing.  Stopping cancels both tasks and waits until they have
ended; it may be called from a task of the supervisor itself, which then does not wait for itself.
-/

namespace ResumableWatch.Act

/-- The supervisor as it is now. -/
def supervisor (s : SupervisorId) : Act Supervisor := .gets (·.supervisor s)

/-- A new supervisor. -/
def addSupervisor (supervisor : Supervisor) : Act SupervisorId := do
  let s := (← Fiber.state).supervisors.length
  Fiber.update fun w => { w with supervisors := w.supervisors ++ [supervisor] }
  return s

/-- Says whether the supervisor is to run. -/
def setRunning (s : SupervisorId) (running : Bool) : Act Unit :=
  .update (·.changeSupervisor s fun supervisor => { supervisor with running })

/-- Sets the tasks that the supervisor watches over. -/
def setTasks (s : SupervisorId) (tasks : List TaskId) : Act Unit :=
  .update (·.changeSupervisor s fun supervisor => { supervisor with tasks })

/-- Gives the supervisor new tasks to watch over. -/
def giveTasks (s : SupervisorId) (tasks : List TaskId) : Act Unit :=
  .update (·.changeSupervisor s fun supervisor =>
    { supervisor with tasks, launched := tasks ++ supervisor.launched })

/-- The name of the supervised informer. -/
def informerName (s : SupervisorId) : Act String := do
  return (← informer (← supervisor s).informer).name

/-- A log line of a supervisor; it names the informer before the other fields. -/
def logOf (s : SupervisorId) (level : Log.Level) (event : String) (fields : List (String × Json)) :
    Act Unit := do
  let name ← informerName s
  log level ("runner." ++ name) event (("informer", .text name) :: fields)

/-- Notes a start, and whether a stop is under way meanwhile. -/
def noteStart (s : SupervisorId) : Act Unit :=
  .update (·.changeSupervisor s fun supervisor =>
    { supervisor with overlapped := supervisor.overlapped || !supervisor.stoppers.isEmpty })

/-- Starts the poll loop and the status reporter, unless they run. -/
def startSupervisor (s : SupervisorId) : Act Unit := do
  if (← supervisor s).running then return ()
  else
    noteStart s
    setRunning s true
    let poll ← spawn (.pollLoop s)
    let status ← spawn (.statusLoop s)
    giveTasks s [poll, status]
    logOf s .info "runner_started" []

/-- Cancels those of the tasks that have not finished. -/
def cancelAll : List TaskId → Act Unit
  | [] => pure ()
  | t :: rest => do
    if !(← Fiber.state).tasks.isFinished t then cancel t
    cancelAll rest

/-- Waits for the tasks, one after the other; that one of them was cancelled is no failure. -/
def joinAll : List TaskId → Act Unit
  | [] => pure ()
  | t :: rest => do
    throughCancellation (join t)
    joinAll rest

/-- Notes that the current task has begun to stop the supervisor. -/
def noteStop (s : SupervisorId) : Act Unit :=
  .update fun w => w.changeSupervisor s fun supervisor =>
    { supervisor with stoppers := w.tasks.current :: supervisor.stoppers }

/-- Notes that the current task has come to the end of a stop. -/
def noteStopped (s : SupervisorId) : Act Unit :=
  .update fun w => w.changeSupervisor s fun supervisor =>
    { supervisor with stoppers := supervisor.stoppers.erase w.tasks.current }

/-- Cancels both tasks and waits until they have ended. -/
def stopSupervisor (s : SupervisorId) : Act Unit := do
  noteStop s
  Fiber.ensure (noteStopped s) do
    setRunning s false
    cancelAll (← supervisor s).tasks
    joinAll (← supervisor s).tasks
    setTasks s []
    logOf s .info "runner_stopped" []

/-- Waits until the poll loop has ended. -/
def awaitSupervisor (s : SupervisorId) : Act Unit := do
  match (← supervisor s).tasks with
  | [] => return ()
  | poll :: _ => throughCancellation (join poll)

end ResumableWatch.Act
