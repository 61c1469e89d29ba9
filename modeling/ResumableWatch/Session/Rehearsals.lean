import ResumableWatch.Session.Steps
/-!
# Rehearsals

Whole sessions, each over a fresh world: operations on a cursor, resyncs, the observation of ready
items, streams over a scripted connection, an informer with its copies, and a supervised informer.
-/

namespace ResumableWatch

/-- A world with one cursor. -/
def World.withCursor (version : String) : World where
  cursors := [{ version }]

namespace Session

/-! ### Cursors and resyncs -/

/-- A session on a cursor. -/
def onCursor (version : String) (operations : List CursorOperation) : World :=
  (World.withCursor version).rehearse (operations.map fun operation => { act := operation.act })

/-- Operations at times from the beginning of a call on. -/
abbrev Interference (α : Type) := List (Double × α)

/-- A step of a session of resyncs. -/
inductive ResyncStep where
  | operations (operations : List CursorOperation)
  | resync (during : Interference CursorOperation) (cancelAfter : Option Double)

/-- The step as one of a session; a resync is a task of its own. -/
def ResyncStep.toStep (name : String) (backoff : Double) : ResyncStep → Step
  | .operations batch => {
      act := do
        return .series (← CursorOperation.actAll batch) }
  | .resync during cancelAfter => {
      act := do
        return .flag (← Act.resync 0 name backoff)
      apart := true
      during := during.map fun (after, operation) => (after, { act := operation.act })
      cancelAfter }

/-- A session of resyncs. -/
def ofResyncs (version name : String) (backoff : Double) (steps : List ResyncStep) : World :=
  (World.withCursor version).rehearse (steps.map (ResyncStep.toStep name backoff))

/-! ### Items and streams -/

/-- Makes a ready item and observes it. -/
def observeElement (stream : Stream) : Element → Act Unit
  | .item handedOver made => do
    Act.recordHandedOver handedOver
    Act.observe stream (← Fiber.ofExcept made)
  | _ => pure ()

/-- A session that observes ready items; expiries may be passed on to an informer. -/
def ofObservations (version name : String) (passedOn : Bool) (items : List Element) : World :=
  let stream : Stream := {
    connection := 0
    cursor := 0
    name
    owner := if passedOn then some 0 else none }
  { World.withCursor version with
    informers := [{ transport := .feed, name }] }.rehearse
      (items.map fun item => { act := Act.silently (observeElement stream item) })

/-- A session that reads ready items through an observation. -/
def onObservation (version : String) (elements : List Element) (closeFailure : Option Failure)
    (closable : Bool) (calls : List StreamCall) : World :=
  { World.withCursor version with
    connections := [{ transport := .feed, pending := elements, closeFailure, closable }]
    streams := [{ connection := 0, cursor := 0, name := "informer" }] }.rehearse
      (calls.map fun call => { act := (Source.ofObservation 0).call call })

/-- A session that issues one watch request over HTTP and reads the connection as it is.  The report
of the request comes first. -/
def onConnection (server : Server) (endpoint : Endpoint) (query : Query) (calls : List StreamCall) :
    World :=
  { server : World }.rehearse
    ({ act := Act.silently do
        let _ ← Act.openConnection (.http endpoint) query }
      :: calls.map fun call => { act := (Source.ofConnection 0).call call })

/-! ### Logging and the exporter -/

/-- What a session does with the log. -/
inductive LogCall where
  | bind (context : Log.Context)
  | write (level : Log.Level) (component event : String) (fields : List (String × Json))

/-- Does what a session does with the log. -/
def LogCall.act : LogCall → Act Unit
  | bind context => .update (·.changeTasks (·.bindContext context))
  | write level component event fields => Act.log level component event fields

/-- A session that writes log lines after a set-up. -/
def ofLogging (setup : Log.Setup) (calls : List LogCall) : World :=
  { logging := some setup : World }.rehearse
    (calls.map fun call => { act := Act.silently call.act })

/-- A session that has the application log ready items. -/
def ofLoggedItems (items : List Element) : World :=
  let log : Element → Act Unit
    | .item handedOver made => do
      Act.recordHandedOver handedOver
      Act.logItem (← Fiber.ofExcept made)
    | _ => pure ()
  ({} : World).rehearse (items.map fun item => { act := Act.silently (log item) })

/-- A session that starts the exporter of metrics. -/
def ofExporter (port : Int) : World :=
  ({} : World).rehearse [{
    act := do
      return .flag (← Act.startExporter port) }]

/-! ### Informers -/

/-- The world of a session on one informer. -/
def informerWorld (version : String) (informer : Informer) (server : Server) : World :=
  { World.withCursor version with
    informers := [informer]
    server
    rehearsal := { informers := [("main", 0)] } }

/-- A session on an informer and its copies. -/
def onInformer (version : String) (informer : Informer) (server : Server)
    (steps : List Step) : World :=
  (informerWorld version informer server).rehearse steps

/-! ### Supervisors -/

/-- An action on a supervised informer. -/
inductive SupervisorAction where
  | start
  | stop
  | setVersion (version : String)
  | resetVersion
  | arm
  | clear
  | note
  /-- A task of its own waits for the poll loop. -/
  | wait

/-- The name of an action. -/
def SupervisorAction.name : SupervisorAction → String
  | start => "start"
  | stop => "stop"
  | setVersion _ => "set_version"
  | resetVersion => "reset_version"
  | arm => "arm_resync"
  | clear => "clear_resync"
  | note => "note"
  | wait => "wait"

open Act in
/-- Does an action. -/
def SupervisorAction.act : SupervisorAction → Act Unit
  | start => startSupervisor 0
  | stop => stopSupervisor 0
  | .setVersion version => Act.setVersion 0 version
  | .resetVersion => Act.resetVersion 0
  | arm => changeCursor 0 Cursor.arm
  | clear => changeCursor 0 Cursor.clear
  | note => pure ()
  | wait => do
    let _ ← spawn (.session [0])
    Fiber.await .turn

/-- What a session sees of the supervisor. -/
def viewSupervisor : Act Unit := do
  let running := (← Act.supervisor 0).running
  let phase := (← Act.informer 0).phase
  let cursor ← Act.cursor 0
  Act.record (.supervisorView running phase.name cursor.version cursor.expired)

/-- Does an action between its marks in the journal. -/
def marked (name : String) (act view : Act Unit) : Act Unit := do
  Act.record (.action name)
  match ← act.attempt with
  | .ok () => pure ()
  | .error failure => Act.record (.raised failure)
  view

/-- Does actions, each after a wait. -/
def actAfter {α : Type} (act : α → Act Unit) : List (Double × α) → Act Unit
  | [] => pure ()
  | (seconds, action) :: rest => do
    Act.sleep seconds
    act action
    actAfter act rest

/-- Actions with the time that has passed since the one before, instead of the time. -/
def spaced {α : Type} (before : Double) : List (Double × α) → List (Double × α)
  | [] => []
  | (time, action) :: rest => (time - before, action) :: spaced time rest

/-- The parts of a session on a supervisor: the actions, and what waits for the poll loop. -/
def supervisorParts (actions : List (Double × SupervisorAction)) : Session
  | [] =>
    actAfter (fun action => marked action.name action.act viewSupervisor) (spaced .zero actions)
  | _ => do
    Act.awaitSupervisor 0
    Act.record .waitDone

/-- A session on a supervised informer, whose handler follows plans. -/
def onSupervisor (version : String) (informer : Informer) (server : Server)
    (retryDelay statusInterval : Double) (plans : List (Nat × Plan))
    (actions : List (Double × SupervisorAction)) : World :=
  { World.withCursor version with
    informers := [informer]
    server
    supervisors := [{ informer := 0, handler := .planned, retryDelay, statusInterval }]
    rehearsal := { plans } }.after (supervisorParts actions)

end Session

end ResumableWatch
