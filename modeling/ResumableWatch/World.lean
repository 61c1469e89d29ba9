import ResumableWatch.Client
import ResumableWatch.Journal
import ResumableWatch.Metrics
import ResumableWatch.Server
import ResumableWatch.Tasks
import ResumableWatch.Cursor
/-!
# The shared state of a run

All that the tasks of a run share: the cursors, informers, connections, streams and supervisors,
each in a store of its own and known by its number there; the journal and the metrics; the server;
and the records of the tasks.  `Act` is the type of fibers over it, and the small operations on
cursors, log lines and tasks that everything else is made of are given here.
-/

namespace ResumableWatch

abbrev CursorId := Nat
abbrev InformerId := Nat
abbrev ConnectionId := Nat
abbrev StreamId := Nat
abbrev SupervisorId := Nat

/-! ### What is stored -/

/-- Where an informer is in its cycle of polls. -/
inductive Phase where
  | idle
  | watching
  | desynced
  | resyncing
  deriving DecidableEq

/-- The name of a phase. -/
def Phase.name : Phase → String
  | .idle => "idle"
  | .watching => "watching"
  | .desynced => "desynced"
  | .resyncing => "resyncing"

/-- One watch session over one kind of resource. -/
structure Informer where
  transport : Transport
  query : Query := {}
  name : String := "informer"
  /-- How long a poll waits before it starts over from the origin. -/
  backoff : Double := .ofInt 10
  /-- The cursor, which copies of the informer share. -/
  cursor : CursorId := 0
  phase : Phase := .idle
  /-- How often the informer was told that its version had expired. -/
  expiries : Nat := 0
  /-- How often the informer was told that a poll of it had ended. -/
  endings : Nat := 0
  /-- The items that were observed for the informer, the newest one first. -/
  observed : List Item := []

/-- One connection to the server. -/
structure Connection where
  transport : Transport
  /-- What the server will still send. -/
  pending : List Element
  closeFailure : Option Failure := none
  closable : Bool := true
  /-- No more frames are taken from the body. -/
  ended : Bool := false
  /-- The response, or the stream of ready items, has been closed. -/
  closed : Bool := false

/-- How far the observation of a connection has come. -/
inductive Progress where
  | fresh
  | open
  | over
  deriving DecidableEq

/-- A stream of items that are observed before they are delivered. -/
structure Stream where
  connection : ConnectionId
  cursor : CursorId
  /-- The name under which observations are counted and logged. -/
  name : String
  /-- The informer that opened the stream. -/
  owner : Option InformerId := none
  progress : Progress := .fresh
  /-- An item is being waited for. -/
  busy : Bool := false
  /-- The consumer has closed the stream, or has seen its end. -/
  closed : Bool := false

/-- Who is given the items of a supervised informer. -/
inductive Handler where
  /-- The handler of a session, which follows its plan. -/
  | planned
  /-- The application, which logs them. -/
  | logging
  deriving DecidableEq

/-- What a planned handler does with one item, in the order of the fields. -/
structure Plan where
  delay : Option Double := none
  setVersion : Option String := none
  resetVersion : Bool := false
  stop : Bool := false
  raise : Option Failure := none

/-- The supervisor that keeps an informer polling. -/
structure Supervisor where
  informer : InformerId
  handler : Handler
  retryDelay : Double := .ofInt 5
  statusInterval : Double := .ofInt 30
  running : Bool := false
  /-- The poll loop and the status reporter, while they are watched over. -/
  tasks : List TaskId := []
  /-- All poll loops and status reporters that it was ever given. -/
  launched : List TaskId := []
  /-- The items that were given to the handler, the newest one first. -/
  handed : List Item := []
  /-- The tasks that are stopping it: each has called a stop that has not come to its end. -/
  stoppers : List TaskId := []
  /-- It was started while a stop was under way. -/
  overlapped : Bool := false

/-- The part of the outside that an application starts with. -/
structure Surroundings where
  environment : Configuration.Environment := []
  /-- Looking for the configuration inside a cluster fails. -/
  inclusterFailure : Option Failure := none
  /-- Looking for the configuration of a user takes this long, and may fail. -/
  userDelay : Option Double := none
  userFailure : Option Failure := none
  /-- The API client, unless it cannot be made. -/
  client : Client := .plain
  clientFailure : Option Failure := none
  /-- Closing the API client takes this long, and may fail. -/
  closeDelay : Option Double := none
  closeFailure : Option Failure := none
  exporterFailure : Option Failure := none

/-- The application. -/
structure Application where
  configuration : Option Configuration := none
  running : Bool := false
  /-- The API client is there and has not been closed. -/
  hasClient : Bool := false
  /-- An API client was made, whether it has been closed or not. -/
  hadClient : Bool := false
  supervisor : Option SupervisorId := none
  informer : Option InformerId := none
  /-- A shutdown was requested; later requests change nothing. -/
  shutdownRequested : Bool := false
  /-- The task that carries out the shutdown. -/
  shutdown : Option TaskId := none

/-- What a task does. -/
inductive Job where
  | pollLoop (supervisor : SupervisorId)
  | statusLoop (supervisor : SupervisorId)
  /-- Closes a stream that nobody holds any more. -/
  | closeAbandoned (stream : StreamId)
  /-- Starts the application. -/
  | launch
  /-- Waits for the end of the started application. -/
  | attend
  /-- Stops the application. -/
  | shutdown
  /-- Cancels another task. -/
  | cancellation (task : TaskId)
  /-- A part of a session; the path to it is empty for the session as a whole. -/
  | session (path : List Nat)
  deriving DecidableEq

/-- What a step of a session comes to. -/
inductive Outcome where
  | nothing
  /-- The stream has ended. -/
  | ended
  /-- There is no stream to act on. -/
  | noStream
  | flag (value : Bool)
  | text (value : String)
  | item (i : Item)
  /-- All items up to the end, or up to a failure. -/
  | items (delivered : List Item) (failure : Option Failure)
  | failure (f : Failure)
  /-- A stream was opened. -/
  | opened (stream : StreamId)
  /-- A copy of an informer was made. -/
  | copied (name : String) (arguments : List (String × Json)) (backoff : Double)
  /-- The outcomes of several operations. -/
  | series (outcomes : List Outcome)

instance : Inhabited Outcome := ⟨.nothing⟩

/-- What a session reports after a step. -/
structure Report where
  outcome : Outcome
  time : Double
  cursor : Cursor
  /-- The phases of the informers, by the names that the session gave them. -/
  phases : List (String × Phase)
  /-- How often an informer was told that its version had expired, up to now. -/
  expiries : Nat
  /-- What happened in the step. -/
  entries : List Entry

/-- What a session keeps between its steps. -/
structure Rehearsal where
  /-- What a planned handler does with the items, by their numbers. -/
  plans : List (Nat × Plan) := []
  /-- How many items a planned handler was given. -/
  handled : Nat := 0
  /-- What the tasks of calls came to. -/
  produced : List (TaskId × Outcome) := []
  /-- The informers and streams, by the names that the session gave them. -/
  informers : List (String × InformerId) := []
  streams : List (String × StreamId) := []
  /-- The streams that are being read, once for each read. -/
  reads : List StreamId := []
  /-- The newest report first. -/
  reports : List Report := []

/-- The shared state. -/
structure World where
  tasks : Tasks Job := {}
  /-- The newest entry first. -/
  journal : List Entry := []
  metrics : Metrics := {}
  logging : Option Log.Setup := none
  server : Server := {}
  cursors : List Cursor := [{}]
  informers : List Informer := []
  connections : List Connection := []
  streams : List Stream := []
  supervisors : List Supervisor := []
  surroundings : Surroundings := {}
  application : Application := {}
  rehearsal : Rehearsal := {}

instance : Inhabited Informer := ⟨{ transport := .feed }⟩
instance : Inhabited Connection := ⟨{ transport := .feed, pending := [], closed := true }⟩
instance : Inhabited Stream := ⟨{ connection := 0, cursor := 0, name := "", progress := .over }⟩
instance : Inhabited Supervisor := ⟨{ informer := 0, handler := .planned }⟩
instance : Inhabited Cursor := ⟨{}⟩

/-- A computation over the shared state. -/
abbrev Act (α : Type) := Fiber World α

namespace World

/-! ### Looking up and changing -/

def cursor (w : World) (c : CursorId) : Cursor := (w.cursors[c]?).getD default
def informer (w : World) (i : InformerId) : Informer := (w.informers[i]?).getD default
def connection (w : World) (c : ConnectionId) : Connection := (w.connections[c]?).getD default
def stream (w : World) (s : StreamId) : Stream := (w.streams[s]?).getD default
def supervisor (w : World) (s : SupervisorId) : Supervisor := (w.supervisors[s]?).getD default

def changeTasks (f : Tasks Job → Tasks Job) (w : World) : World := { w with tasks := f w.tasks }

def changeCursor (c : CursorId) (f : Cursor → Cursor) (w : World) : World :=
  { w with cursors := w.cursors.modify c f }

def changeInformer (i : InformerId) (f : Informer → Informer) (w : World) : World :=
  { w with informers := w.informers.modify i f }

def changeConnection (c : ConnectionId) (f : Connection → Connection) (w : World) : World :=
  { w with connections := w.connections.modify c f }

def changeStream (s : StreamId) (f : Stream → Stream) (w : World) : World :=
  { w with streams := w.streams.modify s f }

def changeSupervisor (s : SupervisorId) (f : Supervisor → Supervisor) (w : World) : World :=
  { w with supervisors := w.supervisors.modify s f }

def changeMetrics (f : Metrics → Metrics) (w : World) : World := { w with metrics := f w.metrics }

def changeApplication (f : Application → Application) (w : World) : World :=
  { w with application := f w.application }

def changeRehearsal (f : Rehearsal → Rehearsal) (w : World) : World :=
  { w with rehearsal := f w.rehearsal }

/-- A new task of the run. -/
def spawn (job : Job) (context : Option Log.Context) (w : World) : World :=
  { w with tasks := (w.tasks.spawn job context).2 }

/-- A new task of the run that starts after some seconds. -/
def schedule (seconds : Double) (job : Job) (context : Option Log.Context) (w : World) : World :=
  { w with tasks := (w.tasks.schedule seconds job context).2 }

/-- Enters something into the journal, at the present time. -/
def record (what : Happening) (w : World) : World :=
  { w with journal := ⟨w.tasks.now, what⟩ :: w.journal }

/-- Marks a connection as closed, and enters that. -/
def markClosed (c : ConnectionId) (w : World) : World :=
  (w.changeConnection c fun connection => { connection with closed := true }).record .close

/-- Enters a log line, unless the set-up drops it.  On a console the lines of a trace follow it, of
which only their number is kept. -/
def log (level : Log.Level) (component event : String) (fields : List (String × Json))
    (traceLines : Nat) (w : World) : World :=
  match w.logging with
  | none => w.record (.log (.assemble level event none component fields))
  | some setup =>
    let line : Log.Line :=
      .assemble level event w.tasks.context component (Log.unreserved fields)
    if level.rank < setup.threshold then w
    else if setup.console then
      (line.console ++ List.replicate traceLines "").foldl
        (fun w text => w.record (.console text)) w
    else w.record (.log line)

end World

namespace Act

/-! ### Small steps -/

/-- Enters something into the journal. -/
def record (what : Happening) : Act Unit := .update (·.record what)

/-- Writes a log line. -/
def log (level : Log.Level) (component event : String) (fields : List (String × Json)) : Act Unit :=
  .update (·.log level component event fields 0)

/-- Waits for some seconds. -/
def sleep (seconds : Double) : Act Unit := .await (.sleep seconds)

/-- Starts a task; it takes over the context of the one that starts it. -/
def spawn (job : Job) : Act TaskId := do
  let w ← Fiber.state
  Fiber.update fun w => w.spawn job w.tasks.context
  return w.tasks.table.length

/-- Schedules a task to start after some seconds; it takes over the context of the one that
schedules it. -/
def schedule (seconds : Double) (job : Job) : Act TaskId := do
  let w ← Fiber.state
  Fiber.update fun w => w.schedule seconds job w.tasks.context
  return w.tasks.table.length

/-- Gives up a scheduled task, unless it has been started. -/
def unschedule (t : TaskId) : Act Unit := .update (·.changeTasks (·.unschedule t))

/-- Waits until a task has finished; a failure of the task is a failure of the wait. -/
def join (t : TaskId) : Act Unit := do
  match (← Fiber.state).tasks.outcome? t with
  | some outcome => Fiber.ofExcept outcome
  | none => Fiber.await (.join t)

/-- Cancels a task. -/
def cancel (t : TaskId) : Act Unit := .update (·.changeTasks (·.cancel t))

/-- Runs a fiber and takes a cancellation that strikes it as its end. -/
def throughCancellation (m : Act Unit) : Act Unit :=
  m.recover fun
    | .cancelled => pure ()
    | failure => .fail failure

end Act

end ResumableWatch
