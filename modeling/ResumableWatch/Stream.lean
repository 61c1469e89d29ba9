import ResumableWatch.Connection
/-!
# Observed streams

Every item is observed before it is delivered: its version goes into the cursor, a 410 arms the
cursor, failures are counted and logged.  The items themselves pass unchanged.  The observation
ends, and closes its connection, at the end of the connection, at a failure, or when the stream is
closed; a stream that was never read from has no observation to end, but its connection is closed
all the same.
-/

namespace ResumableWatch.Act

open Log

/-! ### One item -/

/-- Passes an observed expiry on to the informer that opened the stream. -/
def markDesynced (owner : Option InformerId) : Act Unit :=
  match owner with
  | some i =>
    .update (·.changeInformer i fun informer =>
      { informer with phase := .desynced, expiries := informer.expiries + 1 })
  | none => pure ()

/-- The effects of an error event. -/
def observeStatus (s : Stream) (status : Status) : Act Unit := do
  let reason := if status.reason.isEmpty then toString status.code else status.reason
  let fields := [("informer", Json.text s.name), ("code", .int status.code),
    ("reason", .text status.reason), ("message", .text status.message)]
  Fiber.update (·.changeMetrics (·.countError s.name reason))
  if status.isGone then
    log .warning ("intercept." ++ s.name) "watch_desynced" fields
    Fiber.update (·.changeCursor s.cursor Cursor.arm)
    markDesynced s.owner
  else log .warning ("intercept." ++ s.name) "watch_error_event" fields

/-- Takes the version of an event into the cursor. -/
def observeVersion (s : Stream) (incoming : String) : Act Unit := do
  if incoming.isEmpty then return ()
  else
    match ((← Fiber.state).cursor s.cursor).merge incoming with
    | .error cause => Fiber.fail (.numeral cause)
    | .ok cursor =>
      Fiber.update (·.changeCursor s.cursor fun _ => cursor)
      log .debug ("intercept." ++ s.name) "cursor_advanced"
        [("informer", .text s.name), ("version", .text cursor.version),
          ("received", .text incoming)]

/-- The effects of one item.  A failure that is not of this library is no event either. -/
def observe (s : Stream) : Item → Act Unit
  | .failure failure => do
    if failure.isOwn then
      Fiber.update (·.changeMetrics (·.countError s.name failure.typeName))
      log .warning ("intercept." ++ s.name) "watch_stream_error"
        [("informer", .text s.name), ("error", .text failure.message)]
    else Fiber.fail (.missingAttribute failure.typeName "type")
  | .event event => do
    Fiber.update (·.changeMetrics (·.countEvent s.name event.type.name))
    match event.status with
    | some status => observeStatus s status
    | none => observeVersion s (← Fiber.ofExcept event.version)

/-! ### The observation of a connection -/

/-- Sets how far the observation has come. -/
def setProgress (s : StreamId) (progress : Progress) : Act Unit :=
  .update (·.changeStream s fun stream => { stream with progress })

/-- Ends the observation and closes its connection. -/
def endObservation (s : StreamId) : Act Unit := do
  setProgress s .over
  closeConnection ((← Fiber.state).stream s).connection

/-- Ends the observation on a failure. -/
def failObservation {α : Type} (s : StreamId) (failure : Failure) : Act α := do
  endObservation s
  Fiber.fail failure

/-- Says whether an item is being waited for. -/
def setBusy (s : StreamId) (busy : Bool) : Act Unit :=
  .update (·.changeStream s fun stream => { stream with busy })

/-- Enters an observed item with the informer that opened the stream. -/
def noteObserved (owner : Option InformerId) (item : Item) : Act Unit :=
  match owner with
  | some i =>
    .update (·.changeInformer i fun informer =>
      { informer with observed := item :: informer.observed })
  | none => pure ()

/-- The next item of an observation that is not over, or nothing at the end. -/
def readObserved (s : StreamId) : Act (Option Item) := do
  let stream := (← Fiber.state).stream s
  match ← (nextItem stream.connection).attempt with
  | .error failure => failObservation s failure
  | .ok none =>
    endObservation s
    return none
  | .ok (some item) =>
    match ← (observe stream item).attempt with
    | .error failure => failObservation s failure
    | .ok () =>
      noteObserved stream.owner item
      return some item

/-- The next item, observed, or nothing at the end.  Nobody else may be reading. -/
def nextObserved (s : StreamId) : Act (Option Item) := do
  let stream := (← Fiber.state).stream s
  if stream.busy then Fiber.fail (.reading "anext")
  else if stream.progress = .over then return none
  else
    setProgress s .open
    setBusy s true
    Fiber.ensure (setBusy s false) (readObserved s)

/-- Closes the observation; one that has not begun has nothing to close, and one that is being read
cannot be closed. -/
def closeObservation (s : StreamId) : Act Unit := do
  let stream := (← Fiber.state).stream s
  if stream.busy then Fiber.fail (.reading "aclose")
  else
    match stream.progress with
    | .fresh => setProgress s .over
    | .open => endObservation s
    | .over => return ()

/-! ### The stream of a poll -/

/-- What an informer does at the end of its poll. -/
def pollEnded (owner : Option InformerId) : Act Unit := do
  match owner with
  | none => return ()
  | some i =>
    Fiber.update (·.changeInformer i fun informer =>
      { informer with
        phase := if informer.phase = .watching then .idle else informer.phase
        endings := informer.endings + 1 })
    let informer := (← Fiber.state).informer i
    log .debug ("informer." ++ informer.name) "poll_end"
      [("informer", .text informer.name), ("state", .text informer.phase.name)]

/-- Closes a stream, and with it its connection, whether or not it was read from. -/
def closeStream (s : StreamId) : Act Unit := do
  let stream := (← Fiber.state).stream s
  if stream.closed then return ()
  else
    Fiber.update (·.changeStream s fun stream => { stream with closed := true })
    Fiber.ensure (pollEnded stream.owner) do
      closeObservation s
      closeConnection stream.connection

/-- The next item, or nothing at the end, which also closes the stream. -/
def nextOfStream (s : StreamId) : Act (Option Item) := do
  match ← nextObserved s with
  | some item => return some item
  | none =>
    closeStream s
    return none

end ResumableWatch.Act
