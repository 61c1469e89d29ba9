import ResumableWatch.Stream
/-!
# Informers

An informer opens one connection per poll and resumes from the version of its cursor.  When the
server has said that the version is gone, the next poll waits and then starts over from the
origin, unless the expiry was withdrawn while it waited.  A poll is not to begin while a stream of
the same session is still read.
-/

namespace ResumableWatch.Act

/-- The informer as it is now. -/
def informer (i : InformerId) : Act Informer := .gets (·.informer i)

/-- The cursor as it is now. -/
def cursor (c : CursorId) : Act Cursor := .gets (·.cursor c)

/-- Applies an operation to a cursor. -/
def changeCursor (c : CursorId) (f : Cursor → Cursor) : Act Unit := .update (·.changeCursor c f)

/-- Sets the phase of an informer. -/
def setPhase (i : InformerId) (phase : Phase) : Act Unit :=
  .update (·.changeInformer i fun informer => { informer with phase })

/-- Overrides the version of an informer. -/
def setVersion (i : InformerId) (version : String) : Act Unit := do
  let informer ← informer i
  log .debug ("informer." ++ informer.name) "set_version"
    [("informer", .text informer.name), ("version", .text version)]
  changeCursor informer.cursor (·.set version)

/-- Lets the next poll start over from the origin. -/
def resetVersion (i : InformerId) : Act Unit := do
  let informer ← informer i
  log .debug ("informer." ++ informer.name) "reset_version" [("informer", .text informer.name)]
  changeCursor informer.cursor Cursor.reset

/-- If the version has expired, waits and goes back to the origin; says whether it did.  The
expiry is looked at again after the wait, and is withdrawn in any case. -/
def resync (c : CursorId) (name : String) (backoff : Double) : Act Bool := do
  if !(← cursor c).expired then return false
  else
    log .info ("resync." ++ name) "resync_backoff"
      [("informer", .text name), ("delay_s", .double backoff)]
    Fiber.update (·.changeMetrics (·.observeBackoff name backoff))
    sleep backoff
    let expired := (← cursor c).expired
    if expired then
      changeCursor c Cursor.reset
      Fiber.update (·.changeMetrics (·.countResync name))
      log .info ("resync." ++ name) "resync_reset" [("informer", .text name)]
    else log .debug ("resync." ++ name) "resync_skipped" [("informer", .text name)]
    changeCursor c Cursor.clear
    return expired

/-- A new stream. -/
def addStream (stream : Stream) : Act StreamId := do
  let s := (← Fiber.state).streams.length
  Fiber.update fun w => { w with streams := w.streams ++ [stream] }
  return s

/-- Opens one watch connection and gives its stream. -/
def poll (i : InformerId) : Act StreamId := do
  let it ← informer i
  if it.phase = .desynced || (← cursor it.cursor).expired then setPhase i .resyncing
  let _ ← resync it.cursor it.name it.backoff
  let version := (← cursor it.cursor).version
  log .info ("informer." ++ it.name) "poll_start"
    [("informer", .text it.name), ("version", .text version)]
  Fiber.update (·.changeMetrics (·.countPoll it.name))
  let connection ← (openConnection it.transport (it.query.withVersion version)).recover
    fun failure => do
      setPhase i .idle
      Fiber.fail failure
  setPhase i .watching
  addStream { connection, cursor := it.cursor, name := it.name, owner := some i }

/-- A new informer. -/
def addInformer (informer : Informer) : Act InformerId := do
  let i := (← Fiber.state).informers.length
  Fiber.update fun w => { w with informers := w.informers ++ [informer] }
  return i

/-- A copy that asks another query and shares the cursor. -/
def copyInformer (i : InformerId) (query : Query) : Act InformerId := do
  let it ← informer i
  addInformer { it with query, phase := .idle, expiries := 0, endings := 0, observed := [] }

end ResumableWatch.Act
