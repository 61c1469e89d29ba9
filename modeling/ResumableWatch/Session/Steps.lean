import ResumableWatch.Session.Step
/-!
# The steps of sessions

What the steps of sessions do: operations on a cursor, resyncs, observations of items, reads of a
stream, and operations on the informers of a session, which the session knows by names.
-/

namespace ResumableWatch

/-! ### Cursors -/

/-- An operation on a cursor. -/
inductive CursorOperation where
  | get
  | set (version : String)
  | reset
  | merge (incoming : String)
  | expired
  | arm
  | clear
  /-- No operations at once. -/
  | none
  /-- An operation that cannot be read. -/
  | unreadable (failure : Failure)

/-- What an operation comes to, and the cursor after it. -/
def CursorOperation.apply (c : Cursor) : CursorOperation → Outcome × Cursor
  | get => (.text c.version, c)
  | set version => (.nothing, c.set version)
  | reset => (.nothing, c.reset)
  | merge incoming =>
    match c.merge incoming with
    | .ok merged => (.text merged.version, merged)
    | .error cause => (.failure (.numeral cause), c)
  | expired => (.flag c.expired, c)
  | arm => (.nothing, c.arm)
  | clear => (.nothing, c.clear)
  | none => (.series [], c)
  | unreadable failure => (.failure failure, c)

/-- An operation on the cursor of a session. -/
def CursorOperation.act (operation : CursorOperation) : Act Outcome := do
  let (outcome, after) := operation.apply (← Act.cursor 0)
  Act.changeCursor 0 fun _ => after
  return outcome

/-- Operations on the cursor of a session, one after the other. -/
def CursorOperation.actAll : List CursorOperation → Act (List Outcome)
  | [] => pure []
  | operation :: rest => do
    let outcome ← operation.act
    return outcome :: (← actAll rest)

/-! ### Streams -/

/-- What a consumer asks of a stream. -/
inductive StreamCall where
  | next
  /-- All items up to the end or a failure. -/
  | drain
  | close

/-- Something to read from. -/
structure Source where
  next : Act (Option Item)
  close : Act Unit
  /-- How many reads it can answer. -/
  readsLeft : Act Nat

namespace Source

/-- At most `bound` items up to the end or an ordinary failure. -/
def drain (source : Source) : (bound : Nat) → Act (List Item × Option Failure)
  | 0 => pure ([], none)
  | bound + 1 => do
    match ← source.next.attempt with
    | .error failure =>
      if failure.isOrdinary then return ([], some failure) else Fiber.fail failure
    | .ok none => return ([], none)
    | .ok (some item) =>
      let (items, failure) ← drain source bound
      return (item :: items, failure)

/-- Does what a consumer asks. -/
def call (source : Source) : StreamCall → Act Outcome
  | .next => do
    match ← source.next with
    | some item => return .item item
    | none => return .ended
  | .drain => do
    let (items, failure) ← source.drain (← source.readsLeft)
    return .items items failure
  | .close => Act.silently source.close

/-- The stream of a poll. -/
def ofStream (s : StreamId) : Source where
  next := Act.nextOfStream s
  close := Act.closeStream s
  readsLeft := Act.readsLeft s

/-- The observation of a connection. -/
def ofObservation (s : StreamId) : Source where
  next := Act.nextObserved s
  close := Act.closeObservation s
  readsLeft := Act.readsLeft s

/-- A connection as it is. -/
def ofConnection (c : ConnectionId) : Source where
  next := Act.nextItem c
  close := Act.closeConnection c
  readsLeft := do
    return ((← Fiber.state).connection c).pending.length + 1

end Source

/-! ### Informers -/

/-- An operation on an informer of a session. -/
inductive InformerOperation where
  /-- Polls; the session keeps the stream under a name. -/
  | poll (stream : String)
  | read (stream : String) (call : StreamCall)
  | copy (name : String) (query : Query)
  | currentVersion
  | setVersion (version : String)
  | resetVersion
  | arm
  | clear
  | sleep (seconds : Double)
  | note

/-- Puts a value in the place of the one of that name, or last. -/
def keepAs {α : Type} (name : String) (value : α) : List (String × α) → List (String × α)
  | [] => [(name, value)]
  | (other, old) :: rest =>
    if other = name then (name, value) :: rest else (other, old) :: keepAs name value rest

namespace Act

/-- Lets go of a stream.  When nobody holds it any more, neither under a name nor by a read that
goes on, and its observation is not over, it is closed by a task of its own. -/
def release (s : StreamId) : Act Unit := do
  let kept ← rehearsal
  if kept.reads.contains s || kept.streams.any (·.2 == s) then return ()
  else if ((← Fiber.state).stream s).progress = .open then
    let _ ← spawn (.closeAbandoned s)

/-- Keeps a stream under a name. -/
def keepStream (name : String) (s : StreamId) : Act Unit := do
  let streams := (← rehearsal).streams
  changeRehearsal fun kept => { kept with streams := keepAs name s kept.streams }
  whenAsked (streams.lookup name) release

/-- Ends a read of a stream. -/
def endRead (s : StreamId) : Act Unit := do
  changeRehearsal fun kept => { kept with reads := kept.reads.erase s }
  release s

/-- Holds a stream while something is done with it. -/
def holding (s : StreamId) (m : Act Outcome) : Act Outcome := do
  changeRehearsal fun kept => { kept with reads := s :: kept.reads }
  Fiber.ensure (endRead s) m

/-- Enters the state and the version of an informer into the journal. -/
def noteInformer (i : InformerId) : Act Unit := do
  let informer ← informer i
  record (.note informer.phase.name (← cursor informer.cursor).version)

end Act

open Act in
/-- Does an operation on an informer. -/
def InformerOperation.act (i : InformerId) : InformerOperation → Act Outcome
  | poll _ => do
    return .opened (← Act.poll i)
  | read name call => do
    match (← rehearsal).streams.lookup name with
    | some s => holding s ((Source.ofStream s).call call)
    | none => return .noStream
  | copy name query => do
    let copied ← copyInformer i query
    changeRehearsal fun kept => { kept with informers := keepAs name copied kept.informers }
    let informer ← informer copied
    return .copied informer.name query.arguments informer.backoff
  | currentVersion => do
    return .text (← cursor (← informer i).cursor).version
  | .setVersion version => silently (Act.setVersion i version)
  | .resetVersion => silently (Act.resetVersion i)
  | arm => silently (changeCursor 0 Cursor.arm)
  | clear => silently (changeCursor 0 Cursor.clear)
  | .sleep seconds => silently (Act.sleep seconds)
  | note => silently (noteInformer i)

/-- What the session makes of the outcome of an operation. -/
def InformerOperation.conclude (operation : InformerOperation) (outcome : Outcome) : Act Outcome :=
  match operation, outcome with
  | poll name, .opened s => Act.silently (Act.keepStream name s)
  | _, _ => pure outcome

/-- An operation on the informer of that name. -/
structure InformerStep where
  informer : String := "main"
  operation : InformerOperation

/-- Does an operation on the informer of that name. -/
def InformerStep.act (step : InformerStep) : Act Outcome := do
  match (← Act.rehearsal).informers.lookup step.informer with
  | some i => step.operation.act i
  | none => Fiber.fail (.missingKey (some step.informer))

/-- The operation as a step of a session; a poll is a task of its own, which others may interfere
with. -/
def InformerStep.toStep (step : InformerStep) (during : List (Double × Step))
    (cancelAfter : Option Double) : Step where
  act := step.act
  conclude := step.operation.conclude
  apart := step.operation matches .poll _
  during
  cancelAfter

end ResumableWatch
