import ResumableWatch.Supervisor
/-!
# The loops of a supervisor

The poll loop polls, hands every item to the handler, and begins again; a poll that fails is
followed by a wait.  No ordinary failure ends it, neither one of the connection nor one of the
handler.  The status reporter logs where the informer is at a fixed interval.

A loop is given by one round of it, which says whether another round follows; the handler is a
parameter.
-/

namespace ResumableWatch.Act

open Log

/-! ### One poll -/

/-- The number of lines that a console shows below the line of a failed handler. -/
def handlerTraceLines : Nat := 7

/-- Enters an item that is given to the handler. -/
def noteHanded (s : SupervisorId) (item : Item) : Act Unit :=
  .update (·.changeSupervisor s fun supervisor =>
    { supervisor with handed := item :: supervisor.handed })

/-- Logs a failure of the handler; one that is not ordinary goes further. -/
def answerHandler (s : SupervisorId) (failure : Failure) : Act Unit := do
  if failure.isOrdinary then
    let name ← informerName s
    Fiber.update (·.log .error ("runner." ++ name) "handler_failed"
      [("informer", .text name), ("error", .text failure.message), ("exc_info", .bool true)]
      handlerTraceLines)
  else Fiber.fail failure

/-- Gives an item to the handler; its failure is logged and goes no further. -/
def dispatch (handler : Item → Act Unit) (s : SupervisorId) (item : Item) : Act Unit := do
  noteHanded s item
  (handler item).recover (answerHandler s)

/-- Hands on the items of a stream until it ends or the supervisor is to stop.  At most `bound`
items are taken. -/
def consume (handler : Item → Act Unit) (s : SupervisorId) (stream : StreamId) :
    (bound : Nat) → Act Unit
  | 0 => pure ()
  | bound + 1 => do
    match ← nextOfStream stream with
    | none => return ()
    | some item =>
      if (← supervisor s).running then
        dispatch handler s item
        consume handler s stream bound
      else return ()

/-- How many reads a stream can answer: one for each element still to come, and one for the end. -/
def readsLeft (s : StreamId) : Act Nat := do
  let w ← Fiber.state
  return (w.connection (w.stream s).connection).pending.length + 1

/-- Runs one poll to the end of its stream, which is closed whatever happens. -/
def pollOnce (handler : Item → Act Unit) (s : SupervisorId) : Act Unit := do
  let stream ← poll (← supervisor s).informer
  let bound ← readsLeft stream
  Fiber.ensure (closeStream stream) (consume handler s stream bound)

/-! ### The rounds of both loops -/

/-- Logs a failed poll and waits. -/
def retryAfter (s : SupervisorId) : Failure → Act Unit
  | .transport text status => do
    let delay := (← supervisor s).retryDelay
    logOf s .warning "poll_failed"
      [("status", (status.map Json.int).getD .null), ("error", .text text),
        ("retry_in_s", .double delay)]
    sleep delay
  | failure => do
    let delay := (← supervisor s).retryDelay
    logOf s .error "poll_loop_error"
      [("error", .text failure.message), ("retry_in_s", .double delay), ("exc_info", .bool true)]
    sleep delay

/-- Answers a failed poll and says whether another one follows: a supervisor that was stopped gives
up, except after a failure of the transport, when it first waits. -/
def answerFailure (s : SupervisorId) (failure : Failure) : Act Bool := do
  if !failure.isOrdinary then Fiber.fail failure
  else
    match failure with
    | .transport .. =>
      retryAfter s failure
      return true
    | _ =>
      if (← supervisor s).running then
        retryAfter s failure
        return true
      else return false

/-- One round of the poll loop. -/
def pollRound (handler : Item → Act Unit) (s : SupervisorId) : Act Bool := do
  if (← supervisor s).running then
    match ← (pollOnce handler s).attempt with
    | .ok () => return true
    | .error failure => answerFailure s failure
  else return false

/-- One round of the status reporter. -/
def statusRound (s : SupervisorId) : Act Bool := do
  let it ← supervisor s
  if it.running then
    sleep it.statusInterval
    let informer ← informer it.informer
    logOf s .info "informer_status"
      [("version", .text (← cursor informer.cursor).version),
        ("state", .text informer.phase.name)]
    return true
  else return false

end ResumableWatch.Act
