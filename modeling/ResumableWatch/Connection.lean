import ResumableWatch.Frame
import ResumableWatch.World
/-!
# Connections

Reading from and closing one connection.  A connection over HTTP takes the frames from the lines
of a body: a failure of the network is delivered as a last item, any other failure of a read
strikes the reader, and both end the frames.  The response is closed when the frames run out or
when the connection is closed, and only once.
-/

namespace ResumableWatch

namespace Connection

/-- The failure of a read that is delivered as the last item of a body. -/
def interruption (failure : Failure) : Failure :=
  .transport ("watch stream interrupted: " ++ failure.message) none

/-- The failure of a watch request, as a poll reports it. -/
def requestFailure : Failure → Failure
  | .rejected status reason =>
    .transport
      ("watch request failed: " ++ Failure.optional status ++ " " ++ Failure.optional reason) status
  | .client name text =>
    .transport ("watch request failed: " ++ (Failure.client name text).message) none
  | .timeout text => .transport ("watch request failed: " ++ text) none
  | failure => failure

end Connection

namespace Act

/-- Sets what the server will still send on a connection. -/
def keep (c : ConnectionId) (pending : List Element) : Act Unit :=
  .update (·.changeConnection c fun connection => { connection with pending })

/-- Takes no more frames from a body. -/
def endFrames (c : ConnectionId) : Act Unit :=
  .update (·.changeConnection c fun connection => { connection with ended := true })

/-- Enters what was handed to the API client. -/
def recordHandedOver : Option (String × String) → Act Unit
  | some (text, model) => record (.deserialize text model)
  | none => pure ()

/-! ### Ready items -/

/-- The next ready item, or nothing at the end. -/
def readItem (c : ConnectionId) : List Element → Act (Option Item)
  | [] => pure none
  | .delay seconds :: rest => do
    keep c rest
    sleep seconds
    readItem c rest
  | .block :: rest => do
    keep c rest
    Fiber.await .forever
    readItem c rest
  | .raise failure :: rest => do
    keep c rest
    Fiber.fail failure
  | .line _ :: rest => do
    keep c rest
    readItem c rest
  | .item handedOver made :: rest => do
    keep c rest
    recordHandedOver handedOver
    return some (← Fiber.ofExcept made)

/-! ### Body lines -/

/-- The content of the next line that is not blank, or nothing at the end of the body.  A read fails
with any failure there is, and this failure leaves the generator; there is none that says that an
iteration is over, which would be replaced on the way. -/
def readLine (c : ConnectionId) : List Element → Act (Option (List UInt8))
  | [] => pure none
  | .delay seconds :: rest => do
    keep c rest
    sleep seconds
    readLine c rest
  | .block :: rest => do
    keep c rest
    Fiber.await .forever
    readLine c rest
  | .raise failure :: rest => do
    keep c rest
    Fiber.fail failure
  | .item .. :: rest => do
    keep c rest
    readLine c rest
  | .line bytes :: rest => do
    keep c rest
    if bytes.isEmpty then return none
    else if (Frame.content bytes).isEmpty then readLine c rest
    else return some (Frame.content bytes)

/-- The item of a line; a failure that is no item ends the frames. -/
def decodeLine (c : ConnectionId) (decoder : Option Decoder) (line : List UInt8) : Act Item := do
  recordHandedOver (Frame.handedOver? decoder line)
  match Frame.item decoder line with
  | .ok item => return item
  | .error failure =>
    endFrames c
    Fiber.fail failure

/-- The next item of a body, or nothing when the frames have run out. -/
def nextFrame (c : ConnectionId) (decoder : Option Decoder) : Act (Option Item) := do
  let connection := (← Fiber.state).connection c
  if connection.ended then return none
  else
    match ← (readLine c connection.pending).attempt with
    | .ok (some line) => return some (← decodeLine c decoder line)
    | .ok none =>
      endFrames c
      return none
    | .error failure =>
      endFrames c
      if failure.interruptsStream then return some (.failure (Connection.interruption failure))
      else Fiber.fail failure

/-! ### The connection as a whole -/

/-- Marks the connection as closed, unless it has been closed before. -/
def markClosed (c : ConnectionId) : Act Unit := do
  if !((← Fiber.state).connection c).closed then Fiber.update (·.markClosed c)

/-- Fails if closing the connection fails. -/
def failClosing (c : ConnectionId) : Act Unit := do
  match ((← Fiber.state).connection c).closeFailure with
  | some failure => Fiber.fail failure
  | none => return ()

/-- Closes the response of a body, once. -/
def closeResponse (c : ConnectionId) : Act Unit := do
  if ((← Fiber.state).connection c).closed then return ()
  else
    markClosed c
    failClosing c

/-- The next item, or nothing at the end. -/
def nextItem (c : ConnectionId) : Act (Option Item) := do
  let connection := (← Fiber.state).connection c
  match connection.transport with
  | .feed =>
    if connection.closed then return none
    else readItem c connection.pending
  | .http endpoint =>
    match ← nextFrame c endpoint.decoder with
    | some item => return some item
    | none =>
      closeResponse c
      return none

/-- Closes the connection.  Ready items that cannot be closed are left alone, and their closing
fails every time if it fails. -/
def closeConnection (c : ConnectionId) : Act Unit := do
  let connection := (← Fiber.state).connection c
  match connection.transport with
  | .feed =>
    if connection.closable then
      markClosed c
      failClosing c
    else return ()
  | .http _ =>
    endFrames c
    closeResponse c

/-! ### Opening -/

/-- What a watch request comes to: the elements of a stream, whether closing it fails, and whether
it can be closed. -/
def meet (answer : Answer) : Act (List Element × Option Failure × Bool) := do
  match answer.delay with
  | some seconds => sleep seconds
  | none => pure ()
  match answer.reply with
  | .raise failure => Fiber.fail failure
  | .block =>
    Fiber.await .forever
    Fiber.fail .cancelled
  | .stream elements closeFailure closable => return (elements, closeFailure, closable)

/-- Issues a watch request and waits for its stream. -/
def request (transport : Transport) (query : Query) :
    Act (List Element × Option Failure × Bool) := do
  let (answer, server) := (← Fiber.state).server.answer
  Fiber.update fun w => { w with server }
  record (.request transport.operation (transport.arguments query))
  meet answer

/-- A new connection. -/
def addConnection (connection : Connection) : Act ConnectionId := do
  let c := (← Fiber.state).connections.length
  Fiber.update fun w => { w with connections := w.connections ++ [connection] }
  return c

/-- Opens a connection: over HTTP a failed request is a failure of the transport. -/
def openConnection (transport : Transport) (query : Query) : Act ConnectionId := do
  match transport with
  | .feed =>
    let (pending, closeFailure, closable) ← request transport query
    addConnection { transport, pending, closeFailure, closable }
  | .http endpoint =>
    let (pending, closeFailure, _) ←
      (request transport query).recover fun failure => .fail (Connection.requestFailure failure)
    log .debug ("transport." ++ endpoint.name) "watch_opened"
      (("transport", .text endpoint.name) :: query.arguments)
    addConnection { transport, pending, closeFailure }

end Act

end ResumableWatch
