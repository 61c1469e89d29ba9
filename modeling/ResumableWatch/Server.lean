import ResumableWatch.Event
import ResumableWatch.Query
/-!
# The other side of a connection

What the API server sends in answer to watch requests, one answer per request.  A stream holds ready
items or the lines of a response body, with waits and failures between them.
-/

namespace ResumableWatch

/-- One element of a stream. -/
inductive Element where
  | delay (seconds : Double)
  /-- Nothing more comes, and the stream does not end. -/
  | block
  /-- This read fails; the next one goes on behind it. -/
  | raise (failure : Failure)
  /-- A line of a body; no bytes at all are its end. -/
  | line (bytes : List UInt8)
  /-- A ready item, what was handed to the API client for it, or the failure to make it. -/
  | item (handedOver : Option (String × String)) (made : Except Failure Item)

/-- What one watch request meets after the delay. -/
inductive Reply where
  | raise (failure : Failure)
  /-- No answer ever comes. -/
  | block
  /-- A stream; closing it may fail, and a stream of ready items may have no way to be closed. -/
  | stream (elements : List Element) (closeFailure : Option Failure) (closable : Bool)

/-- The answer to one watch request. -/
structure Answer where
  delay : Option Double := none
  reply : Reply

/-- The answers still to come, and the one that follows them for ever. -/
structure Server where
  script : List Answer := []
  afterwards : Answer := { reply := .stream [] none true }

/-- The answer to the next request, and the server behind it. -/
def Server.answer (s : Server) : Answer × Server :=
  match s.script with
  | [] => (s.afterwards, s)
  | first :: rest => (first, { s with script := rest })

/-- How an informer reaches the server over HTTP. -/
structure Endpoint where
  name : String
  decoder : Option Decoder := none
  /-- The operation that lists, where it is known by name. -/
  operation : Option String := none
  namespaceName : Option String := none

/-- Where streams come from. -/
inductive Transport where
  /-- Ready items. -/
  | feed
  /-- The lines of a response body. -/
  | http (endpoint : Endpoint)

/-- The arguments of a watch request. -/
def Transport.arguments (t : Transport) (q : Query) : List (String × Json) :=
  match t with
  | .feed => q.arguments
  | .http endpoint =>
    (endpoint.namespaceName.map fun n => ("namespace", Json.text n)).toList
      ++ ("watch", .bool true) :: ("_preload_content", .bool false) :: q.arguments

/-- The operation that a watch request calls. -/
def Transport.operation : Transport → Option String
  | .feed => none
  | .http endpoint => endpoint.operation

end ResumableWatch
