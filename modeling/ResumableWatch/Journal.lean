import ResumableWatch.Event
import ResumableWatch.Log
/-!
# The journal

What the outside world can see of a run, in order and with the time of each entry: log lines,
requests and their responses, calls of the API client, and the marks that a scripted session
leaves.
-/

namespace ResumableWatch

/-- One thing that can be seen. -/
inductive Happening where
  | log (line : Log.Line)
  /-- A line of output on a console. -/
  | console (text : String)
  /-- A watch request: the operation that lists, where there is one, and its arguments. -/
  | request (operation : Option String) (arguments : List (String × Json))
  /-- A response, or a stream of ready-made items, was closed. -/
  | close
  /-- An object was handed to the API client as text, to be made into a model. -/
  | deserialize (text model : String)
  /-- The configuration inside a cluster was looked for. -/
  | inclusterConfiguration
  /-- The configuration of a user was looked for. -/
  | userConfiguration
  /-- The API client was closed. -/
  | clientClose
  | metricsServer (port : Int)
  /-- A signal arrived. -/
  | signal
  /-- The main task was cancelled from outside. -/
  | interrupt
  /-- An item reached the handler of a session. -/
  | item (i : Item)
  | action (name : String)
  | raised (failure : Failure)
  /-- What a session sees of an informer: its state and its version. -/
  | note (state version : String)
  /-- What a session sees of a supervisor. -/
  | supervisorView (running : Bool) (state version : String) (expired : Bool)
  /-- What a session sees of an application. -/
  | applicationView (running : Bool) (state : Option String)
  /-- A wait for a supervisor ended. -/
  | waitDone

/-- A happening and its time. -/
structure Entry where
  time : Double
  what : Happening

end ResumableWatch
