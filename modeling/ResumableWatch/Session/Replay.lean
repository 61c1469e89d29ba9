import ResumableWatch.Session.Applications
/-!
# Replays

A replay runs the application on a watch response that was recorded: the lines of its body are the
only stream that the server has, and a signal ends the run once they have been read.
-/

namespace ResumableWatch

/-- What a replay writes, and its exit code. -/
structure Replay where
  lines : List String
  exitCode : Nat
  /-- The message of a failure that ended the run. -/
  failure : Option String := none

namespace Replay

/-- The server that has one body to send. -/
def server (body : List (List UInt8)) : Server where
  script := [{ reply := .stream (body.map .line) none true }]
  afterwards := { reply := .block }

/-- When the signal arrives; the body takes no time. -/
def signalTime : Double := .ofDecimal false 5 (-1)

/-- The line of output that an entry of the journal stands for, if it stands for one. -/
def line? (entry : Entry) : Option String :=
  match entry.what with
  | .log line => some line.json
  | .console text => some text
  | _ => none

/-- What a run wrote, and how it ended. -/
def ofRun (r : Run) : Replay where
  lines := r.world.entries.filterMap line?
  exitCode :=
    match Session.outcome r with
    | .ok () => 0
    | .error (.exit code) => code
    | .error _ => 1
  failure :=
    match Session.outcome r with
    | .error failure => if failure.isOrdinary then some failure.message else none
    | _ => none

/-- Replays a body under a configuration. -/
def run (configuration : Configuration) (body : List (List UInt8)) : Replay :=
  ofRun (Session.runMain { signals := [signalTime] }
    (Session.applicationWorld {} (server body) (some configuration)))

end Replay

end ResumableWatch
