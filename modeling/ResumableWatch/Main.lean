import ResumableWatch.CommandLine.Request
import ResumableWatch.Session.Replay
/-!
# The program

Reads the command line and the environment, and does what they ask for.  What is watched is the body
of a watch response on standard input.
-/

namespace ResumableWatch.Program

open CommandLine

/-- The variables of the environment that the configuration reads. -/
def environment : List String → IO Configuration.Environment
  | [] => return []
  | name :: rest => do
    let others ← environment rest
    match ← IO.getEnv (Configuration.sharedName ++ name) with
    | some value => return (name, value) :: others
    | none => return others

/-- All bytes of a stream. -/
partial def readBytes (input : IO.FS.Stream) (before : ByteArray) : IO ByteArray := do
  let part ← input.read 65536
  if part.isEmpty then return before else readBytes input (before ++ part)

/-- Replays the body on standard input. -/
def replay (configuration : Configuration) : IO UInt32 := do
  let body ← readBytes (← IO.getStdin) .empty
  let replayed := Replay.run configuration (Frame.lines body.toList)
  for line in replayed.lines do
    IO.println line
  for message in replayed.failure do
    IO.eprintln message
  return UInt32.ofNat replayed.exitCode

/-- Does what a command line asks for. -/
def run (words : List String) : IO UInt32 := do
  match Request.read (← environment Configuration.variableNames) words with
  | .error refusal =>
    IO.eprint refusal.output.text
    return UInt32.ofNat refusal.output.exitCode
  | .ok (.watch configuration) => replay configuration
  | .ok request =>
    IO.print request.output.text
    return UInt32.ofNat request.output.exitCode

end ResumableWatch.Program

/-- Runs the program on the words of its command line. -/
def main (words : List String) : IO UInt32 := ResumableWatch.Program.run words
