import ResumableWatch.Json.Display
import ResumableWatch.Json.Printer
import ResumableWatch.Text.Blank
import ResumableWatch.Text.Letter
/-!
# Log lines

A line has a level, an event name and fields.  Until logging is set up every line is kept; a set-up
keeps the lines from its level on, adds the bound context to them, and writes them as JSON or for a
console.
-/

namespace ResumableWatch.Log

/-- How serious a line is. -/
inductive Level where
  | debug
  | info
  | warning
  | error
  | critical
  deriving DecidableEq

namespace Level

/-- The name of a level. -/
def name : Level → String
  | .debug => "debug"
  | .info => "info"
  | .warning => "warning"
  | .error => "error"
  | .critical => "critical"

/-- The rank of a level; a set-up compares ranks. -/
def rank : Level → Nat
  | .debug => 10
  | .info => 20
  | .warning => 30
  | .error => 40
  | .critical => 50

/-- All levels. -/
def all : List Level := [debug, info, warning, error, critical]

/-- Second names of levels. -/
def aliases : List (String × Level) := [("msg", info), ("warn", warning), ("fatal", critical)]

/-- The level of that name. -/
def ofName? (name : String) : Option Level :=
  match all.find? (·.name == name) with
  | some level => some level
  | none => aliases.lookup name

/-- A way to write a line: its level, and what it adds to the fields.  One that reports an exception
is at the level of errors. -/
def way? (name : String) : Option (Level × List (String × Json)) :=
  if name = "exception" then some (error, [("exc_info", .bool true)])
  else (ofName? name).map fun level => (level, [])

end Level

/-- The ranks that have names in a set-up. -/
def thresholds : List (String × Nat) := [
  ("CRITICAL", 50), ("FATAL", 50), ("ERROR", 40), ("WARN", 30), ("WARNING", 30), ("INFO", 20),
  ("DEBUG", 10), ("NOTSET", 0)]

/-- The least rank that a level name keeps; an unknown name is read as `info`. -/
def threshold (level : String) : Nat := (thresholds.lookup (Text.upper level)).getD 20

/-- How log lines are kept and written. -/
structure Setup where
  threshold : Nat
  console : Bool
  deriving DecidableEq

/-- The set-up for a level and a format. -/
def setup (level format : String) : Setup where
  threshold := Log.threshold level
  console := format == "console"

/-- What is attached to every line of a task: the kind and the namespace that it watches. -/
structure Context where
  kind : String
  namespaceName : String
  deriving DecidableEq

/-- The context for a kind and a namespace; no namespace stands for all of them. -/
def Context.bound (kind namespaceName : String) : Context where
  kind
  namespaceName := if namespaceName.isEmpty then "*" else namespaceName

/-- The context as fields of a line. -/
def Context.fields (c : Context) : List (String × Json) :=
  [("watch_kind", .text c.kind), ("watch_namespace", .text c.namespaceName)]

/-- One line. -/
structure Line where
  level : Level
  event : String
  fields : List (String × Json)

/-- The fields to which a set-up gives a meaning of its own: it writes the first two itself, and the
last one asks for a trace. -/
def reservedFields : List String := ["level", "ts", "stack_info"]

/-- The fields that a set-up keeps as they are. -/
def unreserved (fields : List (String × Json)) : List (String × Json) :=
  fields.filter fun (name, _) => !reservedFields.contains name

/-- The line as it is kept: the fields of the call replace the component, and both replace the
context. -/
def Line.assemble (level : Level) (event : String) (context : Option Context) (component : String)
    (fields : List (String × Json)) : Line where
  level
  event
  fields := Json.ofWritten
    ((context.map Context.fields).getD [] ++ ("component", .text component) :: fields)

/-- The line as JSON text. -/
def Line.json (line : Line) : String :=
  Json.print (.object (line.fields
    ++ [("event", .text line.event), ("level", .text line.level.name)]))

/-- The fields that a console shows on lines of their own, below the others. -/
def blockFields : List String := ["stack", "exception"]

/-- The line for a console: the level, the event, and the fields as messages quote them.  The event
and the blocks below can break it; lines without anything on them are left out. -/
def Line.console (line : Line) : List String :=
  let (blocks, fields) := line.fields.partition fun (name, _) => blockFields.contains name
  let shown := fields.map fun (name, v) => " " ++ name ++ "=" ++ v.quote
  let head := "[" ++ line.level.name ++ "] " ++ line.event ++ String.join shown
  let written := (head :: blocks.map fun (_, v) => v.display).flatMap (·.splitOn "\n")
  written.filter fun text => text.toList.any (!Text.isBlank ·)

end ResumableWatch.Log
