import ResumableWatch.Supervisor
/-!
# Handlers

What is done with the items of a supervised informer: the application logs each of them, and the
handler of a session follows its plan.
-/

namespace ResumableWatch.Act

/-! ### The application -/

/-- The component of the log lines of the application. -/
def applicationComponent : String := "app"

/-- A member of the metadata of an undecoded object, empty where it is missing. -/
def metadataMember (name : String) (metadata : List (String × Json)) : Json :=
  (Json.member? name metadata).getD (.text "")

/-- The metadata of an undecoded object; an object without metadata has an empty one. -/
def metadataOf (raw : Json) : Except Failure (List (String × Json)) :=
  match raw with
  | .object members =>
    match (Json.member? "metadata" members).getD (.object []) with
    | .object metadata => .ok metadata
    | v => .error (.missingAttribute v.typeName "get")
  | v => .error (.missingAttribute v.typeName "get")

/-- Logs an event that is about an object. -/
def logObject (event : Event) : Act Unit := do
  let metadata ← Fiber.ofExcept (metadataOf event.raw)
  let version ← Fiber.ofExcept event.version
  log .info applicationComponent "event"
    [("event_type", .text event.type.name), ("namespace", metadataMember "namespace" metadata),
      ("name", metadataMember "name" metadata), ("resource_version", .text version)]

/-- What is missed first in a failure that is not of this library and is taken for an event.  A
rejection has a status, which is a number where there is one. -/
def missedIn : Failure → Failure
  | .rejected (some _) _ => .missingAttribute "int" "code"
  | failure@(.rejected none _) => .missingAttribute failure.typeName "raw"
  | failure => .missingAttribute failure.typeName "status"

/-- Logs one item. -/
def logItem : Item → Act Unit
  | .failure failure =>
    if failure.isOwn then
      log .warning applicationComponent "stream item error"
        [("error", .text failure.message), ("error_type", .text failure.typeName)]
    else Fiber.fail (missedIn failure)
  | .event event =>
    match event.status with
    | some status =>
      log .warning applicationComponent "server error event"
        [("code", .int status.code), ("reason", .text status.reason)]
    | none => logObject event

/-! ### A plan -/

/-- Does one of the things that a plan may ask for. -/
def whenAsked {α : Type} (asked : Option α) (act : α → Act Unit) : Act Unit :=
  match asked with
  | some a => act a
  | none => pure ()

/-- Follows a plan. -/
def follow (s : SupervisorId) (plan : Plan) : Act Unit := do
  let i := (← supervisor s).informer
  whenAsked plan.delay sleep
  whenAsked plan.setVersion (setVersion i)
  if plan.resetVersion then resetVersion i
  if plan.stop then stopSupervisor s
  whenAsked plan.raise Fiber.fail

/-- The number of the next item for the planned handler. -/
def countHandled : Act Nat := do
  let n := (← Fiber.state).rehearsal.handled
  Fiber.update (·.changeRehearsal fun kept => { kept with handled := n + 1 })
  return n

/-! ### Both -/

/-- Gives an item to the handler of a supervisor. -/
def handle (s : SupervisorId) (item : Item) : Act Unit := do
  match (← supervisor s).handler with
  | .logging => logItem item
  | .planned =>
    let n ← countHandled
    record (.item item)
    whenAsked ((← Fiber.state).rehearsal.plans.lookup n) (follow s)

end ResumableWatch.Act
