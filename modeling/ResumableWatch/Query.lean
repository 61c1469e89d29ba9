import ResumableWatch.Json.Value
/-!
# Watch queries

What a watch request asks for.  The version is advisory in the hands of a caller: every poll
replaces it with the version of its cursor.
-/

namespace ResumableWatch

/-- The options of a watch request. -/
structure Query where
  labelSelector : Option String := none
  fieldSelector : Option String := none
  timeoutSeconds : Option Int := none
  version : Option String := none
  deriving DecidableEq

namespace Query

/-- The same query from another version on. -/
def withVersion (version : String) (q : Query) : Query := { q with version := some version }

/-- A selector counts as an option only when it selects something. -/
def selector (name : String) (value : Option String) : List (String × Json) :=
  match value with
  | some s => if s.isEmpty then [] else [(name, .text s)]
  | none => []

/-- The options that are set, by the names that the API client uses. -/
def arguments (q : Query) : List (String × Json) :=
  selector "label_selector" q.labelSelector
    ++ selector "field_selector" q.fieldSelector
    ++ (q.timeoutSeconds.map fun n => ("timeout_seconds", Json.int n)).toList
    ++ (q.version.map fun v => ("resource_version", Json.text v)).toList

end Query

end ResumableWatch
