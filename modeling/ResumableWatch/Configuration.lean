import ResumableWatch.Kind
import ResumableWatch.Number.Numeral
/-!
# Configuration

What to watch, how to recover, where to expose metrics and what to log.  `load` reads the variables
of an environment in a fixed order and stops at the first bad one; `Overrides.apply` then lays the
options of a command line over the result.
-/

namespace ResumableWatch

open Number Text

/-- What to watch and how long each connection stays open. -/
structure WatchSettings where
  kind : String := "configmap"
  namespaceName : String := ""
  labelSelector : String := ""
  fieldSelector : String := ""
  timeoutSeconds : Int := 290
  deriving DecidableEq

/-- The waits of recovery and supervision. -/
structure RecoverySettings where
  backoff : Double := .ofInt 10
  retryDelay : Double := .ofInt 5
  statusInterval : Double := .ofInt 30
  deriving DecidableEq

/-- How much is logged and in which form. -/
structure LogSettings where
  level : String := "info"
  format : String := "json"
  deriving DecidableEq

/-- The whole configuration; port zero turns the metrics exporter off. -/
structure Configuration where
  watch : WatchSettings := {}
  recovery : RecoverySettings := {}
  metricsPort : Int := 0
  log : LogSettings := {}
  deriving DecidableEq

namespace Configuration

/-- Why an environment gives no configuration. -/
inductive SettingError where
  | kind (cause : Kind.Error)
  | numeral (cause : NumeralError)
  | port (value : Int)
  | logLevel (value : String)
  | logFormat (value : String)
  deriving DecidableEq

/-- What a message says about the failure. -/
def SettingError.message : SettingError → String
  | .kind cause => cause.message
  | .numeral cause => cause.message
  | .port value => "Invalid metrics port: " ++ toString value ++ ". Must be 0 or 1024-65535"
  | .logLevel value =>
    "Invalid log level: " ++ value ++ ". Must be one of \x7b'debug', 'error', 'info', 'warning'\x7d"
  | .logFormat value =>
    "Invalid log format: " ++ value ++ ". Must be one of ('json', 'console')"

/-- The levels that may be configured. -/
def logLevels : List String := ["debug", "info", "warning", "error"]

/-- The forms in which log lines may be written. -/
def logFormats : List String := ["json", "console"]

/-- The variables of an environment, named without the part that all of them share. -/
abbrev Environment := List (String × String)

/-- What the names of all variables begin with. -/
def sharedName : String := "KUBEINFORMER_"

/-- The variables that are read. -/
def variableNames : List String := [
  "KIND", "NAMESPACE", "LABEL_SELECTOR", "FIELD_SELECTOR", "WATCH_TIMEOUT", "RESYNC_BACKOFF",
  "RETRY_DELAY", "STATUS_INTERVAL", "METRICS_PORT", "LOG_LEVEL", "LOG_FORMAT"]

/-- The value of a variable, or what it is without one. -/
def Environment.value (env : Environment) (key default : String) : String :=
  (env.lookup key).getD default

/-- A whole number within bounds; what lies outside is moved to the bound. -/
def wholeWithin (low high : Int) (source : String) : Except SettingError Int :=
  match integer source with
  | .error cause => .error (.numeral cause)
  | .ok n => .ok (min (max n low) high)

/-- A number that is moved up to `low` where it is less. -/
def numberFrom (low : Double) (source : String) : Except SettingError Double :=
  match double source with
  | .error cause => .error (.numeral cause)
  | .ok d => .ok (d.max low)

/-- The name of a supported kind, in lower case. -/
def kindNamed (source : String) : Except SettingError String :=
  if (Kind.find? (lower source)).isSome then .ok (lower source)
  else .error (.kind (.unsupported source))

/-- The port of the metrics exporter. -/
def exporterPort (source : String) : Except SettingError Int :=
  match integer source with
  | .error cause => .error (.numeral cause)
  | .ok n => if n = 0 ∨ (1024 ≤ n ∧ n ≤ 65535) then .ok n else .error (.port n)

/-- A log level, in lower case. -/
def logLevel (source : String) : Except SettingError String :=
  if lower source ∈ logLevels then .ok (lower source) else .error (.logLevel source)

/-- A log format, in lower case. -/
def logFormat (source : String) : Except SettingError String :=
  if lower source ∈ logFormats then .ok (lower source) else .error (.logFormat source)

/-- The configuration that an environment describes. -/
def load (env : Environment) : Except SettingError Configuration := do
  let kind ← kindNamed (env.value "KIND" "configmap")
  let timeoutSeconds ← wholeWithin 1 3600 (env.value "WATCH_TIMEOUT" "290")
  let backoff ← numberFrom (.ofInt 0) (env.value "RESYNC_BACKOFF" "10.0")
  let retryDelay ← numberFrom (.ofInt 0) (env.value "RETRY_DELAY" "5.0")
  let statusInterval ← numberFrom (.ofInt 1) (env.value "STATUS_INTERVAL" "30.0")
  let metricsPort ← exporterPort (env.value "METRICS_PORT" "0")
  let level ← logLevel (env.value "LOG_LEVEL" "info")
  let format ← logFormat (env.value "LOG_FORMAT" "json")
  return {
    watch := {
      kind, timeoutSeconds
      namespaceName := env.value "NAMESPACE" ""
      labelSelector := env.value "LABEL_SELECTOR" ""
      fieldSelector := env.value "FIELD_SELECTOR" "" }
    recovery := { backoff, retryDelay, statusInterval }
    metricsPort
    log := { level, format } }

end Configuration

/-- The options of a command line that are laid over a configuration; none leaves it as it is. -/
structure Overrides where
  kind : Option String := none
  namespaceName : Option String := none
  labelSelector : Option String := none
  fieldSelector : Option String := none
  timeoutSeconds : Option Int := none
  logLevel : Option String := none
  logFormat : Option String := none
  deriving DecidableEq

/-- The configuration with the given options in place; a kind and a level go to lower case. -/
def Overrides.apply (o : Overrides) (c : Configuration) : Configuration where
  watch := {
    kind := (o.kind.map lower).getD c.watch.kind
    namespaceName := o.namespaceName.getD c.watch.namespaceName
    labelSelector := o.labelSelector.getD c.watch.labelSelector
    fieldSelector := o.fieldSelector.getD c.watch.fieldSelector
    timeoutSeconds := o.timeoutSeconds.getD c.watch.timeoutSeconds }
  recovery := c.recovery
  metricsPort := c.metricsPort
  log := {
    level := (o.logLevel.map lower).getD c.log.level
    format := o.logFormat.getD c.log.format }

end ResumableWatch
