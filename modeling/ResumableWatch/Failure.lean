import ResumableWatch.Configuration
import ResumableWatch.Json.Display
/-!
# Failures

Everything that can go wrong, by its cause.  The first three are this library's own: they are also
delivered to the consumer as items of a stream.  The others come from outside (the API client, the
network, a handler) or from values that could not be used.  `Failure.message` words each of them.

Left out is the failure that says that an iteration is over: a body read or a handler that raises it
has it turned into another failure by the generator that it passes through, while those that are here
pass as they are.
-/

namespace ResumableWatch

/-- What a rejected frame or object looked like. -/
inductive Evidence where
  | none
  | bytes (line : List UInt8)
  | json (value : Json)

/-- What went wrong. -/
inductive Failure where
  /-- The watch request failed, or its stream broke. -/
  | transport (text : String) (status : Option Int)
  /-- A frame could not be decoded. -/
  | undecodable (text : String) (raw : Evidence)
  /-- Any other failure of an informer. -/
  | informer (text : String)
  /-- The task was cancelled; this is no ordinary failure. -/
  | cancelled
  /-- The API server rejected a request. -/
  | rejected (status : Option Int) (reason : Option String)
  /-- The HTTP client failed; `name` is its name for the failure. -/
  | client (name text : String)
  /-- The HTTP client waited too long. -/
  | timeout (text : String)
  /-- A bad value was reported from outside; `name` is the reporter's name for the failure. -/
  | badValue (name text : String)
  /-- There is no configuration to be found where it was looked for. -/
  | unconfigured (text : String)
  /-- No entry has that key. -/
  | missingKey (key : Option String)
  /-- Text is no number. -/
  | numeral (cause : Number.NumeralError)
  /-- A number too large for any whole number. -/
  | overflow
  /-- Text is no event type. -/
  | unknownType (text : String)
  /-- A value of that type has no such attribute. -/
  | missingAttribute (typeName member : String)
  /-- Nesting too deep to follow. -/
  | tooDeep (text : String)
  /-- An environment gives no configuration. -/
  | setting (cause : Configuration.SettingError)
  /-- A kind cannot be listed. -/
  | kind (cause : Kind.Error)
  /-- A task waited for itself. -/
  | selfWait
  /-- A stream was asked for something while it was being read; `call` is what it was asked. -/
  | reading (call : String)
  /-- A component of the application did not start. -/
  | component (name : String) (cause : Failure)
  /-- The program ends with an exit code; this is no ordinary failure. -/
  | exit (code : Nat)
  /-- A failure from outside that is to end everything; this is no ordinary failure. -/
  | severe (name text : String)
  /-- Anything else from outside; `name` is the reporter's name for the failure. -/
  | foreign (name text : String)

namespace Failure

/-- An optional value in a message. -/
def optional {α : Type} [ToString α] : Option α → String
  | some a => toString a
  | none => "None"

/-- What a message says about the failure.  The texts of failures from outside are assumed to be
readable: a failure that itself fails when it is asked for its text is left out. -/
def message : Failure → String
  | .transport text _ => text
  | .undecodable text _ => text
  | .informer text => text
  | .cancelled => ""
  | .rejected status reason =>
    "(" ++ optional status ++ ")\nReason: " ++ optional reason ++ "\n"
  | .client _ text => text
  | .timeout text => text
  | .badValue _ text => text
  | .unconfigured text => text
  | .missingKey key => (key.map Text.quoted).getD ""
  | .numeral cause => cause.message
  | .overflow => "cannot convert float infinity to integer"
  | .unknownType text => Text.quoted text ++ " is not a valid EventType"
  | .missingAttribute typeName member =>
    "'" ++ typeName ++ "' object has no attribute '" ++ member ++ "'"
  | .tooDeep text => text
  | .setting cause => cause.message
  | .kind cause => cause.message
  | .selfWait => "Task cannot await on itself"
  | .reading call => call ++ "(): asynchronous generator is already running"
  | .component name cause => "Component '" ++ name ++ "' failed to start: " ++ cause.message
  | .exit code => toString code
  | .severe _ text => text
  | .foreign _ text => text

/-- The name of the kind of failure. -/
def typeName : Failure → String
  | .transport .. => "TransportError"
  | .undecodable .. => "DeserializationError"
  | .informer _ => "InformerError"
  | .cancelled => "CancelledError"
  | .rejected .. => "ApiException"
  | .client name _ => name
  | .timeout _ => "TimeoutError"
  | .badValue name _ => name
  | .unconfigured _ => "ConfigException"
  | .missingKey _ => "KeyError"
  | .numeral _ => "ValueError"
  | .overflow => "OverflowError"
  | .unknownType _ => "ValueError"
  | .missingAttribute .. => "AttributeError"
  | .tooDeep _ => "RecursionError"
  | .setting _ => "ValueError"
  | .kind _ => "ValueError"
  | .selfWait => "RuntimeError"
  | .reading _ => "RuntimeError"
  | .component .. => "_ComponentError"
  | .exit _ => "SystemExit"
  | .severe name _ => name
  | .foreign name _ => name

/-- The failures that a loop may answer by trying again; a cancellation, an exit and a severe
failure pass through everything. -/
def isOrdinary : Failure → Bool
  | .cancelled => false
  | .exit _ => false
  | .severe .. => false
  | _ => true

/-- The failures of reading a body that are delivered as the last item of its stream. -/
def interruptsStream : Failure → Bool
  | .client .. => true
  | .timeout _ => true
  | .badValue .. => true
  | .numeral _ => true
  | .unknownType _ => true
  | .setting _ => true
  | .kind _ => true
  | _ => false

/-- The failures that are expected among the items of a stream: this library's own. -/
def isOwn : Failure → Bool
  | .transport .. => true
  | .undecodable .. => true
  | .informer _ => true
  | _ => false

end Failure

end ResumableWatch
