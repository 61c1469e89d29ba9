import ResumableWatch.Failure
/-!
# Watch events

One notification of a watch stream, and how it comes from a decoded JSON frame.  `Event.readWith`
checks the frame in a fixed order: it is an object, its type is known, it carries an object, and
that object is a status (of an error event) or is accepted by the decoder (of the others).  It asks
the decoder in a monad, so that the questions can be counted; the stream reads its frames by
`Event.ofFrame?`, where a decoder has no effects.

`Event.version` is the resource version that an event carries: the one of the decoded model where
it has one, else the one in the undecoded object.
-/

namespace ResumableWatch

/-- What happened to the object. -/
inductive EventType where
  | added
  | modified
  | deleted
  | error
  deriving DecidableEq

namespace EventType

/-- The type in a frame. -/
def name : EventType → String
  | .added => "ADDED"
  | .modified => "MODIFIED"
  | .deleted => "DELETED"
  | .error => "ERROR"

/-- All types. -/
def all : List EventType := [.added, .modified, .deleted, .error]

/-- The type of that name. -/
def ofName? (name : String) : Option EventType := all.find? (·.name == name)

/-- The type that a value in a frame names. -/
def ofJson? : Json → Option EventType
  | .text s => ofName? s
  | _ => none

end EventType

/-! ### Status -/

/-- What the server says in an error event. -/
structure Status where
  code : Int
  message : String := ""
  reason : String := ""
  status : String := "Failure"
  deriving DecidableEq

namespace Status

/-- The code of a version that has left the history of the server. -/
def goneCode : Int := 410

/-- Whether the requested version is no longer kept. -/
def isGone (s : Status) : Bool := s.code == goneCode

/-- The whole number of a status code; a code that is none has no failure of its own. -/
def codeOf : Json → Except Failure (Option Int)
  | .bool b => .ok (some (if b then 1 else 0))
  | .int n => .ok (some n)
  | .double (.infinite _) => .error .overflow
  | .double d => .ok d.truncate?
  | .text s =>
    match Number.integer s with
    | .ok n => .ok (some n)
    | .error _ => .ok none
  | _ => .ok none

/-- The text of a member, or what it is without one. -/
def textOf (name default : String) (members : List (String × Json)) : String :=
  ((Json.member? name members).map Json.display).getD default

/-- The status that an object holds. -/
def ofMembers (members : List (String × Json)) : Except Failure Status :=
  match codeOf ((Json.member? "code" members).getD (.int 0)) with
  | .error failure => .error failure
  | .ok none =>
    .error (.undecodable
      ("invalid status code: " ++ ((Json.member? "code" members).getD .null).quote)
      (.json (.object members)))
  | .ok (some code) =>
    .ok {
      code
      message := textOf "message" "" members
      reason := textOf "reason" "" members
      status := textOf "status" "Failure" members }

/-- The status that a value holds; only an object has members to look up. -/
def ofJson : Json → Except Failure Status
  | .object members => ofMembers members
  | v => .error (.missingAttribute v.typeName "get")

end Status

/-! ### Decoded objects -/

/-- The metadata of a model. -/
inductive ModelMetadata where
  /-- The model has no such attribute. -/
  | absent
  | null
  /-- Metadata without a resource version. -/
  | unversioned
  | versioned (version : Json)

/-- An object that a decoder made of JSON. -/
structure Model where
  kind : Option String := none
  metadata : ModelMetadata

/-- The decoded object of an event. -/
inductive Decoded where
  | nothing
  /-- The undecoded object itself. -/
  | same
  | value (v : Json)
  | model (m : Model)

/-- Turns the object of a frame into a model, or refuses it.  A decoder leaves the object that it is
given as it is; one that changes it would change the event, which keeps the same object. -/
structure Decoder where
  decode : List (String × Json) → Except Failure Decoded
  /-- What the decoder hands to the API client for an object: its text and the model wanted. -/
  handsOver : List (String × Json) → Option (String × String) := fun _ => none

/-! ### Events -/

/-- A notification; the status is there for error events. -/
structure Event where
  type : EventType
  object : Decoded := .nothing
  raw : Json := .object []
  status : Option Status := none

namespace Event

/-- The undecoded object that stands for a decoded one when none is given. -/
def rawOf (object : Json) : Json :=
  match object with
  | .object _ => object
  | _ => .object []

/-- An event about a JSON object; it is its own undecoded object unless another is given. -/
def ofObject (type : EventType) (object : Json) (raw : Json) : Event :=
  match raw, object with
  | .null, .object _ => { type, object := .same, raw := object }
  | .null, .null => { type }
  | .null, _ => { type, object := .value object }
  | _, .null => { type, raw }
  | _, _ => { type, object := .value object, raw }

/-- An event about a model. -/
def ofModel (type : EventType) (m : Model) (raw : Json) : Event :=
  match raw with
  | .null => { type, object := .model m }
  | _ => { type, object := .model m, raw }

/-- An error event; an undecoded object that is vacant is dropped. -/
def ofStatus (status : Status) (raw : Json) : Event where
  type := .error
  raw := if raw.isVacant then .object [] else raw
  status := some status

/-- The version of a decoded model, unless it is vacant. -/
def modelVersion? : Decoded → Option String
  | .model { metadata := .versioned v, .. } => if v.isVacant then none else some v.display
  | _ => none

/-- The version in an undecoded object, unless it is vacant. -/
def rawVersion? (members : List (String × Json)) : Option String :=
  match Json.member? "metadata" members with
  | some (.object metadata) =>
    match Json.member? "resourceVersion" metadata with
    | some v => if v.isVacant then none else some v.display
    | none => none
  | _ => none

/-- The resource version that the event carries, empty where it carries none.  An undecoded object
that is no object has no members to look it up in. -/
def version (e : Event) : Except Failure String :=
  match e.type with
  | .error => .ok ""
  | _ =>
    match modelVersion? e.object with
    | some v => .ok v
    | none =>
      match e.raw with
      | .object members => .ok ((rawVersion? members).getD "")
      | v => .error (.missingAttribute v.typeName "get")

/-- The known type and the object of a frame. -/
def shape? (frame : Json) : Except Failure (EventType × List (String × Json)) :=
  match frame with
  | .object members =>
    match EventType.ofJson? ((Json.member? "type" members).getD .null) with
    | none =>
      .error (.undecodable
        ("unknown watch event type: " ++ ((Json.member? "type" members).getD .null).quote)
        (.json frame))
    | some type =>
      match Json.member? "object" members with
      | some (.object object) => .ok (type, object)
      | _ => .error (.undecodable "watch frame has no object" (.json frame))
  | _ => .error (.undecodable "watch frame is not an object" (.json frame))

/-- The event of an object frame, by what its decoder answers; a failure that is no ordinary one
passes as it is. -/
def ofAnswer (frame : Json) (type : EventType) (members : List (String × Json)) :
    Except Failure Decoded → Except Failure Event
  | .ok object => .ok { type, object, raw := .object members }
  | .error failure =>
    if failure.isOrdinary then
      .error (.undecodable
        ("failed to decode " ++ type.name ++ " object: " ++ failure.message) (.json frame))
    else .error failure

section

/- The effects that a decoder may have; `Id` is a decoder without any. -/
variable {m : Type → Type} [Monad m]

/-- Reads a frame of a known type with an object: a status is read here, any other object by the
decoder, if there is one. -/
def readObject (decode : Option (List (String × Json) → m (Except Failure Decoded))) (frame : Json)
    (type : EventType) (members : List (String × Json)) : m (Except Failure Event) :=
  match type with
  | .error =>
    match Status.ofMembers members with
    | .error failure => return .error failure
    | .ok status => return .ok (ofStatus status (.object members))
  | _ =>
    match decode with
    | none => return .ok { type, object := .same, raw := .object members }
    | some ask => return ofAnswer frame type members (← ask members)

/-- Reads a frame; the decoder is not asked before type and object are found. -/
def readWith (decode : Option (List (String × Json) → m (Except Failure Decoded))) (frame : Json) :
    m (Except Failure Event) :=
  match shape? frame with
  | .error failure => return .error failure
  | .ok (type, members) => readObject decode frame type members

end

/-- The event that a frame of a known type with an object describes. -/
def ofObjectFrame (decoder : Option Decoder) (frame : Json) (type : EventType)
    (members : List (String × Json)) : Except Failure Event :=
  Id.run (readObject (decoder.map Decoder.decode) frame type members)

/-- The event that a frame describes. -/
def ofFrame? (decoder : Option Decoder) (frame : Json) : Except Failure Event :=
  Id.run (readWith (decoder.map Decoder.decode) frame)

/-- What the decoder hands to the API client when it reads a frame. -/
def handedOver? (decoder : Option Decoder) (frame : Json) : Option (String × String) :=
  match decoder, shape? frame with
  | _, .ok (.error, _) => none
  | some decoder, .ok (_, members) => decoder.handsOver members
  | _, _ => none

end Event

/-- What a stream delivers: an event, or a failure that did not end the consumer's loop. -/
inductive Item where
  | event (e : Event)
  | failure (f : Failure)

end ResumableWatch
