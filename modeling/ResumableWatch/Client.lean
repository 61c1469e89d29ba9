import ResumableWatch.Event
import ResumableWatch.Json.Parser
import ResumableWatch.Json.Printer
/-!
# The API client

The API client makes models of objects.  It takes an object as JSON text, together with the name of
the model that is wanted, so a decoder that uses a client prints the object first.
-/

namespace ResumableWatch

/-- What makes models of objects. -/
structure Client where
  /-- The model of that name that a text describes. -/
  deserialize : (text model : String) → Except Failure Model

/-- The decoder that has the client make models of that name. -/
def Client.decoder (client : Client) (model : String) : Decoder where
  decode members := (client.deserialize (Json.print (.object members)) model).map .model
  handsOver members := some (Json.print (.object members), model)

/-- A client for trying things out: it refuses an object with a member `fail`, and takes the version
of the model from the member `modelVersion`. -/
def Client.rehearsed : Client where
  deserialize text model :=
    match Json.parse text with
    | .ok (.object members) =>
      match Json.member? "fail" members with
      | some reason => .error (.badValue "ValueError" reason.display)
      | none => .ok {
          kind := some model
          metadata := .versioned ((Json.member? "modelVersion" members).getD .null) }
    | .ok v => .error (.missingAttribute v.typeName "get")
    | .error cause => .error (.badValue "ValueError" cause.message)

/-- A client whose models carry the versions of their objects. -/
def Client.plain : Client where
  deserialize text model :=
    match Json.parse text with
    | .ok (.object members) => .ok {
        kind := some model
        metadata :=
          match Json.member? "metadata" members with
          | some (.object metadata) =>
            .versioned ((Json.member? "resourceVersion" metadata).getD .null)
          | _ => .null }
    | .ok v => .error (.missingAttribute v.typeName "get")
    | .error cause => .error (.badValue "ValueError" cause.message)

end ResumableWatch
