import ResumableWatch.Handler
import ResumableWatch.Proofs.Stream.Items
import ResumableWatch.Proofs.Stream.Versions
/-!
# What the application logs

The application logs each item that reaches it.  `Item.Told` says which line is due for an item: a
failure by its text, a status by its code and reason, and an event about an object by the labels of
the object and by the version that the cursor took from it.  `Act.Reports` says that an action
writes one line and does nothing else.

`logItem_reports` is the result: whatever a connection over HTTP yields (`Item.Yielded`) is reported
by the line that is due for it, with one exception.  An object whose metadata is there but is no
object has no labels to look up, and the application fails on it after the cursor has moved.
-/

namespace ResumableWatch

open ResumableWatch.Fiber

/-! ### Lines and their entries -/

namespace World

/-- The line with which the application reports something: a set-up attaches the context of the
task. -/
def reportLine (w : World) (level : Log.Level) (event : String) (fields : List (String × Json)) :
    Log.Line :=
  .assemble level event (w.logging.bind fun _ => w.tasks.context) Act.applicationComponent fields

/-- What a line comes to: itself, unless a set-up drops it or shows it on a console. -/
def shown (w : World) (line : Log.Line) : List Happening :=
  match w.logging with
  | none => [.log line]
  | some setup =>
    if line.level.rank < setup.threshold then []
    else if setup.console then line.console.map .console
    else [.log line]

/-- Enters happenings into the journal, one after the other. -/
def recordAll (happenings : List Happening) (w : World) : World :=
  happenings.foldl (fun w what => w.record what) w

/-- A line none of whose fields is reserved is entered as it is. -/
theorem log_eq_recordAll (w : World) (level : Log.Level) (event : String)
    {fields : List (String × Json)} (hfields : Log.unreserved fields = fields) :
    w.log level Act.applicationComponent event fields 0
      = w.recordAll (w.shown (w.reportLine level event fields)) := by
  unfold log shown
  cases hsetup : w.logging with
  | none => simp [recordAll, reportLine, hsetup]
  | some setup =>
    have hline : w.reportLine level event fields
        = .assemble level event w.tasks.context Act.applicationComponent fields := by
      simp [reportLine, hsetup]
    have hlevel : (w.reportLine level event fields).level = level := rfl
    simp only [hfields, ← hline, hlevel]
    split_ifs with hlow hconsole
    · simp [recordAll]
    · simp [recordAll, List.foldl_map]
    · simp [recordAll]

end World

/-- The action writes one line, and there is nothing else that it does. -/
def Act.Reports (level : Log.Level) (event : String) (fields : List (String × Json))
    (m : Act Unit) : Prop :=
  ∀ w, ∃ t, Goes m w [(w, t)] (pure ()) t ∧
    t = w.recordAll (w.shown (w.reportLine level event fields))

theorem Act.log_reports (level : Log.Level) (event : String) {fields : List (String × Json)}
    (hfields : Log.unreserved fields = fields) :
    Reports level event fields (log level applicationComponent event fields) := by
  intro w
  exact ⟨_, .read (.write .here), w.log_eq_recordAll level event hfields⟩

/-! ### Items that are yielded -/

namespace Item

/-- The items that a connection over HTTP can yield: the events of accepted frames, and failures of
this library. -/
inductive Yielded (decoder : Option Decoder) : Item → Prop where
  | event {frame : Json} {e : Event} (h : Event.ofFrame? decoder frame = .ok e) :
    Yielded decoder (.event e)
  | failure {f : Failure} (h : f.isOwn = true) : Yielded decoder (.failure f)

variable {decoder : Option Decoder}

theorem Yielded.of_delivered {failure : Failure} {item : Item}
    (h : Frame.delivered failure = .ok item) : item.Yielded decoder := by
  unfold Frame.delivered at h
  split at h
  · cases h
    exact .failure rfl
  · cases h

theorem Yielded.of_line {line : List UInt8} {item : Item} (h : Frame.item decoder line = .ok item) :
    item.Yielded decoder := by
  unfold Frame.item at h
  split at h
  · exact .of_delivered h
  · split at h
    · exact .of_delivered h
    · rename_i hframe
      cases h
      exact .event hframe

end Item

theorem yielded_of_mem_bodyItems {decoder : Option Decoder} {elements : List Element} {item : Item}
    (h : item ∈ bodyItems decoder elements) : item.Yielded decoder := by
  induction elements with
  | nil => cases h
  | cons first rest ih =>
    cases first with
    | delay _ => exact ih h
    | block => exact ih h
    | item _ _ => exact ih h
    | raise failure =>
      -- Only a read that fails and a line can yield an item.
      rw [bodyItems] at h
      split at h
      · rw [List.mem_singleton.mp h]
        exact .failure rfl
      · cases h
    | line bytes =>
      rw [bodyItems] at h
      split_ifs at h
      · cases h
      · exact ih h
      · split at h
        · rename_i hitem
          rcases List.mem_cons.mp h with rfl | h
          · exact .of_line hitem
          · exact ih h
        · cases h

/-- All that a connection over HTTP still has for its reader is of the kind that is yielded. -/
theorem Connection.yielded_of_mem_items {connection : Connection} {endpoint : Endpoint}
    (hhttp : connection.transport = .http endpoint) {item : Item} (h : item ∈ connection.items) :
    item.Yielded endpoint.decoder := by
  rw [items, hhttp] at h
  dsimp only at h
  split_ifs at h
  · cases h
  · exact yielded_of_mem_bodyItems h

/-! ### The line for an item -/

namespace Item

/-- A label of an object: the member of that name of its metadata, empty where there is none. -/
def label (name : String) (members : List (String × Json)) : Json :=
  match Json.member? "metadata" members with
  | some (.object metadata) => (Json.member? name metadata).getD (.text "")
  | _ => .text ""

/-- The line that is due for an item: its level, its event and its fields. -/
inductive Told : Item → Log.Level → String → List (String × Json) → Prop where
  | failure (f : Failure) :
    Told (.failure f) .warning "stream item error"
      [("error", .text f.message), ("error_type", .text f.typeName)]
  | status {e : Event} {status : Status} (hstatus : e.status = some status) :
    Told (.event e) .warning "server error event"
      [("code", .int status.code), ("reason", .text status.reason)]
  | object {e : Event} {members : List (String × Json)} {version : String}
      (hnone : e.status = none) (hraw : e.raw = .object members)
      (hversion : e.version = .ok version) (hobserved : ∀ s : Stream, Act.observe s (.event e) = do
        Fiber.update (·.changeMetrics (·.countEvent s.name e.type.name))
        Act.observeVersion s version) :
    Told (.event e) .info "event"
      [("event_type", .text e.type.name), ("namespace", label "namespace" members),
        ("name", label "name" members), ("resource_version", .text version)]

/-- The metadata of an object that is there but is no object itself. -/
def oddMetadata? : Item → Option Json
  | .event { status := none, raw := .object members, .. } =>
    match Json.member? "metadata" members with
    | some (.object _) => none
    | metadata => metadata
  | _ => none

end Item

theorem Act.metadataOf_object {members : List (String × Json)}
    (h : ∀ v, Json.member? "metadata" members = some v → ∃ metadata, v = .object metadata) :
    ∃ metadata, metadataOf (.object members) = .ok metadata ∧
      ∀ name, metadataMember name metadata = Item.label name members := by
  rw [metadataOf]
  unfold Item.label
  cases hmember : Json.member? "metadata" members with
  | none => exact ⟨[], rfl, fun _ => rfl⟩
  | some v =>
    obtain ⟨metadata, rfl⟩ := h v hmember
    exact ⟨metadata, rfl, fun _ => rfl⟩

/-- An accepted event has an undecoded object and a version, perhaps an empty one. -/
theorem Event.exists_object {decoder : Option Decoder} {frame : Json} {e : Event}
    (h : ofFrame? decoder frame = .ok e) :
    ∃ members version, e.raw = .object members ∧ e.version = .ok version := by
  have hraw : ∃ members, e.raw = .object members := by
    cases ofFrame?_eq_ok_iff.mp h with
    | status => exact ⟨_, rfl⟩
    | undecoded => exact ⟨_, rfl⟩
    | decoded => exact ⟨_, rfl⟩
  obtain ⟨members, hraw⟩ := hraw
  obtain ⟨version, hversion⟩ := exists_version hraw
  exact ⟨members, version, hraw, hversion⟩

/-- The observation of an event takes its version into the cursor. -/
theorem Act.observe_event {e : Event} {version : String} (hnone : e.status = none)
    (hversion : e.version = .ok version) (s : Stream) :
    observe s (.event e) = (do
      Fiber.update (·.changeMetrics (·.countEvent s.name e.type.name))
      observeVersion s version) := by
  rw [observe, hnone, hversion]
  rfl

/-! ### Reports -/

namespace Act

/-- An event about an object is reported by the labels of the object. -/
theorem logItem_object {e : Event} {members : List (String × Json)} {version : String}
    (hnone : e.status = none) (hraw : e.raw = .object members) (hversion : e.version = .ok version)
    (h : ∀ v, Json.member? "metadata" members = some v → ∃ metadata, v = .object metadata) :
    logItem (.event e) =
      log .info applicationComponent "event"
        [("event_type", .text e.type.name), ("namespace", Item.label "namespace" members),
          ("name", Item.label "name" members), ("resource_version", .text version)] := by
  obtain ⟨metadata, hmetadata, hlabel⟩ := metadataOf_object h
  rw [logItem, hnone]
  dsimp only
  rw [logObject, hraw, hmetadata, hversion, ← hlabel, ← hlabel]
  rfl

/-- Metadata that is no object has no labels to look up, and the application fails on it. -/
theorem logItem_odd {item : Item} {v : Json} (h : item.oddMetadata? = some v) :
    logItem item = Fiber.fail (.missingAttribute v.typeName "get") := by
  unfold Item.oddMetadata? at h
  split at h
  · rename_i members
    rw [logItem, logObject, metadataOf]
    split at h
    · cases h
    · rename_i hodd
      rw [h, Option.getD_some]
      cases v with
      | object metadata => exact absurd h (hodd metadata)
      | _ => rfl
  · cases h

end Act

/-- Every item that a connection over HTTP yields is reported by one line, the one that is due for
it, and by nothing else, unless its object has metadata that is no object.  On such metadata the
application fails and reports nothing. -/
theorem logItem_reports {decoder : Option Decoder} {item : Item} (h : item.Yielded decoder) :
    (item.oddMetadata? = none → ∃ level event fields,
      item.Told level event fields ∧ Act.Reports level event fields (Act.logItem item)) ∧
    ∀ v, item.oddMetadata? = some v →
      Act.logItem item = Fiber.fail (.missingAttribute v.typeName "get") := by
  constructor
  · intro hplain
    cases h with
    | @failure f hown =>
      have hitem : Act.logItem (.failure f) =
          Act.log .warning Act.applicationComponent "stream item error"
            [("error", .text f.message), ("error_type", .text f.typeName)] := by
        rw [Act.logItem, hown]
        rfl
      rw [hitem]
      exact ⟨_, _, _, .failure f, Act.log_reports _ _ rfl⟩
    | @event frame e hframe =>
      -- An event that was read from a frame has an object, so its version can be read.
      obtain ⟨members, version, hraw, hversion⟩ := Event.exists_object hframe
      cases hstatus : e.status with
      | some status =>
        have hitem : Act.logItem (.event e) =
            Act.log .warning Act.applicationComponent "server error event"
              [("code", .int status.code), ("reason", .text status.reason)] := by
          rw [Act.logItem, hstatus]
        rw [hitem]
        exact ⟨_, _, _, .status hstatus, Act.log_reports _ _ rfl⟩
      | none =>
        -- No odd metadata: what stands under the name is an object, or nothing does.
        have hobject : ∀ v, Json.member? "metadata" members = some v →
            ∃ metadata, v = .object metadata := by
          intro v hv
          obtain ⟨type, object, raw, status⟩ := e
          dsimp only at hraw hstatus
          subst hraw hstatus
          rw [Item.oddMetadata?] at hplain
          split at hplain
          · rename_i metadata hmetadata
            rw [hv] at hmetadata
            exact ⟨metadata, Option.some.inj hmetadata⟩
          · rw [hv] at hplain
            cases hplain
        rw [Act.logItem_object hstatus hraw hversion hobject]
        exact ⟨_, _, _, .object hstatus hraw hversion (Act.observe_event hstatus hversion),
          Act.log_reports _ _ rfl⟩
  · intro v hodd
    exact Act.logItem_odd hodd

/-- The event of a frame whose object has a namespace and a version, and no name. -/
def modifiedEvent : Event where
  type := .modified
  object := .same
  raw := .object [("metadata", .object [
    ("namespace", .text "default"), ("resourceVersion", .text "7")])]

theorem modifiedEvent_reported :
    (Item.event modifiedEvent).Yielded none ∧ (Item.event modifiedEvent).oddMetadata? = none ∧
      Act.Reports .info "event"
        [("event_type", .text "MODIFIED"), ("namespace", .text "default"), ("name", .text ""),
          ("resource_version", .text "7")] (Act.logItem (.event modifiedEvent)) := by
  have hframe : Event.ofFrame? none (.object [("type", .text "MODIFIED"),
      ("object", modifiedEvent.raw)]) = .ok modifiedEvent := rfl
  have hyielded : (Item.event modifiedEvent).Yielded none := .event hframe
  refine ⟨hyielded, rfl, ?_⟩
  obtain ⟨level, event, fields, htold, hreports⟩ := (logItem_reports hyielded).1 rfl
  cases htold with
  | status hstatus => cases hstatus
  | object _ hraw hversion _ =>
    cases hraw
    cases hversion
    exact hreports

/-- The event of a frame whose object has null for its metadata. -/
def unlabelledEvent : Event where
  type := .added
  object := .same
  raw := .object [("metadata", .null)]

/-- Null has no labels either, but the application fails on it and reports nothing, although the
event is observed like any other. -/
theorem unlabelledEvent_unreported :
    (Item.event unlabelledEvent).Yielded none ∧ unlabelledEvent.version = .ok "" ∧
      Act.logItem (.event unlabelledEvent) = Fiber.fail (.missingAttribute "NoneType" "get") ∧
      ¬ ∃ level event fields, (Item.event unlabelledEvent).Told level event fields ∧
        Act.Reports level event fields (Act.logItem (.event unlabelledEvent)) := by
  have hframe : Event.ofFrame? none (.object [("type", .text "ADDED"),
      ("object", unlabelledEvent.raw)]) = .ok unlabelledEvent := rfl
  have hyielded : (Item.event unlabelledEvent).Yielded none := .event hframe
  have hfails : Act.logItem (.event unlabelledEvent) =
      Fiber.fail (.missingAttribute "NoneType" "get") := Act.logItem_odd (v := .null) rfl
  refine ⟨hyielded, rfl, hfails, ?_⟩
  rintro ⟨level, event, fields, -, hreports⟩
  rw [hfails] at hreports
  -- a failure makes no change at all
  obtain ⟨t, hgo, -⟩ := hreports {}
  cases hgo

end ResumableWatch
