import ResumableWatch.Client
import ResumableWatch.Proofs.Event.Frames
import ResumableWatch.Proofs.Json.RoundTrip
/-!
# Events on the wire

A server writes a frame as JSON text in UTF-8, perhaps with blanks around it, and the reader makes
an event of the line.  A decoder that uses an API client writes the object of the event once more.
`wire_round_trip` says that nothing is lost on either way: the event has the type and the object of
the frame, and the text that the client is handed is JSON text of that same object.
-/

namespace ResumableWatch

/-- The frame that notifies of an object. -/
def Event.frame (type : EventType) (object : List (String × Json)) : Json :=
  .object [("type", .text type.name), ("object", .object object)]

namespace Event

variable {type : EventType} {object : List (String × Json)}

theorem frame_shaped (type : EventType) (object : List (String × Json)) :
    Shaped (frame type object) type object := ⟨_, rfl, rfl, rfl⟩

theorem frame_portable (h : (Json.object object).Portable) : (frame type object).Portable := by
  have hnames : ["type", "object"].Nodup := by decide
  refine .object hnames fun member hmember => ?_
  rcases List.mem_cons.mp hmember with rfl | hmember
  · exact .text type.name
  rcases List.mem_singleton.mp hmember with rfl
  exact h

theorem nesting_frame : (frame type object).nesting = (Json.object object).nesting + 1 := by
  simp [frame, Json.nesting, Json.nestingOfMembers]

end Event

/-! ### Lines -/

namespace Frame

/-- The line of bytes on which a server writes a value. -/
def written (v : Json) : List UInt8 := (Json.print v).toUTF8.data.toList

theorem written_eq (v : Json) : written v = Bytes.ofChars (Json.printChars v) :=
  Bytes.toUTF8_ofList (Json.plain_of_mem_printChars v)

/-- A line with the text of a value has that value on it. -/
theorem json_written {v : Json} (hv : v.Portable) (hdepth : v.nesting ≤ Json.depthLimit) :
    json (written v) = .ok v := by
  rw [json, written_eq, Bytes.decode_ofChars (Json.plain_of_mem_printChars v)]
  dsimp only
  rw [Json.parse_print hv hdepth]

/-- The braces of an object keep the blanks around a line apart from its text. -/
theorem content_written (members : List (String × Json)) {before after : List UInt8}
    (hbefore : ∀ b ∈ before, Bytes.isBlank b = true)
    (hafter : ∀ b ∈ after, Bytes.isBlank b = true) :
    content (before ++ written (.object members) ++ after) = written (.object members) := by
  have hbytes : written (.object members) =
      0x7b :: Bytes.ofChars (Json.printMembers members) ++ [0x7d] := by
    rw [written_eq, Json.printChars, Bytes.ofChars, List.map_append]
    rfl
  rw [hbytes]
  exact content_between_blanks hbefore hafter rfl List.getLast?_concat rfl rfl

end Frame

/-! ### There and back -/

/-- A line on which a server writes the frame of an object, with blanks around it, is read without a
decoder as the event of that type about that object.  A client that is to make a model of the object
is handed text that reads as that object again, with its members in the same order. -/
theorem wire_round_trip {type : EventType} (htype : type ≠ .error)
    {object : List (String × Json)} (hobject : (Json.object object).Portable)
    (hdepth : (Json.object object).nesting < Json.depthLimit) {before after : List UInt8}
    (hbefore : ∀ b ∈ before, Bytes.isBlank b = true)
    (hafter : ∀ b ∈ after, Bytes.isBlank b = true) :
    Frame.item none (Frame.content (before ++ Frame.written (Event.frame type object) ++ after)) =
        .ok (.event { type, object := .same, raw := .object object }) ∧
      ∀ (client : Client) (model : String), ∃ text,
        Frame.handedOver? (some (client.decoder model))
            (Frame.content (before ++ Frame.written (Event.frame type object) ++ after)) =
          some (text, model) ∧
        (client.decoder model).handsOver object = some (text, model) ∧
        (client.decoder model).decode object = (client.deserialize text model).map .model ∧
        Json.parse text = .ok (.object object) := by
  have hcontent : Frame.content (before ++ Frame.written (Event.frame type object) ++ after) =
      Frame.written (Event.frame type object) := Frame.content_written _ hbefore hafter
  -- the frame is a container around the object, so the object has to stay below the limit
  have hjson : Frame.json (Frame.written (Event.frame type object)) =
      .ok (Event.frame type object) :=
    Frame.json_written (Event.frame_portable hobject) (Event.nesting_frame.symm ▸ hdepth)
  have hshape := Event.shape?_eq_ok_iff.mpr (Event.frame_shaped type object)
  constructor
  · rw [hcontent, Frame.item, hjson]
    dsimp only
    rw [Event.ofFrame?_of_shaped (Event.frame_shaped type object), Event.ofObjectFrame_none htype]
  · intro client model
    refine ⟨Json.print (.object object), ?_, rfl, rfl, ?_⟩
    · rw [hcontent, Frame.handedOver?, hjson]
      dsimp only
      rw [Event.handedOver?.eq_def, hshape]
      cases type with
      | error => exact absurd rfl htype
      | _ => rfl
    · rw [Json.parse, Json.print, String.toList_ofList]
      exact Json.parse_print hobject (Nat.le_of_lt hdepth)

/-- An object with a character beyond the first 65536, with fractional numbers and with a container
in a container. -/
def variousObject : List (String × Json) :=
  [("metadata", .object [("name", .text "\"clef\" 𝄞\n"), ("labels", .array [])]),
    ("rates", .array [.double (.ofDecimal false 25 (-1)), .double .nan, .int (-12), .null])]

theorem variousObject_there_and_back :
    Frame.item none (Frame.content ([0x20, 0x0b] ++
        Frame.written (Event.frame .modified variousObject) ++ [0x0d, 0x0a])) =
      .ok (.event { type := .modified, object := .same, raw := .object variousObject }) ∧
    ∃ text, (Client.plain.decoder "V1ConfigMap").handsOver variousObject =
        some (text, "V1ConfigMap") ∧
      Json.parse text = .ok (.object variousObject) := by
  have hfraction : Number.double (Double.ofDecimal false 25 (-1)).text =
      .ok (.ofDecimal false 25 (-1)) := by decide +kernel
  have hportable : (Json.object variousObject).Portable := by
    refine .object (by decide) fun member hmember => ?_
    rcases List.mem_cons.mp hmember with rfl | hmember
    · refine .object (by decide) fun member hmember => ?_
      rcases List.mem_cons.mp hmember with rfl | hmember
      · exact .text _
      rcases List.mem_singleton.mp hmember with rfl
      exact .array (List.forall_mem_nil _)
    rcases List.mem_singleton.mp hmember with rfl
    refine .array (List.forall_mem_cons.mpr ⟨.double hfraction, ?_⟩)
    refine List.forall_mem_cons.mpr ⟨.nan, List.forall_mem_cons.mpr ⟨.int ?_, ?_⟩⟩
    · exact Nat.lt_of_lt_of_le (by decide) (Nat.pow_le_pow_right (by decide)
        (show 2 ≤ Number.digitLimit by decide))
    · exact List.forall_mem_singleton.mpr .null
  have hall := @wire_round_trip .modified (by decide) variousObject hportable (by decide)
    [0x20, 0x0b] [0x0d, 0x0a] (List.all_iff_forall_prop.mp (by decide)) (List.all_iff_forall_prop.mp (by decide))
  obtain ⟨text, -, hhanded, -, hparse⟩ := hall.2 Client.plain "V1ConfigMap"
  exact ⟨hall.1, text, hhanded, hparse⟩

end ResumableWatch
