import ResumableWatch.Json.Parser
import ResumableWatch.Event
/-!
# Frames and events

Which frames are events, and what becomes of the others.  `Event.Describes` is the relation between
a frame and its event: the frame names a type and carries an object (`Event.Shaped`), the code of a
status is a whole number (`Json.Converts`), and any other object is accepted by the decoder.

`frame_accepted_iff` says that a frame is accepted exactly if it describes an event, what that event
is, and that the decoder is asked once at the most: `Event.readWith` reads with a decoder that has
effects, such as `Decoder.recording`, which makes a record of what it is asked.

`frame_refused_undecodable` says that every other frame is refused as undecodable, unless its status
code is infinite.
-/

namespace ResumableWatch

/-- A decoder that refuses objects by ordinary failures only. -/
def Decoder.Ordinary (decoder : Decoder) : Prop :=
  ∀ members failure, decoder.decode members = .error failure → failure.isOrdinary = true

/-- The decoder keeps a record of the objects that it is asked about. -/
def Decoder.recording (decoder : Decoder) (object : List (String × Json)) :
    StateM (List (List (String × Json))) (Except Failure Decoded) := do
  modify (· ++ [object])
  return decoder.decode object

/-! ### Types and shapes -/

namespace EventType

theorem ofName?_name (type : EventType) : ofName? type.name = some type := by
  cases type <;> decide

/-- Only the name of a type names it. -/
theorem ofJson?_eq_some_iff {v : Json} {type : EventType} :
    ofJson? v = some type ↔ v = .text type.name := by
  constructor
  · intro h
    cases v with
    | text name =>
      have hname : type.name = name := by simpa using List.find?_some h
      rw [hname]
    | _ => cases h
  · rintro rfl
    exact ofName?_name type

end EventType

namespace Event

/-- A frame is an object with a type and an object among its members. -/
def Shaped (frame : Json) (type : EventType) (object : List (String × Json)) : Prop :=
  ∃ members, frame = .object members ∧
    Json.member? "type" members = some (.text type.name) ∧
    Json.member? "object" members = some (.object object)

theorem shape?_eq_ok_iff {frame : Json} {type : EventType} {object : List (String × Json)} :
    shape? frame = .ok (type, object) ↔ Shaped frame type object := by
  constructor
  · intro h
    unfold shape? at h
    split at h
    · rename_i members
      split at h
      · cases h
      · rename_i found htype
        split at h
        · rename_i hobject
          cases h
          refine ⟨members, rfl, ?_, hobject⟩
          have hname := EventType.ofJson?_eq_some_iff.mp htype
          cases hmember : Json.member? "type" members with
          | none => rw [hmember] at hname; cases hname
          | some v => rw [hmember] at hname; exact congrArg some hname
        · cases h
    · cases h
  · rintro ⟨members, rfl, htype, hobject⟩
    have hknown := EventType.ofJson?_eq_some_iff.mpr (rfl : Json.text type.name = .text type.name)
    simp only [shape?, htype, hobject, Option.getD_some, hknown]

/-- A frame without a known type or an object is refused as undecodable. -/
theorem shape?_error {frame : Json} {failure : Failure} (h : shape? frame = .error failure) :
    ∃ text raw, failure = .undecodable text raw := by
  unfold shape? at h
  split at h
  · split at h
    · cases h
      exact ⟨_, _, rfl⟩
    · split at h
      · cases h
      · cases h
        exact ⟨_, _, rfl⟩
  · cases h
    exact ⟨_, _, rfl⟩

end Event

/-! ### Status codes -/

/-- A value converts to a whole number: a truth value counts, a fraction is cut off, and text is
read. -/
inductive Json.Converts : Json → Int → Prop where
  | no : Converts (.bool false) 0
  | yes : Converts (.bool true) 1
  | int (n : Int) : Converts (.int n) n
  | double {d : Double} {n : Int} (h : d.truncate? = some n) : Converts (.double d) n
  | text {s : String} {n : Int} (h : Number.integer s = .ok n) : Converts (.text s) n

namespace Status

/-- The code that a status has; without one it is zero. -/
def codeIn (members : List (String × Json)) : Json := (Json.member? "code" members).getD (.int 0)

theorem codeOf_eq_some_iff {v : Json} {n : Int} : codeOf v = .ok (some n) ↔ v.Converts n := by
  constructor
  · intro h
    cases v with
    | bool b =>
      cases b with
      | false => cases h; exact .no
      | true => cases h; exact .yes
    | int m => cases h; exact .int _
    | double d =>
      cases d with
      | infinite negative => cases h
      | nan => cases h
      | finite negative units hunits => exact .double (Except.ok.inj h)
    | text s =>
      -- text that is no number has no code, and is no failure of its own
      rw [codeOf] at h
      split at h
      · rename_i m hread
        cases h
        exact .text hread
      · cases h
    | _ => cases h
  · intro h
    cases h with
    | no => rfl
    | yes => rfl
    | int => rfl
    | @double d _ h =>
      cases d with
      | infinite negative => cases h
      | nan => cases h
      | finite negative units hunits => exact congrArg Except.ok h
    | text h => rw [codeOf, h]

/-- A status code fails of its own only if it is infinite. -/
theorem codeOf_error {v : Json} {failure : Failure} (h : codeOf v = .error failure) :
    failure = .overflow ∧ ∃ negative, v = .double (.infinite negative) := by
  unfold codeOf at h
  split at h
  case h_3 negative => exact ⟨by cases h; rfl, negative, rfl⟩
  case h_5 => split at h <;> cases h
  all_goals cases h

/-- The status of an object has the code that is in it. -/
theorem code_of_ofMembers {members : List (String × Json)} {status : Status}
    (h : ofMembers members = .ok status) : (codeIn members).Converts status.code := by
  unfold ofMembers at h
  split at h
  · cases h
  · cases h
  · rename_i code hcode
    cases h
    exact codeOf_eq_some_iff.mp hcode

/-- An object whose code is a whole number has a status. -/
theorem exists_ofMembers {members : List (String × Json)} {code : Int}
    (h : (codeIn members).Converts code) : ∃ status, ofMembers members = .ok status := by
  have hcode : codeOf ((Json.member? "code" members).getD (.int 0)) = .ok (some code) :=
    codeOf_eq_some_iff.mpr h
  rw [ofMembers, hcode]
  exact ⟨_, rfl⟩

/-- A status is refused as undecodable, unless its code is infinite. -/
theorem ofMembers_error {members : List (String × Json)} {failure : Failure}
    (h : ofMembers members = .error failure) :
    (∃ text raw, failure = .undecodable text raw) ∨
      failure = .overflow ∧
        ∃ negative, Json.member? "code" members = some (.double (.infinite negative)) := by
  unfold ofMembers at h
  split at h
  · rename_i cause hcode
    cases h
    obtain ⟨hoverflow, negative, hv⟩ := codeOf_error hcode
    refine .inr ⟨hoverflow, negative, ?_⟩
    cases hmember : Json.member? "code" members with
    | none => rw [hmember] at hv; cases hv
    | some v => rw [hmember] at hv; exact congrArg some hv
  · cases h
    exact .inl ⟨_, _, rfl⟩
  · cases h

theorem ofMembers_infinite {members : List (String × Json)} {negative : Bool}
    (h : Json.member? "code" members = some (.double (.infinite negative))) :
    ofMembers members = .error .overflow := by
  rw [ofMembers, h]
  rfl

end Status

/-! ### Events -/

namespace Event

variable {decoder : Option Decoder} {frame : Json} {type : EventType}
  {object : List (String × Json)} {e : Event}

/-- The event that a frame describes: a status that the server sends, an object as it is, or what
the decoder makes of an object. -/
inductive Describes (decoder : Option Decoder) (frame : Json) : Event → Prop where
  | status {object : List (String × Json)} {status : Status} (hshape : Shaped frame .error object)
      (hstatus : Status.ofMembers object = .ok status) :
    Describes decoder frame { type := .error, raw := .object object, status := some status }
  | undecoded {type : EventType} {object : List (String × Json)} (hshape : Shaped frame type object)
      (htype : type ≠ .error) (hnone : decoder = none) :
    Describes decoder frame { type, object := .same, raw := .object object }
  | decoded {type : EventType} {object : List (String × Json)} {d : Decoder} {result : Decoded}
      (hshape : Shaped frame type object) (htype : type ≠ .error) (hsome : decoder = some d)
      (hdecoded : d.decode object = .ok result) :
    Describes decoder frame { type, object := result, raw := .object object }

theorem ofFrame?_of_shaped (h : Shaped frame type object) :
    ofFrame? decoder frame = ofObjectFrame decoder frame type object := by
  rw [ofFrame?, readWith, shape?_eq_ok_iff.mpr h]
  rfl

/-- A frame without a shape is refused as what it is, whatever the decoder. -/
theorem ofFrame?_of_shape?_error {failure : Failure} (h : shape? frame = .error failure) :
    ofFrame? decoder frame = .error failure := by
  rw [ofFrame?, readWith, h]
  rfl

theorem ofObjectFrame_error :
    ofObjectFrame decoder frame .error object =
      (Status.ofMembers object).map fun status =>
        { type := .error, raw := .object object, status := some status } := by
  rw [ofObjectFrame, readObject]
  cases Status.ofMembers object with
  | error failure => rfl
  | ok status => cases object <;> rfl

theorem ofObjectFrame_none (htype : type ≠ .error) :
    ofObjectFrame none frame type object =
      .ok { type, object := .same, raw := .object object } := by
  cases type with
  | error => exact absurd rfl htype
  | _ => rfl

theorem ofObjectFrame_some (htype : type ≠ .error) (d : Decoder) :
    ofObjectFrame (some d) frame type object = ofAnswer frame type object (d.decode object) := by
  cases type with
  | error => exact absurd rfl htype
  | _ => rfl

/-- A frame is accepted exactly if it describes an event, and then as that event. -/
theorem ofFrame?_eq_ok_iff : ofFrame? decoder frame = .ok e ↔ Describes decoder frame e := by
  constructor
  · intro h
    cases hshape : shape? frame with
    | error failure =>
      rw [ofFrame?_of_shape?_error hshape] at h
      cases h
    | ok shape =>
      -- a status is read without the decoder, any other object with it if there is one
      obtain ⟨type, object⟩ := shape
      have hshaped := shape?_eq_ok_iff.mp hshape
      rw [ofFrame?_of_shaped hshaped] at h
      by_cases htype : type = .error
      · subst htype
        rw [ofObjectFrame_error] at h
        cases hstatus : Status.ofMembers object with
        | error failure => rw [hstatus] at h; cases h
        | ok status =>
          rw [hstatus] at h
          cases h
          exact .status hshaped hstatus
      · cases decoder with
        | none =>
          rw [ofObjectFrame_none htype] at h
          cases h
          exact .undecoded hshaped htype rfl
        | some d =>
          rw [ofObjectFrame_some htype, ofAnswer.eq_def] at h
          split at h
          · rename_i result hdecoded
            cases h
            exact .decoded hshaped htype rfl hdecoded
          · split at h <;> cases h
  · intro h
    cases h with
    | status hshape hstatus =>
      rw [ofFrame?_of_shaped hshape, ofObjectFrame_error, hstatus]
      rfl
    | undecoded hshape htype hnone =>
      rw [ofFrame?_of_shaped hshape, hnone, ofObjectFrame_none htype]
    | decoded hshape htype hsome hdecoded =>
      rw [ofFrame?_of_shaped hshape, hsome, ofObjectFrame_some htype, hdecoded, ofAnswer]

/-- The event of a frame carries the object of the frame. -/
theorem Describes.shaped (h : Describes decoder frame e) :
    ∃ object, Shaped frame e.type object ∧ e.raw = .object object := by
  cases h with
  | status hshape _ => exact ⟨_, hshape, rfl⟩
  | undecoded hshape _ _ => exact ⟨_, hshape, rfl⟩
  | decoded hshape _ _ _ => exact ⟨_, hshape, rfl⟩

/-! ### What the decoder is asked -/

/-- A decoder that keeps a record is asked about the object, unless that is a status, and the event
is what it is without the record. -/
theorem readObject_recording (decoder : Option Decoder) (frame : Json) (type : EventType)
    (object : List (String × Json)) (noted : List (List (String × Json))) :
    (readObject (decoder.map Decoder.recording) frame type object).run noted =
      (ofObjectFrame decoder frame type object,
        if type ≠ .error ∧ decoder.isSome then noted ++ [object] else noted) := by
  by_cases htype : type = .error
  · subst htype
    rw [if_neg fun h => h.1 rfl, ofObjectFrame, readObject, readObject]
    cases Status.ofMembers object <;> rfl
  · cases decoder with
    | none =>
      rw [if_neg fun h => Bool.false_ne_true h.2, ofObjectFrame_none htype]
      cases type with
      | error => exact absurd rfl htype
      | _ => rfl
    | some d =>
      rw [if_pos ⟨htype, rfl⟩, ofObjectFrame_some htype]
      cases type with
      | error => exact absurd rfl htype
      | _ => rfl

/-- The objects that a decoder is asked about when a frame is read. -/
def asked (decoder : Option Decoder) (frame : Json) : List (List (String × Json)) :=
  ((readWith (decoder.map Decoder.recording) frame).run []).2

theorem asked_of_shape?_error {failure : Failure} (h : shape? frame = .error failure) :
    asked decoder frame = [] := by
  rw [asked, readWith, h]
  rfl

theorem asked_of_shaped (h : Shaped frame type object) :
    asked decoder frame = if type ≠ .error ∧ decoder.isSome then [object] else [] := by
  rw [asked, readWith, shape?_eq_ok_iff.mpr h]
  dsimp only
  rw [readObject_recording]
  rfl

/-- To keep a record makes no difference to the event. -/
theorem readWith_recording (decoder : Option Decoder) (frame : Json) :
    (readWith (decoder.map Decoder.recording) frame).run []
      = (ofFrame? decoder frame, asked decoder frame) := by
  refine Prod.ext ?_ rfl
  cases hshape : shape? frame with
  | error failure =>
    rw [ofFrame?_of_shape?_error hshape, readWith, hshape]
    rfl
  | ok shape =>
    rw [ofFrame?_of_shaped (shape?_eq_ok_iff.mp hshape), readWith, hshape]
    dsimp only
    rw [readObject_recording]

/-- The decoder has to say something about an object: it is that of a frame that is no error. -/
def Concerns (decoder : Option Decoder) (frame : Json) (object : List (String × Json)) : Prop :=
  decoder.isSome = true ∧ ∃ type, type ≠ .error ∧ Shaped frame type object

/-- A decoder is asked about the object that concerns it, and may hand something over for it. -/
theorem asked_of_concerns (h : Concerns decoder frame object) :
    asked decoder frame = [object] ∧
      handedOver? decoder frame = decoder.bind fun d => d.handsOver object := by
  obtain ⟨hsome, type, htype, hshape⟩ := h
  refine ⟨by rw [asked_of_shaped hshape, if_pos ⟨htype, hsome⟩], ?_⟩
  obtain ⟨d, rfl⟩ := Option.isSome_iff_exists.mp hsome
  unfold handedOver?
  rw [shape?_eq_ok_iff.mpr hshape]
  cases type with
  | error => exact absurd rfl htype
  | _ => rfl

/-- Otherwise it is not asked at all, and nothing is handed over. -/
theorem asked_eq_nil (h : ∀ object, ¬ Concerns decoder frame object) :
    asked decoder frame = [] ∧ handedOver? decoder frame = none := by
  unfold handedOver?
  cases hshape : shape? frame with
  | error failure =>
    refine ⟨asked_of_shape?_error hshape, ?_⟩
    cases decoder <;> rfl
  | ok shape =>
    obtain ⟨type, object⟩ := shape
    have hshaped := shape?_eq_ok_iff.mp hshape
    have hnot : ¬ (type ≠ .error ∧ decoder.isSome) := fun hasked =>
      h object ⟨hasked.2, type, hasked.1, hshaped⟩
    refine ⟨by rw [asked_of_shaped hshaped, if_neg hnot], ?_⟩
    -- either nobody is there to be asked, or the object is a status
    cases decoder with
    | none => cases type <;> rfl
    | some d =>
      rw [Decidable.byContradiction fun htype => hnot ⟨htype, rfl⟩]

theorem mem_asked_iff : object ∈ asked decoder frame ↔ Concerns decoder frame object := by
  constructor
  · intro h
    by_cases hasked : ∃ found, Concerns decoder frame found
    · obtain ⟨found, hfound⟩ := hasked
      rw [(asked_of_concerns hfound).1, List.mem_singleton] at h
      rwa [h]
    · rw [(asked_eq_nil (not_exists.mp hasked)).1] at h
      cases h
  · intro h
    rw [(asked_of_concerns h).1]
    exact List.mem_singleton_self object

/-- The decoder is asked once at the most, and what is handed over is handed over then. -/
theorem asked_once (decoder : Option Decoder) (frame : Json) :
    (asked decoder frame).length ≤ 1 ∧
      handedOver? decoder frame =
        (asked decoder frame).head?.bind fun found => decoder.bind fun d => d.handsOver found := by
  by_cases hasked : ∃ object, Concerns decoder frame object
  · obtain ⟨object, hobject⟩ := hasked
    obtain ⟨hone, hover⟩ := asked_of_concerns hobject
    rw [hover, hone]
    exact ⟨Nat.le_refl 1, rfl⟩
  · obtain ⟨hnone, hover⟩ := asked_eq_nil (not_exists.mp hasked)
    rw [hover, hnone]
    exact ⟨Nat.zero_le 1, rfl⟩

/-! ### Accepted frames -/

/-- What is to be met for a frame to be an event. -/
theorem exists_describes_iff :
    (∃ e, Describes decoder frame e) ↔
      ∃ type object, Shaped frame type object ∧
        (type = .error ∧ (∃ code, (Status.codeIn object).Converts code) ∨
          type ≠ .error ∧ ∀ d ∈ decoder, ∃ result, d.decode object = .ok result) := by
  constructor
  · rintro ⟨e, h⟩
    cases h with
    | status hshape hstatus =>
      exact ⟨_, _, hshape, .inl ⟨rfl, _, Status.code_of_ofMembers hstatus⟩⟩
    | undecoded hshape htype hnone =>
      refine ⟨_, _, hshape, .inr ⟨htype, fun d hd => ?_⟩⟩
      rw [hnone] at hd
      cases hd
    | decoded hshape htype hsome hdecoded =>
      refine ⟨_, _, hshape, .inr ⟨htype, fun d hd => ?_⟩⟩
      rw [hsome] at hd
      cases hd
      exact ⟨_, hdecoded⟩
  · -- What the two conditions give is enough to build the status or the event.
    rintro ⟨type, object, hshape, ⟨rfl, code, hcode⟩ | ⟨htype, hdecoder⟩⟩
    · obtain ⟨status, hstatus⟩ := Status.exists_ofMembers hcode
      exact ⟨_, .status hshape hstatus⟩
    · cases decoder with
      | none => exact ⟨_, .undecoded hshape htype rfl⟩
      | some d =>
        obtain ⟨result, hdecoded⟩ := hdecoder d rfl
        exact ⟨_, .decoded hshape htype rfl hdecoded⟩

/-- **Which frames are accepted, and as what.**  A frame is accepted exactly if it has the name of a
type and an object, and the code of the object is a whole number (of an error event) or the decoder
accepts the object (of the others).

The event has that type, and carries the object undecoded.  It has a status exactly if it is an
error event, with the code that is in the object, and then it has no decoded object and no version;
any other event has the object itself, or what the decoder made of it.

The decoder is asked once at the most, and only about the object of a frame that has a known type
other than an error; what is handed to the API client is handed over then. -/
theorem frame_accepted_iff (decoder : Option Decoder) (frame : Json) :
    ((∃ e, ofFrame? decoder frame = .ok e) ↔
      ∃ type object, Shaped frame type object ∧
        (type = .error ∧ (∃ code, (Status.codeIn object).Converts code) ∨
          type ≠ .error ∧ ∀ d ∈ decoder, ∃ result, d.decode object = .ok result)) ∧
    (∀ e, ofFrame? decoder frame = .ok e →
      ∃ object, Shaped frame e.type object ∧ e.raw = .object object ∧
        (e.status.isSome = true ↔ e.type = .error) ∧
        (∀ status ∈ e.status, (Status.codeIn object).Converts status.code ∧
          (status.isGone = true ↔ status.code = 410)) ∧
        (e.type = .error → e.object = .nothing ∧ e.version = .ok "") ∧
        (e.type ≠ .error → decoder = none → e.object = .same) ∧
        (e.type ≠ .error → ∀ d ∈ decoder, d.decode object = .ok e.object)) ∧
    (readWith (decoder.map Decoder.recording) frame).run []
      = (ofFrame? decoder frame, asked decoder frame) ∧
    (asked decoder frame).length ≤ 1 ∧
    handedOver? decoder frame =
      ((asked decoder frame).head?.bind fun object => decoder.bind fun d => d.handsOver object) ∧
    ∀ object, object ∈ asked decoder frame ↔
      decoder.isSome = true ∧ ∃ type, type ≠ .error ∧ Shaped frame type object := by
  obtain ⟨honce, hover⟩ := asked_once decoder frame
  -- the parts of an event are read off the frame that it describes
  refine ⟨?_, fun e he => ?_, readWith_recording decoder frame, honce, hover,
    fun object => mem_asked_iff⟩
  · rw [← exists_describes_iff]
    exact exists_congr fun e => ofFrame?_eq_ok_iff
  · cases ofFrame?_eq_ok_iff.mp he with
    | @status object status hshape hstatus =>
      refine ⟨object, hshape, rfl, by simp, ?_, fun _ => ⟨rfl, rfl⟩, fun h => absurd rfl h,
        fun h => absurd rfl h⟩
      rintro _ ⟨⟩
      exact ⟨Status.code_of_ofMembers hstatus, beq_iff_eq⟩
    | @undecoded type object hshape htype hnone =>
      refine ⟨object, hshape, rfl, by simpa using htype, nofun, fun h => absurd h htype,
        fun _ _ => rfl, fun _ d hd => ?_⟩
      rw [hnone] at hd
      cases hd
    | @decoded type object d result hshape htype hsome hdecoded =>
      refine ⟨object, hshape, rfl, by simpa using htype, nofun, fun h => absurd h htype,
        fun _ hnone => ?_, fun _ d' hd' => ?_⟩
      · rw [hsome] at hnone
        cases hnone
      · rw [hsome] at hd'
        cases hd'
        exact hdecoded

/-! ### Refused frames -/

/-- The frame is about a status with an infinite code. -/
def InfiniteCode (frame : Json) : Prop :=
  ∃ object negative, Shaped frame .error object ∧
    Json.member? "code" object = some (.double (.infinite negative))

/-- A frame is refused as undecodable, unless its status code is infinite. -/
theorem ofFrame?_error (hdecoder : ∀ d ∈ decoder, d.Ordinary) {failure : Failure}
    (h : ofFrame? decoder frame = .error failure) :
    (∃ text raw, failure = .undecodable text raw) ∨ failure = .overflow ∧ InfiniteCode frame := by
  cases hshape : shape? frame with
  | error cause =>
    rw [ofFrame?_of_shape?_error hshape] at h
    cases h
    exact .inl (shape?_error hshape)
  | ok shape =>
    obtain ⟨type, object⟩ := shape
    have hshaped := shape?_eq_ok_iff.mp hshape
    rw [ofFrame?_of_shaped hshaped] at h
    -- Only the status of an error frame can have an infinite code.
    by_cases htype : type = .error
    · subst htype
      rw [ofObjectFrame_error] at h
      cases hstatus : Status.ofMembers object with
      | ok status => rw [hstatus] at h; cases h
      | error cause =>
        rw [hstatus] at h
        cases h
        rcases Status.ofMembers_error hstatus with hbad | ⟨hoverflow, negative, hcode⟩
        · exact .inl hbad
        · exact .inr ⟨hoverflow, object, negative, hshaped, hcode⟩
    · cases decoder with
      | none => rw [ofObjectFrame_none htype] at h; cases h
      | some d =>
        rw [ofObjectFrame_some htype, ofAnswer.eq_def] at h
        split at h
        · cases h
        · rename_i cause hrefused
          rw [if_pos (hdecoder d rfl object cause hrefused)] at h
          cases h
          exact .inl ⟨_, _, rfl⟩

theorem InfiniteCode.ofFrame?_eq (h : InfiniteCode frame) (decoder : Option Decoder) :
    ofFrame? decoder frame = .error .overflow := by
  obtain ⟨object, negative, hshape, hcode⟩ := h
  rw [ofFrame?_of_shaped hshape, ofObjectFrame_error, Status.ofMembers_infinite hcode]
  rfl

/-- **How frames are refused.**  With a decoder that fails ordinarily if it fails, every frame is an
event or is refused as undecodable, whatever JSON value it is, unless its status code is infinite:
then it is refused as a number too large. -/
theorem frame_refused_undecodable {decoder : Option Decoder} (hdecoder : ∀ d ∈ decoder, d.Ordinary)
    (frame : Json) :
    (¬ InfiniteCode frame →
      (∃ e, ofFrame? decoder frame = .ok e) ∨
        ∃ text raw, ofFrame? decoder frame = .error (.undecodable text raw)) ∧
    (InfiniteCode frame → ofFrame? decoder frame = .error .overflow) := by
  refine ⟨fun hfinite => ?_, fun hinfinite => hinfinite.ofFrame?_eq decoder⟩
  cases hevent : ofFrame? decoder frame with
  | ok e => exact .inl ⟨e, rfl⟩
  | error failure =>
    rcases ofFrame?_error hdecoder hevent with ⟨text, raw, rfl⟩ | ⟨-, hinfinite⟩
    · exact .inr ⟨text, raw, rfl⟩
    · exact absurd hinfinite hfinite

/-- A decoder that misses an entry in every object. -/
def refusing : Decoder where
  decode _ := .error (.missingKey (some "spec"))

/-- A frame about an object whose status code is not a number. -/
def nanFrame : Json :=
  .object [("type", .text "ERROR"), ("object", .object [("code", .double .nan)])]

/-- The frame whose code is no number is refused as undecodable. -/
theorem nanFrame_refused :
    ¬ InfiniteCode nanFrame ∧
      ((∃ e, ofFrame? (some refusing) nanFrame = .ok e) ∨
        ∃ text raw, ofFrame? (some refusing) nanFrame = .error (.undecodable text raw)) := by
  have hdecoder : ∀ d ∈ some refusing, d.Ordinary := by
    rintro _ ⟨⟩ members failure ⟨⟩
    rfl
  have hfinite : ¬ InfiniteCode nanFrame := by
    rintro ⟨object, negative, ⟨members, hframe, -, hobject⟩, hcode⟩
    cases hframe
    cases hobject
    cases hcode
  exact ⟨hfinite, (frame_refused_undecodable hdecoder nanFrame).1 hfinite⟩

/-- The text of an infinite code is JSON, and its frame is refused as a number too large. -/
theorem infiniteCode_overflows :
    ∃ frame,
      Json.parse "\x7b\"type\":\"ERROR\",\"object\":\x7b\"code\":Infinity\x7d\x7d" = .ok frame ∧
        ofFrame? none frame = .error .overflow ∧
        ¬ ((∃ e, ofFrame? none frame = .ok e) ∨
          ∃ text raw, ofFrame? none frame = .error (.undecodable text raw)) := by
  let frame : Json := .object [("type", .text "ERROR"),
    ("object", .object [("code", .double (.infinite false))])]
  have hinfinite : InfiniteCode frame := ⟨_, false, ⟨_, rfl, rfl, rfl⟩, rfl⟩
  have hrefused : ofFrame? none frame = .error .overflow := hinfinite.ofFrame?_eq none
  refine ⟨frame, ?_, hrefused, ?_⟩
  · simp only [Json.parse, String.reduceToList]
    rfl
  rintro (⟨e, he⟩ | ⟨text, raw, he⟩)
  · rw [hrefused] at he
    cases he
  · rw [hrefused] at he
    cases he

end Event

end ResumableWatch
