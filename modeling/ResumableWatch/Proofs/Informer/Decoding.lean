import ResumableWatch.Proofs.Event.Frames
import ResumableWatch.Proofs.Fiber.Twins
import ResumableWatch.Proofs.Informer.Calls
import ResumableWatch.Proofs.Informer.Seclusion
import ResumableWatch.Proofs.Stream.Body
/-!
# Decoding and the cursor

A decoder is faithful when it accepts every object and gives no version to it but the one that it
has anyway (`Decoder.Faithful`).  The events that it makes have the types and the versions that they
would have without it (`Frame.item_undecoded`), so a cursor does not go by it.  `Veil.decoding` hides
such decoders, and what they make of the objects.

`decoding_unseen` says so of whole runs: with faithful decoders and without any decoders the same
calls issue the same requests, read items of the same types and versions, and take every cursor
through the same values.
-/

namespace ResumableWatch

open ResumableWatch.Fiber

/-! ### Faithful decoders -/

/-- A decoder that accepts every object.  What it makes of one has a version only if the object has
that version. -/
def Decoder.Faithful (d : Decoder) : Prop :=
  ∀ members, ∃ object, d.decode members = .ok object ∧
    ∀ version, Event.modelVersion? object = some version → Event.rawVersion? members = some version

/-- The event with its object as it came. -/
def Event.undecoded (e : Event) : Event := { e with object := .same }

open Classical in
/-- The event with its object as it came, if that makes no difference to its version. -/
noncomputable def Item.undecoded : Item → Item
  | .failure f => .failure f
  | .event e => if e.undecoded.version = e.version then .event e.undecoded else .event e

namespace Item

theorem Resembles.symm {i i' : Item} (h : i.Resembles i') : i'.Resembles i := by
  cases h with
  | failure failure => exact .failure failure
  | event htype hstatus hversion => exact .event htype.symm hstatus.symm hversion.symm

theorem Resembles.trans {i i' i'' : Item} (h : i.Resembles i') (h' : i'.Resembles i'') :
    i.Resembles i'' := by
  cases h with
  | failure failure => exact h'
  | event htype hstatus hversion =>
    cases h' with
    | event htype' hstatus' hversion' =>
      exact .event (htype.trans htype') (hstatus.trans hstatus') (hversion.trans hversion')

theorem undecoded_resembles (i : Item) : i.undecoded.Resembles i := by
  cases i with
  | failure failure => exact .failure failure
  | event e =>
    rw [undecoded]
    split
    · rename_i hversion
      exact .event rfl rfl hversion
    · exact .refl _

/-- Where the version is the same without the decoding, the event is too. -/
theorem undecoded_of_version {e : Event} (h : e.undecoded.version = e.version) :
    (Item.event e).undecoded = .event e.undecoded := if_pos h

end Item

/-- Two events that are the same when their objects are left as they came. -/
def Event.SameUndecoded (e e' : Event) : Prop :=
  (Item.event e).undecoded = (Item.event e').undecoded

theorem Event.SameUndecoded.refl (e : Event) : e.SameUndecoded e := rfl

/-- Two items that are the same when their objects are left as they came. -/
def Item.SameUndecoded (i i' : Item) : Prop := i.undecoded = i'.undecoded

theorem Item.SameUndecoded.refl (i : Item) : i.SameUndecoded i := rfl

/-- The version of an event that a faithful decoder made is the one that its object has anyway. -/
theorem Event.version_undecoded {type : EventType} {object : Decoded}
    {members : List (String × Json)}
    (h : ∀ version, modelVersion? object = some version → rawVersion? members = some version) :
    ({ type, object := .same, raw := .object members } : Event).version =
      ({ type, object, raw := .object members } : Event).version := by
  unfold version
  dsimp only
  split
  · rfl
  · cases hmodel : modelVersion? object with
    | none => rfl
    | some v =>
      rw [h v hmodel]
      rfl

/-- What a faithful decoder makes of an object frame is what it would be without a decoder, but for
the object. -/
theorem Event.ofObjectFrame_undecoded {decoder : Decoder} (h : decoder.Faithful) (frame : Json)
    (type : EventType) (members : List (String × Json)) :
    Likewise SameUndecoded (ofObjectFrame (some decoder) frame type members)
      (ofObjectFrame none frame type members) := by
  obtain ⟨object, hdecode, hversion⟩ := h members
  have hmade : SameUndecoded { type, object, raw := .object members }
      { type, object := .same, raw := .object members } := by
    rw [SameUndecoded, Item.undecoded_of_version (version_undecoded hversion),
      Item.undecoded_of_version rfl]
    rfl
  by_cases htype : type = .error
  · rw [htype, ofObjectFrame_error, ofObjectFrame_error]
    exact .refl .refl _
  · rw [ofObjectFrame_some htype, ofObjectFrame_none htype, hdecode]
    exact .ok hmade

/-- What a faithful decoder makes of a line is what it would be without a decoder, but for the
object. -/
theorem Frame.item_undecoded {d : Option Decoder} (h : ∀ decoder ∈ d, decoder.Faithful)
    (line : List UInt8) : Likewise Item.SameUndecoded (item d line) (item none line) := by
  cases d with
  | none => exact .refl .refl _
  | some decoder =>
    unfold item
    cases json line with
    | error failure => exact .refl .refl _
    | ok frame =>
      dsimp only
      cases hshape : Event.shape? frame with
      | error failure =>
        -- a frame of no shape is refused before anything is decoded
        rw [Event.ofFrame?_of_shape?_error hshape, Event.ofFrame?_of_shape?_error hshape]
        exact .refl .refl _
      | ok shape =>
        have hshaped := Event.shape?_eq_ok_iff.mp hshape
        rw [Event.ofFrame?_of_shaped hshaped, Event.ofFrame?_of_shaped hshaped]
        -- the decoder is faithful, so it fails like none does or gives the same version
        have hmade := Event.ofObjectFrame_undecoded (h decoder rfl) frame shape.1 shape.2
        generalize Event.ofObjectFrame (some decoder) frame shape.1 shape.2 = made at hmade ⊢
        generalize Event.ofObjectFrame none frame shape.1 shape.2 = made' at hmade ⊢
        cases hmade with
        | ok hsame => exact .ok hsame
        | error failure => exact .refl .refl _

open Classical in
/-- The veil over faithful decoders and what they make of objects. -/
noncomputable def Veil.decoding : Veil where
  decoder d := if ∀ decoder ∈ d, decoder.Faithful then none else d
  item := Item.undecoded
  decodes := by
    intro d d' h line
    have hplain (d : Option Decoder) : Likewise Item.SameUndecoded (Frame.item d line)
        (Frame.item (if ∀ decoder ∈ d, decoder.Faithful then none else d) line) := by
      split
      · rename_i hfaithful
        exact Frame.item_undecoded hfaithful line
      · exact .refl .refl _
    -- the veil leaves the same of both decoders, so each is compared with what is left
    have hboth := hplain d
    rw [h] at hboth
    exact hboth.trans (fun _ _ _ => Eq.trans) ((hplain d').symm fun _ _ => Eq.symm)
  observes := by
    intro i i' h
    have hi' := i'.undecoded_resembles
    rw [← h] at hi'
    exact i.undecoded_resembles.symm.trans hi'

/-- Faithful decoders all look like none. -/
theorem Veil.decoding_decoder {d : Option Decoder} (h : ∀ decoder ∈ d, decoder.Faithful) :
    Veil.decoding.decoder d = none := if_pos h

/-! ### Worlds without decoders -/

/-- The same way to the server, without a decoder. -/
def Transport.undecoded : Transport → Transport
  | .feed => .feed
  | .http endpoint => .http { endpoint with decoder := none }

/-- The transport decodes faithfully, if at all. -/
def Transport.Faithful : Transport → Prop
  | .feed => True
  | .http endpoint => ∀ decoder ∈ endpoint.decoder, decoder.Faithful

namespace World

/-- The same world without decoders. -/
def undecoded (w : World) : World :=
  { w with
    informers := w.informers.map fun it => { it with transport := it.transport.undecoded }
    connections := w.connections.map fun k => { k with transport := k.transport.undecoded } }

/-- All decoders are faithful. -/
structure Faithful (w : World) : Prop where
  informers : ∀ it ∈ w.informers, it.transport.Faithful
  connections : ∀ k ∈ w.connections, k.transport.Faithful

end World

/-- So do transports with faithful decoders. -/
theorem Veil.decoding_transport {t : Transport} (h : t.Faithful) :
    Veil.decoding.transport t = Veil.decoding.transport t.undecoded := by
  cases t with
  | feed => rfl
  | http endpoint =>
    have hnone : ∀ decoder ∈ (none : Option Decoder), decoder.Faithful := by
      rintro _ ⟨⟩
    rw [transport, Transport.undecoded, transport, decoding_decoder h, decoding_decoder hnone]

/-- Through the veil over decoding it makes no difference that there are no decoders. -/
theorem World.Faithful.veiled_undecoded {κ : Type} {aside : Tasks Job → Rehearsal → κ} {w : World}
    (h : w.Faithful) :
    w.veiled .decoding aside = w.undecoded.veiled .decoding aside := by
  have hinformers : w.informers.map Veil.decoding.informer =
      w.undecoded.informers.map Veil.decoding.informer := by
    rw [undecoded, List.map_map]
    refine List.map_congr_left fun it hit => ?_
    rw [Veil.informer, Veil.decoding_transport (h.informers it hit)]
    rfl
  have hconnections : w.connections.map Veil.decoding.connection =
      w.undecoded.connections.map Veil.decoding.connection := by
    rw [undecoded, List.map_map]
    refine List.map_congr_left fun k hk => ?_
    rw [Veil.connection, Veil.decoding_transport (h.connections k hk)]
    rfl
  show ({ w.watch aside with
      informers := w.informers.map Veil.decoding.informer
      connections := w.connections.map Veil.decoding.connection } : Watch κ) = _
  rw [hinformers, hconnections]
  rfl

/-! ### Calls -/

/-- Two outcomes that are the same, or items that are observed alike. -/
inductive Outcome.Resembles : Outcome → Outcome → Prop
  | refl (outcome : Outcome) : Resembles outcome outcome
  | item {i i' : Item} (h : i.Resembles i') : Resembles (.item i) (.item i')

/-- The calls of a session go by what a veil leaves of the watch. -/
theorem Call.act_agree {veil : Veil} {κ : Type} {aside : Tasks Job → Rehearsal → κ} (call : Call) :
    Agree (World.veiled veil aside) (Likewise Outcome.Resembles) call.act call.act := by
  -- a call that gives no item comes to the same
  have hquiet {α : Type} {m : Act α} (hm : Act.Veiled veil aside m) (outcome : α → Outcome) :
      Agree (World.veiled veil aside) (Likewise Outcome.Resembles)
        (m >>= fun a => pure (outcome a)) (m >>= fun a => pure (outcome a)) :=
    hm.andThen fun a => Agree.result (.refl (outcome a))
  have hcursor (i : InformerId) (f : Cursor → Cursor) :
      Act.Veiled veil aside (do Act.changeCursor (← Act.informer i).cursor f) :=
    Act.informer_look fun _ _ _ _ => Act.changeCursor_veiled _ _
  cases call with
  | setVersion i version => exact hquiet (Act.setVersion_veiled i version) fun _ => .nothing
  | resetVersion i => exact hquiet (Act.resetVersion_veiled i) fun _ => .nothing
  | arm i => exact hquiet (hcursor i Cursor.arm) fun _ => .nothing
  | clear i => exact hquiet (hcursor i Cursor.clear) fun _ => .nothing
  | copy i query => exact hquiet (Act.copyInformer_veiled i query) fun _ => .nothing
  | poll i => exact hquiet (Act.poll_veiled i) .opened
  | close s => exact hquiet (Act.closeStream_veiled s) fun _ => .nothing
  | next s =>
    refine (Act.nextOfStream_agree s).seq fun r r' hr => ?_
    cases hr with
    | some hsame => exact Agree.result (.item (veil.observes hsame))
    | none => exact Agree.result (.refl _)

/-! ### Runs with and without decoders -/

/-- Two stretches of the same call in which a watch goes the same way: the same requests have been
issued at the end, every cursor takes on the same values, and what the call comes to is the same,
but for the objects of items. -/
structure Stretch.SameWatch (x x' : Stretch World Call Outcome) : Prop where
  call : x.call = x'.call
  number : x.number = x'.number
  requests : x.after.requests = x'.after.requests
  cursors : ∀ c,
    cursorValues c (Step.ofChanges x.changes) = cursorValues c (Step.ofChanges x'.changes)
  ending : x.ending.Alike Outcome.Resembles x'.ending

/-- **Decoding is not seen by the cursor.**  In a world with faithful decoders and in the same world
without decoders, the same calls are made, go on with the same answers, and find the same done by
others, who do not go by the decoding.  Then the same requests are issued, with their versions, the
items that are read have the same types and versions, and every cursor takes on the same values, in
each stretch, and the same calls are left waiting. -/
theorem decoding_unseen {κ : Type} {aside : Tasks Job → Rehearsal → κ} {w : World}
    (hdecoders : w.Faithful) {moves : List (Move World Call)}
    (hothers : ∀ f, .elsewhere f ∈ moves → ∀ v v', v.veiled .decoding aside =
      v'.veiled .decoding aside → (f v).veiled .decoding aside = (f v').veiled .decoding aside) :
    let p := Interplay.play Call.act w moves
    let p' := Interplay.play Call.act w.undecoded moves
    List.Forall₂ Stretch.SameWatch p.past p'.past ∧ p.state.requests = p'.state.requests ∧
      (∀ c, p.state.cursor c = p'.state.cursor c) ∧
      List.Forall₂ (fun u u' => u.call = u'.call ∧ u.number = u'.number) p.waiting p'.waiting := by
  intro p p'
  have halike : p.Alike (World.veiled .decoding aside) Outcome.Resembles p' :=
    Interplay.play_alike Call.act_agree hdecoders.veiled_undecoded hothers
  refine ⟨halike.past.imp fun x x' hx => ?_, congrArg Watch.requests halike.state, ?_, ?_⟩
  · have hcursors (c : CursorId) := hx.changes.cursorValues_eq
      fun v v' (hv : v.veiled .decoding aside = v'.veiled .decoding aside) =>
        World.cursor_of_veiled hv c
    exact ⟨hx.call, hx.number, congrArg Watch.requests hx.after, hcursors, hx.ending⟩
  · exact World.cursor_of_veiled halike.state
  · exact halike.waiting.imp fun u u' hu => ⟨hu.call, hu.number⟩

/-- A decoder that makes models with the versions of their objects. -/
def carrying : Decoder where
  decode members := .ok (.model {
    metadata :=
      match Event.rawVersion? members with
      | some version => .versioned (.text version)
      | none => .null })

/-- This decoder keeps the metadata as it was. -/
theorem carrying_faithful : carrying.Faithful := by
  intro members
  refine ⟨_, rfl, fun version h => ?_⟩
  cases hraw : Event.rawVersion? members with
  | none =>
    rw [hraw] at h
    cases h
  | some found =>
    rw [hraw] at h
    simp only [Event.modelVersion?] at h
    split at h
    · cases h
    · exact h

/-- An informer over HTTP, to which the server sends an event, and then a line that is no JSON. -/
def bodyAhead (decoder : Option Decoder) : World where
  informers := [{ transport := .http { name := "kubernetes", decoder } }]
  server.script := [{ reply := .stream (bodyOf [addedLine, brokenLine]) none true }]

/-- A caller polls, reads up to the end, and polls again. -/
def readThrough : List (Move World Call) :=
  [.begin (.poll 0), .begin (.next 0), .begin (.next 0), .begin (.next 0), .begin (.poll 0)]

/-- With models and without, the second poll asks for the version of the event. -/
theorem carrying_unseen :
    let p := Interplay.play Call.act (bodyAhead (some carrying)) readThrough
    let p' := Interplay.play Call.act (bodyAhead none) readThrough
    List.Forall₂ Stretch.SameWatch p.past p'.past ∧ p.state.requests = p'.state.requests ∧
      p.state.requests.map (·.version?) = [some (.text "2"), some (.text "0")] ∧
      p.state.cursor 0 = p'.state.cursor 0 ∧ p.state.cursor 0 = { version := "2" } := by
  intro p p'
  have hfaithful : (bodyAhead (some carrying)).Faithful := by
    refine ⟨fun it hit => ?_, fun k hk => by cases hk⟩
    rw [List.mem_singleton.mp hit]
    rintro _ ⟨⟩
    exact carrying_faithful
  -- nothing happens elsewhere in this run
  have hothers (f : World → World) (hf : .elsewhere f ∈ readThrough) (v v' : World)
      (hv : v.veiled .decoding (fun _ _ => ()) = v'.veiled .decoding fun _ _ => ()) :
      (f v).veiled .decoding (fun _ _ => ()) = (f v').veiled .decoding fun _ _ => () := by
    simp [readThrough] at hf
  have hnone : (bodyAhead (some carrying)).undecoded = bodyAhead none := by
    simp [bodyAhead, World.undecoded, Transport.undecoded]
  have hsame := decoding_unseen hfaithful hothers
  rw [hnone] at hsame
  obtain ⟨hpast, hrequests, hcursors, -⟩ := hsame
  exact ⟨hpast, hrequests, rfl, hcursors 0, by decide +kernel⟩

end ResumableWatch
