import ResumableWatch.Proofs.Event.Frames
import ResumableWatch.Proofs.Informer.Calls
import ResumableWatch.Proofs.Stream.Reading
import ResumableWatch.Proofs.Version.Merging
/-!
# Versions on a stream

Which events a stream delivers, by the versions that they carry.  An event passes a cursor
(`Event.Passes`) unless its version or the one of the cursor is a row of too many digits, and only
then its observation fails (`Item.effect_event`).

A read that nothing strikes delivers the next item if it can be observed (`nextObserved_delivers`),
and fails otherwise: the cursor stays where it was then, and the stream is over.  So all events of
frames are delivered but those that do not pass (`only_long_versions_fail`).
-/

namespace ResumableWatch

open ResumableWatch.Fiber

/-! ### Events that pass -/

namespace Event

/-- The version of an event, if it has one to be observed, can be merged into a cursor. -/
def Passes (e : Event) (cursor : Cursor) : Prop :=
  e.status = none → ∀ incoming, e.version = .ok incoming → incoming.isEmpty = false →
    Version.Readable cursor.version ∧ Version.Readable incoming

/-- An event with an undecoded object has a version, perhaps an empty one. -/
theorem exists_version {e : Event} {object : List (String × Json)} (hraw : e.raw = .object object) :
    ∃ incoming, e.version = .ok incoming := by
  unfold version
  split
  · exact ⟨_, rfl⟩
  · split
    · exact ⟨_, rfl⟩
    · rw [hraw]
      exact ⟨_, rfl⟩

end Event

namespace Cursor

theorem merge_of_readable {cursor : Cursor} {incoming : String}
    (h : Version.Readable cursor.version ∧ Version.Readable incoming) :
    ∃ merged, cursor.merge incoming = .ok merged := by
  rw [Cursor.merge, Version.merge_of_readable h.1 h.2]
  exact ⟨_, rfl⟩

theorem merge_of_not_readable {cursor : Cursor} {incoming : String}
    (h : ¬ (Version.Readable cursor.version ∧ Version.Readable incoming)) :
    ∃ n, cursor.merge incoming = .error (.tooLong n) := by
  rw [Cursor.merge, Version.merge_of_not_readable h]
  exact ⟨_, rfl⟩

end Cursor

/-- The observation of an event fails exactly if the event does not pass, for the many digits of
its version or of the cursor. -/
theorem Item.effect_event {e : Event} {object : List (String × Json)}
    (hraw : e.raw = .object object) (cursor : Cursor) :
    (e.Passes cursor → ∃ observed, (Item.event e).effect cursor = .ok observed) ∧
      (¬ e.Passes cursor → ∃ n, (Item.event e).effect cursor = .error (.numeral (.tooLong n))) := by
  obtain ⟨incoming, hincoming⟩ := Event.exists_version hraw
  cases hstatus : e.status with
  | some status =>
    refine ⟨fun _ => ⟨_, by rw [effect, hstatus]⟩, fun h => absurd (fun hnone => ?_) h⟩
    rw [hstatus] at hnone
    cases hnone
  | none =>
    simp only [effect, hstatus, hincoming, Cursor.observe]
    cases hempty : incoming.isEmpty with
    | true =>
      refine ⟨fun _ => ⟨cursor, rfl⟩, fun h => absurd (fun _ v hv hsome => ?_) h⟩
      rw [hincoming] at hv
      cases hv
      rw [hempty] at hsome
      cases hsome
    | false =>
      rw [if_neg Bool.false_ne_true]
      constructor
      · intro h
        obtain ⟨merged, hmerge⟩ := Cursor.merge_of_readable (h hstatus incoming hincoming hempty)
        exact ⟨merged, by rw [hmerge]⟩
      · intro h
        -- The event does not pass, so one of the two versions to be merged has too many digits.
        have hlong : ¬ (Version.Readable cursor.version ∧ Version.Readable incoming) := by
          intro hboth
          apply h
          intro _ v hv _
          rw [hincoming] at hv
          cases hv
          exact hboth
        obtain ⟨n, hmerge⟩ := Cursor.merge_of_not_readable hlong
        exact ⟨n, by rw [hmerge]⟩

/-! ### Observed reads -/

namespace Act

/-- While a stream is read, nobody else touches it or its connection, and nothing strikes a wait.
While it waits, the read has not taken anything and has left the cursor alone. -/
def readingOn (s : StreamId) (k : ConnectionId) (c : CursorId) : Terms World where
  rely w t := t.connection k = w.connection k ∧ Stands s k c false true t ∧ c < t.cursors.length
  answers answer := answer = .ok ()
  pause w _ t := Stands s k c false true t ∧ (t.connection k).items = (w.connection k).items ∧
    t.cursor c = w.cursor c

/-- The next item is delivered if it can be observed. -/
def DeliversObservable (k : ConnectionId) (c : CursorId) (w : World)
    (r : Except Failure (Option Item)) (_ : World) : Prop :=
  ∀ item rest cursor, (w.connection k).items = item :: rest →
    item.effect (w.cursor c) = .ok cursor → r = .ok (some item)

section Observing

variable {s : StreamId} {k : ConnectionId} {c : CursorId} {w t : World}

/-- What is known of a read by its stream and its connection, and by its cursor, is known at once,
whatever would strike a wait. -/
theorem meets_readingOn {α : Type} {m : Act α} {Strikes : Failure → Prop}
    {post post' : World → Except Failure α → World → Prop}
    (h : m.Meets (whileStruckBy Strikes k (Stands s k c false true)) post w t)
    (h' : m.Meets (quietly c) post' w t) :
    m.Meets (readingOn s k c) (fun w r t => post w r t ∧ post' w r t) w t := by
  refine (h.and h').imp (fun w u => w = u) (fun _ _ _ => trivial) ?_ ?_ ?_ rfl
  · rintro w _ _ t rfl ⟨⟨hstands, hleft⟩, -, hcursor⟩
    exact ⟨hstands, hleft, hcursor⟩
  · rintro w _ _ t answer u rfl - rfl ⟨hsame, hstands, hthere⟩ -
    have hunstruck : ∀ failure, (.ok () : Wakeup) = .error failure → Strikes failure := by
      intro failure h
      cases h
    exact ⟨⟨hunstruck, trivial⟩, ⟨⟨hsame, hstands⟩, hthere⟩, ⟨trivial, trivial⟩, rfl⟩
  · rintro w _ r t rfl h
    exact h

/-- There is no next item, or it cannot be observed. -/
def NoneObservable (k : ConnectionId) (c : CursorId) (w : World) : Prop :=
  ∀ item rest, (w.connection k).items = item :: rest → ∃ cause, item.effect (w.cursor c) = .error cause

theorem noneObservable_of_nil (h : (w.connection k).items = []) : NoneObservable k c w := by
  intro item rest hitems
  rw [h] at hitems
  cases hitems

/-- Where no item can be observed, it does not matter what a read comes to. -/
theorem NoneObservable.delivers (h : NoneObservable k c w) (r : Except Failure (Option Item))
    (t : World) : DeliversObservable k c w r t := by
  intro item rest cursor hitems hcursor
  obtain ⟨cause, hcause⟩ := h item rest hitems
  rw [hcause] at hcursor
  cases hcursor

theorem endObservation_delivers {m : Act (Option Item)}
    (hm : ∀ u, m.Meets (readingOn s k c) (DeliversObservable k c) w u)
    (hnone : NoneObservable k c w) (h : Stands s k c false true t) :
    (endObservation s >>= fun _ => m).Meets (readingOn s k c) (DeliversObservable k c) w t := by
  rw [meets_bind]
  refine endObservation_meets (fun _ _ => trivial) h fun result u _ => ?_
  cases result with
  | ok _ => exact hm u
  | error failure => exact hnone.delivers _ u

theorem failObservation_delivers {failure : Failure} (hnone : NoneObservable k c w)
    (h : Stands s k c false true t) :
    (failObservation s failure).Meets (readingOn s k c) (DeliversObservable k c) w t :=
  endObservation_delivers (hnone.delivers (.error failure)) hnone h

/-- The item that was read is delivered if it can be observed. -/
theorem observe_delivers {stream : Stream} (hstream : stream.cursor = c) {item : Item}
    {rest : List Item} (h : Stands s k c false true t) (hc : c < t.cursors.length)
    (hcursor : t.cursor c = w.cursor c) (hitems : (w.connection k).items = item :: rest) :
    (observe stream item).Meets (readingOn s k c) (fun u₀ r u =>
      match r with
      | .error failure =>
        (failObservation s failure).Meets (readingOn s k c) (DeliversObservable k c) u₀ u
      | .ok _ =>
        (noteObserved stream.owner item).Meets (readingOn s k c)
          (byOutcome (fun v₀ _ v => DeliversObservable k c v₀ (.ok (some item)) v)
            fun v₀ e v => DeliversObservable k c v₀ (.error e) v) u₀ u) w t := by
  obtain ⟨changes, v, hgo, hconf⟩ := observe_goes (hstream.symm ▸ hc) item
  rw [hstream] at hgo hconf
  rw [hgo.meets_iff, meets_ofExcept]
  refine ⟨fun _ _ => trivial, ?_⟩
  cases heffect : item.effect (t.cursor c) with
  | error cause =>
    refine failObservation_delivers (fun found rest hfound => ?_) (h.of_streams hconf.streams)
    rw [hitems] at hfound
    cases hfound
    exact ⟨cause, by rw [← hcursor, heffect]⟩
  | ok cursor =>
    have hdelivered : DeliversObservable k c w (.ok (some item)) v := by
      intro found rest _ hfound _
      rw [hitems] at hfound
      cases hfound
      rfl
    exact noteObserved_meets hdelivered fun _ => ⟨trivial, hdelivered⟩

theorem readObserved_delivers (h : Stands s k c false true t) (hc : c < t.cursors.length)
    (hcursor : t.cursor c = w.cursor c)
    (hitems : (w.connection k).items = (t.connection k).items) :
    (readObserved s).Meets (readingOn s k c) (DeliversObservable k c) w t := by
  rw [meets_readObserved, h.connection]
  have hfetches : (nextItem k).Meets (whileStruckBy (fun _ => False) k (Stands s k c false true))
      (Fetches (fun _ => False) k (Stands s k c false true)) w t :=
    nextItem_fetches (fun _ _ hsame hu => hu.of_streams hsame) (fun _ h => h.elim) h hitems
  have hstill : (nextItem k).Meets (quietly c)
      (fun w _ t => c < t.cursors.length ∧ t.cursor c = w.cursor c) w t :=
    leaves_of_steady (nextItem_steady still_reads (fun _ => trivial) k) (fun _ _ _ hc h => ⟨hc, h⟩)
      hc hcursor
  refine (meets_readingOn hfetches hstill).mono fun w₀ r u hr => ?_
  obtain ⟨⟨hu, hread⟩, hthere, hsame⟩ := hr
  rcases r with failure | _ | item
  · -- nothing strikes the read, so there was no item
    exact failObservation_delivers (noneObservable_of_nil (hread.resolve_left id)) hu
  · have hnone : NoneObservable k c w₀ := noneObservable_of_nil hread
    exact endObservation_delivers (fun u => hnone.delivers (.ok none) u) hnone hu
  · exact observe_delivers h.cursor hu hthere hsame hread

/-- A read of an observation delivers the next item if it can be observed. -/
theorem nextObserved_delivers (h : Stands s k c false false w) (hc : c < w.cursors.length) :
    (nextObserved s).Meets (readingOn s k c) (DeliversObservable k c) w w := by
  rw [meets_nextObserved h.busy (of_decide_eq_false h.isOver)]
  have hread : (readObserved s).Meets (readingOn s k c) (DeliversObservable k c) w _ :=
    readObserved_delivers h.reading hc rfl rfl
  exact ⟨trivial, trivial, hread.mono fun _ _ _ hr => ⟨trivial, hr⟩⟩

/-- A read finds the items that the connection had when the read began. -/
theorem meets_finding {α : Type} {m : Act α} {items : List Item}
    {post : World → Except Failure α → World → Prop} (h : m.Meets (readingOn s k c) post w t)
    (hitems : (w.connection k).items = items) :
    m.Meets (readingOn s k c) (fun w r t => (w.connection k).items = items ∧ post w r t) w t := by
  refine h.imp (fun w₀ w => w₀ = w ∧ (w.connection k).items = items) (fun _ _ h => h) ?_ ?_ ?_
    ⟨rfl, hitems⟩
  · rintro w _ _ t ⟨rfl, -⟩ hpause
    exact hpause
  · rintro w _ _ t answer u ⟨rfl, hitems⟩ ⟨-, hleft, -⟩ hanswer hrely -
    refine ⟨hanswer, hrely, trivial, rfl, ?_⟩
    rw [hrely.1, hleft, hitems]
  · rintro w _ r t ⟨rfl, hitems⟩ hpost
    exact ⟨hitems, hpost⟩

/-- What a read of an observation comes to, by what can be observed of the next item. -/
theorem nextObserved_observes {item : Item} {rest : List Item} (h : Stands s k c false false w)
    (hc : c < w.cursors.length) (hitems : (w.connection k).items = item :: rest) :
    (nextObserved s).Meets (readingOn s k c)
      (fun w₀ r t =>
        (∀ cursor, item.effect (w₀.cursor c) = .ok cursor →
          r = .ok (some item) ∧ Stands s k c false false t ∧ (t.connection k).items = rest ∧
            t.cursor c = cursor) ∧
        ∀ cause, item.effect (w₀.cursor c) = .error cause →
          (∃ failure, r = .error failure) ∧ Stands s k c true false t ∧
            t.cursor c = w₀.cursor c) w w := by
  have hmeets : (nextObserved s).Meets
      (whileStruckBy (fun failure => failure.interruptsStream = false) k (Stands s k c false true))
      (Delivers s k c false) w w := nextObserved_meets h
  have hread := meets_readingOn hmeets (nextObserved_takes hc h.cursor)
  refine (meets_finding (hread.both (nextObserved_delivers h hc)) hitems).mono ?_
  rintro w₀ r t ⟨hitems, ⟨hstands, -, htakes⟩, hdelivers⟩
  constructor
  · intro cursor heffect
    obtain rfl := hdelivers item rest cursor hitems heffect
    obtain ⟨hstands, htaken⟩ := hstands
    rw [hitems] at htaken
    cases htaken
    have hcursor : item.effect (w₀.cursor c) = .ok (t.cursor c) := htakes
    rw [heffect] at hcursor
    cases hcursor
    exact ⟨rfl, hstands, rfl, rfl⟩
  · intro cause heffect
    rcases r with failure | _ | found
    · exact ⟨⟨failure, rfl⟩, hstands, htakes⟩
    · -- the end is found only where there is no item
      have hnone : (w₀.connection k).items = [] := hstands.2
      rw [hitems] at hnone
      cases hnone
    · obtain ⟨-, htaken⟩ := hstands
      rw [hitems] at htaken
      cases htaken
      have hcursor : item.effect (w₀.cursor c) = .ok (t.cursor c) := htakes
      rw [heffect] at hcursor
      cases hcursor

end Observing

end Act

/-! ### Versions that stop a stream -/

/-- **Which versions stop a stream.**  Two versions are merged unless one of them is a row of too
many digits; if one of them is no number of 32 bits, the later one is kept as it is.

So a read finds an event that a frame describes, nothing strikes it and nobody else touches the
stream: it delivers the event if the event passes, and moves the cursor as the event says.  Else,
whatever its decoder has made of it, the read fails, the cursor stays where it was, and the stream
is over. -/
theorem only_long_versions_fail (current incoming : String) :
    (Version.Readable current ∧ Version.Readable incoming →
      Version.merge current incoming = .ok (
        if Version.Numeric current ∧ Version.Numeric incoming then
          toString (max (Version.value current) (Version.value incoming))
        else incoming)) ∧
    (¬ (Version.Readable current ∧ Version.Readable incoming) →
      ∃ n, Version.merge current incoming = .error (.tooLong n)) ∧
    ∀ {s : StreamId} {k : ConnectionId} {c : CursorId} {w : World} {decoder : Option Decoder}
      {frame : Json} {e : Event} {rest : List Item},
      Event.ofFrame? decoder frame = .ok e → Stands s k c false false w → c < w.cursors.length →
      (w.connection k).items = .event e :: rest →
      (Act.nextObserved s).Meets (Act.readingOn s k c)
        (fun w₀ r t =>
          (e.Passes (w₀.cursor c) →
            r = .ok (some (.event e)) ∧ Stands s k c false false t ∧
              (t.connection k).items = rest ∧
              (Item.event e).effect (w₀.cursor c) = .ok (t.cursor c)) ∧
          (¬ e.Passes (w₀.cursor c) →
            (∃ failure, r = .error failure) ∧ Stands s k c true false t ∧
              t.cursor c = w₀.cursor c)) w w := by
  refine ⟨fun h => Version.merge_of_readable h.1 h.2,
    fun h => ⟨_, Version.merge_of_not_readable h⟩, ?_⟩
  intro s k c w decoder frame e rest hevent hstands hc hitems
  obtain ⟨object, -, hraw⟩ := (Event.ofFrame?_eq_ok_iff.mp hevent).shaped
  refine (Act.nextObserved_observes hstands hc hitems).mono fun w₀ r t hr => ?_
  -- whether the event can be observed is a matter of the cursor at which it arrives
  obtain ⟨hpasses, hfails⟩ := Item.effect_event hraw (w₀.cursor c)
  constructor
  · intro h
    obtain ⟨cursor, heffect⟩ := hpasses h
    obtain ⟨hdelivered, hstands, hrest, rfl⟩ := hr.1 cursor heffect
    exact ⟨hdelivered, hstands, hrest, heffect⟩
  · intro h
    obtain ⟨n, heffect⟩ := hfails h
    exact hr.2 _ heffect

/-- A version of so many digits. -/
def nines (n : Nat) : String := String.ofList (List.replicate n '9')

theorem length_nines (n : Nat) : (nines n).length = n := by
  rw [nines, String.length_ofList, List.length_replicate]

/-- More digits than are read make a version that cannot be merged. -/
theorem nines_not_readable {n : Nat} (h : Number.digitLimit < n) :
    ¬ Version.Readable (nines n) := by
  have hsome : n ≠ 0 := by
    intro hzero
    rw [hzero] at h
    exact Nat.not_lt_zero _ h
  have hdecimal : Version.isDecimal (nines n).toList = true := by
    rw [nines, String.toList_ofList, Version.isDecimal, List.all_replicate, List.isEmpty_replicate]
    simp [hsome]
  rintro (htoken | hshort)
  · rw [hdecimal] at htoken
    cases htoken
  · rw [length_nines] at hshort
    exact absurd hshort (Nat.not_le_of_lt h)

/-- An object with a version. -/
def versionedObject (version : String) : List (String × Json) :=
  [("metadata", .object [("resourceVersion", .text version)])]

/-- The event that a version comes with. -/
def versionedEvent (version : String) : Event where
  type := .added
  object := .same
  raw := .object (versionedObject version)

theorem version_versionedEvent (version : String) :
    (versionedEvent version).version = .ok version := by
  show Except.ok ((if version.isEmpty then none else some version).getD "") = .ok version
  split
  · rename_i hempty
    rw [String.isEmpty_iff.mp hempty]
    rfl
  · rfl

/-- A stream that is about to deliver an event with a version, at a cursor with a token. -/
def World.aboutToDeliver (version : String) : World where
  cursors := [{ version := "abc" }]
  connections := [{
    transport := .feed
    pending := [.item none (.ok (.event (versionedEvent version)))] }]
  streams := [{ connection := 0, cursor := 0, name := "watch" }]

/-- The frame that a version comes in. -/
def versionedFrame (version : String) : Json :=
  .object [("type", .text "ADDED"), ("object", .object (versionedObject version))]

theorem stands_aboutToDeliver (version : String) :
    Stands 0 0 0 false false (World.aboutToDeliver version) :=
  ⟨Nat.zero_lt_one, rfl, rfl, rfl, rfl⟩

/-- At the token an event of version 5 is delivered, and the cursor follows it.  An event with a
version of too many digits makes the read fail, whatever others make of the cursor while the read
waits, and the cursor stays where it was. -/
theorem five_delivered_nines_fail :
    (∃ n, Version.merge "abc" (nines 4301) = .error (.tooLong n)) ∧
      (Act.nextObserved 0).Meets (Act.readingOn 0 0 0)
        (fun w₀ r t => w₀.cursor 0 = { version := "abc" } →
          r = .ok (some (.event (versionedEvent "5"))) ∧ t.cursor 0 = { version := "5" })
        (World.aboutToDeliver "5") (World.aboutToDeliver "5") ∧
      (Act.nextObserved 0).Meets (Act.readingOn 0 0 0)
        (fun w₀ r t => (∃ failure, r = .error failure) ∧ t.cursor 0 = w₀.cursor 0)
        (World.aboutToDeliver (nines 4301)) (World.aboutToDeliver (nines 4301)) := by
  have hunreadable := nines_not_readable (by decide : Number.digitLimit < 4301)
  obtain ⟨-, hmerge, hread⟩ := only_long_versions_fail "abc" (nines 4301)
  have hevent (version : String) :
      Event.ofFrame? none (versionedFrame version) = .ok (versionedEvent version) := rfl
  refine ⟨hmerge fun h => hunreadable h.2, ?_, ?_⟩
  · -- Version 5: the cursor holds the token, and both are readable.
    have hfive := hread (hevent "5") (stands_aboutToDeliver "5") Nat.zero_lt_one rfl
    refine hfive.mono fun w₀ r t hr hcursor => ?_
    have hpasses : (versionedEvent "5").Passes (w₀.cursor 0) := by
      intro _ incoming hincoming _
      rw [version_versionedEvent] at hincoming
      cases hincoming
      rw [hcursor]
      decide
    obtain ⟨hdelivered, -, -, heffect⟩ := hr.1 hpasses
    have hmerged : (Item.event (versionedEvent "5")).effect { version := "abc" }
        = .ok { version := "5" } := rfl
    rw [hcursor, hmerged] at heffect
    exact ⟨hdelivered, (Except.ok.inj heffect).symm⟩
  · -- Too many digits: the event passes no cursor, whatever that is when the read is resumed.
    have hlong := hread (hevent (nines 4301)) (stands_aboutToDeliver _) Nat.zero_lt_one rfl
    refine hlong.mono fun w₀ r t hr => ?_
    have hsome : (nines 4301).isEmpty = false := by
      rw [Bool.eq_false_iff, Ne, String.isEmpty_iff, ← String.length_eq_zero_iff, length_nines]
      decide
    have hnot : ¬ (versionedEvent (nines 4301)).Passes (w₀.cursor 0) := by
      intro h
      exact hunreadable (h rfl _ (version_versionedEvent _) hsome).2
    obtain ⟨hfails, -, hcursor⟩ := hr.2 hnot
    exact ⟨hfails, hcursor⟩

/-- A token and a row of too many digits are not merged, though neither is a number of 32 bits. -/
theorem token_and_nines_not_merged :
    ¬ Version.Numeric "abc" ∧
      Version.merge "abc" (nines 4301) = .error (.tooLong 4301) ∧
      Version.merge "abc" (nines 4301) ≠ .ok (nines 4301) := by
  have hlong : ¬ Version.Readable (nines 4301) := nines_not_readable (by decide)
  have htoken : Version.Readable "abc" := by decide
  have hmerge : Version.merge "abc" (nines 4301) = .error (.tooLong 4301) := by
    rw [Version.merge_of_not_readable fun h => hlong h.2, if_pos htoken, length_nines]
  refine ⟨by decide, hmerge, fun h => ?_⟩
  rw [hmerge] at h
  cases h

end ResumableWatch
