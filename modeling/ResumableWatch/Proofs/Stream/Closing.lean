import Mathlib.Algebra.Ring.Nat
import ResumableWatch.Proofs.Informer.Runs
import ResumableWatch.Proofs.Stream.Body
import ResumableWatch.Proofs.Stream.Reading
/-!
# Responses are closed once

A stream over HTTP is closed on many ways: at the end of the body, by a failure of a read or of an
observation, by a cancellation, by its consumer, before the first read or after the last one, and
closing the response may itself fail.  Each layer has a flag of its own, and a `Gauge` reads all of
them at once.  Every operation moves the gauge and counts what it closes; `Stage` and `Tally` are
its postconditions.

The gauges between two calls are three: the stream is untouched or read from (`Gauge.idle`), it is
being read (`Gauge.reading`), or all is closed (`Gauge.settled`), and `Lifecycle` follows a consumer
through them.  The response is closed by the first call that does not come to an item and by no
other one, and the informer is told of the end of its poll once (`closes_once`).
-/

namespace ResumableWatch

open ResumableWatch.Fiber Interplay

/-! ### Counting -/

/-- Whether the entry tells that a response was closed. -/
def Entry.isClose (entry : Entry) : Bool :=
  match entry.what with
  | .close => true
  | _ => false

/-- How often a response was closed. -/
def World.closings (w : World) : Nat := w.journal.countP Entry.isClose

/-- None of the entries of a log line is about a close. -/
theorem World.closings_log (w : World) (level : Log.Level) (component event : String)
    (fields : List (String × Json)) (lines : Nat) :
    (w.log level component event fields lines).closings = w.closings := by
  obtain ⟨entries, heq, hall⟩ := log_written w level component event fields lines
  have hnone : entries.countP Entry.isClose = 0 := by
    apply List.countP_eq_zero.mpr
    intro e he hclose
    rw [Entry.isClose] at hclose
    rcases hall e he with ⟨l, h⟩ | ⟨text, h⟩
    · rw [h] at hclose
      cases hclose
    · rw [h] at hclose
      cases hclose
  rw [heq, closings, closings, List.countP_append, hnone, Nat.zero_add]

/-- From one state to another, responses were closed that often, and that often the informer was
told that a poll of it had ended. -/
structure Tally (i : InformerId) (closings endings : Nat) (w t : World) : Prop where
  closings : t.closings = w.closings + closings
  endings : (t.informer i).endings = (w.informer i).endings + endings

namespace Tally

variable {i : InformerId} {closings endings closings' endings' : Nat} {w t u : World}

/-- Who touches neither the journal nor the informers counts nothing. -/
theorem of_same (hjournal : t.journal = w.journal) (hinformers : t.informers = w.informers) :
    Tally i 0 0 w t where
  closings := by rw [World.closings, hjournal, ← World.closings, Nat.add_zero]
  endings := by rw [World.informer, hinformers, ← World.informer, Nat.add_zero]

theorem refl : Tally i 0 0 w w := of_same rfl rfl

theorem trans (h₁ : Tally i closings endings w t) (h₂ : Tally i closings' endings' t u) :
    Tally i (closings + closings') (endings + endings') w u where
  closings := by rw [h₂.closings, h₁.closings, Nat.add_assoc]
  endings := by rw [h₂.endings, h₁.endings, Nat.add_assoc]

/-- Something is done that counts nothing. -/
theorem skip (h₁ : Tally i closings endings w t) (h₂ : Tally i 0 0 t u) :
    Tally i closings endings w u := h₁.trans h₂

/-- What was done before counted nothing. -/
theorem after_nothing (h₁ : Tally i 0 0 w t) (h₂ : Tally i closings endings t u) :
    Tally i closings endings w u where
  closings := by rw [h₂.closings, h₁.closings, Nat.add_zero]
  endings := by rw [h₂.endings, h₁.endings, Nat.add_zero]

/-- A count may begin before a change that leaves the journal and the informers alone. -/
theorem of_before (h : Tally i closings endings t u) (hjournal : t.journal = w.journal)
    (hinformers : t.informers = w.informers) : Tally i closings endings w u :=
  (of_same hjournal hinformers).after_nothing h

/-- A new entry about something else than a close counts nothing. -/
theorem record {what : Happening} (hwhat : Entry.isClose ⟨w.tasks.now, what⟩ = false) :
    Tally i 0 0 w (w.record what) where
  closings := List.countP_cons_of_neg (by rw [hwhat]; exact Bool.false_ne_true)
  endings := rfl

/-- A connection that is marked as closed counts as one response closed. -/
theorem markClosed (k : ConnectionId) : Tally i 1 0 w (w.markClosed k) where
  closings := List.countP_cons_of_pos rfl
  endings := rfl

theorem log (level : Log.Level) (component event : String) (fields : List (String × Json)) :
    Tally i 0 0 w (w.log level component event fields 0) where
  closings := World.closings_log w level component event fields 0
  endings := by rw [World.informer, World.log_informers, ← World.informer, Nat.add_zero]

end Tally

/-! ### Gauges -/

/-- All that tells whether a stream and its response are closed. -/
structure Gauge where
  /-- The observation is over. -/
  isOver : Bool := false
  /-- An item is being waited for. -/
  busy : Bool := false
  /-- The consumer has closed the stream, or has seen its end. -/
  closed : Bool := false
  /-- The frames have ended, so the body is not read any more. -/
  ended : Bool := false
  /-- The response is closed. -/
  shut : Bool := false
  /-- What has not been read of the body. -/
  left : List Element

namespace Gauge

/-- Nothing is closed, and nobody reads. -/
def idle (ended : Bool) (left : List Element) : Gauge := { ended, left }

/-- Nothing is closed, and an item is being waited for. -/
def reading (left : List Element) : Gauge := { busy := true, left }

/-- All is closed, with or without the knowledge of the consumer. -/
def settled (closed : Bool) (left : List Element) : Gauge :=
  { isOver := true, closed, ended := true, shut := true, left }

end Gauge

/-- The gauge of a stream at a connection. -/
def World.gauge (s : StreamId) (k : ConnectionId) (w : World) : Gauge where
  isOver := decide ((w.stream s).progress = .over)
  busy := (w.stream s).busy
  closed := (w.stream s).closed
  ended := (w.connection k).ended
  shut := (w.connection k).closed
  left := (w.connection k).pending

/-- A stream that an informer opened over HTTP, and its gauge. -/
structure Stage (s : StreamId) (k : ConnectionId) (i : InformerId) (g : Gauge) (w : World) :
    Prop where
  there : s < w.streams.length
  connection : (w.stream s).connection = k
  owner : (w.stream s).owner = some i
  informer : i < w.informers.length
  http : ∃ endpoint, (w.connection k).transport = .http endpoint
  gauge : w.gauge s k = g

namespace Stage

variable {s : StreamId} {k : ConnectionId} {i : InformerId} {g g' : Gauge} {w t : World}

/-- The stage is a matter of the stream and of its connection only. -/
theorem of_lookup (h : Stage s k i g w) (hstream : t.streams[s]? = w.streams[s]?)
    (hconnection : t.connection k = w.connection k)
    (hinformers : w.informers.length ≤ t.informers.length) : Stage s k i g t := by
  have hsame : t.stream s = w.stream s := by rw [World.stream, World.stream, hstream]
  have hfound := List.getElem?_eq_getElem h.there
  rw [← hstream] at hfound
  refine ⟨(List.getElem?_eq_some_iff.mp hfound).1, ?connection, ?owner,
    Nat.lt_of_lt_of_le h.informer hinformers, ?http, ?gauge⟩
  case connection => rw [hsame, h.connection]
  case owner => rw [hsame, h.owner]
  case http =>
    rw [hconnection]
    exact h.http
  case gauge => rw [← h.gauge, World.gauge, World.gauge, hsame, hconnection]

theorem of_aside (h : Stage s k i g w) (haside : Aside w t)
    (hinformers : w.informers.length ≤ t.informers.length) : Stage s k i g t :=
  h.of_lookup (by rw [haside.1]) (haside.connection k) hinformers

theorem isOver (h : Stage s k i g w) : decide ((w.stream s).progress = .over) = g.isOver :=
  congrArg Gauge.isOver h.gauge

theorem busy (h : Stage s k i g w) : (w.stream s).busy = g.busy := congrArg Gauge.busy h.gauge

theorem closed (h : Stage s k i g w) : (w.stream s).closed = g.closed :=
  congrArg Gauge.closed h.gauge

theorem ended (h : Stage s k i g w) : (w.connection k).ended = g.ended :=
  congrArg Gauge.ended h.gauge

theorem shut (h : Stage s k i g w) : (w.connection k).closed = g.shut :=
  congrArg Gauge.shut h.gauge

theorem left (h : Stage s k i g w) : (w.connection k).pending = g.left :=
  congrArg Gauge.left h.gauge

theorem readable (h : Stage s k i g w) : (w.connection k).Readable := by
  obtain ⟨endpoint, hhttp⟩ := h.http
  exact Connection.readable_of_http hhttp

/-- A change of the stream moves the gauge as it changes the record. -/
theorem changeStream (h : Stage s k i g w) {f : Stream → Stream}
    (hconnection : (f (w.stream s)).connection = (w.stream s).connection)
    (howner : (f (w.stream s)).owner = (w.stream s).owner)
    (hgauge : g' = { g with
      isOver := decide ((f (w.stream s)).progress = .over)
      busy := (f (w.stream s)).busy
      closed := (f (w.stream s)).closed }) :
    Stage s k i g' (w.changeStream s f) := by
  have hchanged : (w.changeStream s f).stream s = f (w.stream s) := by
    simp [World.stream, World.changeStream, List.getElem?_modify_eq,
      List.getElem?_eq_getElem h.there]
  refine ⟨?there, ?connection, ?owner, h.informer, h.http, ?gauge⟩
  case there =>
    rw [World.changeStream, List.length_modify]
    exact h.there
  case connection => rw [hchanged, hconnection, h.connection]
  case owner => rw [hchanged, howner, h.owner]
  case gauge =>
    rw [hgauge, ← h.gauge, World.gauge, hchanged]
    rfl

/-- A change of the connection moves the gauge as it changes the record. -/
theorem changeConnection (h : Stage s k i g w) {f : Connection → Connection}
    (hhttp : (f (w.connection k)).transport = (w.connection k).transport)
    (hgauge : g' = { g with
      ended := (f (w.connection k)).ended
      shut := (f (w.connection k)).closed
      left := (f (w.connection k)).pending }) :
    Stage s k i g' (w.changeConnection k f) := by
  have hchanged := World.connection_changeConnection h.readable f
  refine ⟨h.there, h.connection, h.owner, h.informer, ?_, ?_⟩
  · rw [hchanged, hhttp]
    exact h.http
  · rw [hgauge, ← h.gauge, World.gauge, hchanged]
    rfl

end Stage

/-- While an item is being waited for, nobody else touches the stream and its connection, nothing
is closed, and nothing has been counted. -/
def attending (s : StreamId) (k : ConnectionId) (i : InformerId) : Terms World where
  rely w t := ∀ g, Stage s k i g w → Stage s k i g t
  pause s₀ _ t := (∃ left, Stage s k i (.reading left) t) ∧ Tally i 0 0 s₀ t

namespace Act

section Operations

variable {s : StreamId} {k : ConnectionId} {i : InformerId} {g : Gauge} {w t : World}
  {terms : Terms World} {waits : Wait → Prop}

/-! ### Closing -/

/-- Closing a response closes it, unless it is closed already; then it does not fail either. -/
theorem closeResponse_stage (hchange : ∀ u v, terms.change u v)
    {post : World → Except Failure Unit → World → Prop} (h : Stage s k i g t)
    (hpost : ∀ r u, Stage s k i { g with shut := true } u →
      Tally i (if g.shut then 0 else 1) 0 t u → (g.shut = true → r = .ok ()) → post w r u) :
    (closeResponse k).Meets terms post w t := by
  cases hshut : g.shut with
  | true =>
    rw [hshut] at hpost
    rw [(closeResponse_of_closed (h.shut.trans hshut)).meets_iff, meets_pure]
    refine ⟨List.forall_mem_nil _, hpost _ t ?_ Tally.refl fun _ => rfl⟩
    rw [← hshut]
    exact h
  | false =>
    rw [hshut] at hpost
    rw [(closeResponse_of_open (h.shut.trans hshut)).meets_iff, meets_ofExcept]
    have hmarked : Stage s k i { g with shut := true }
        (t.changeConnection k fun connection => { connection with closed := true }) := by
      apply h.changeConnection rfl
      rw [h.ended, h.left]
    refine ⟨fun c _ => hchange _ _, hpost _ _ ?_ (Tally.markClosed k) nofun⟩
    exact hmarked.of_lookup rfl rfl (Nat.le_refl _)

/-- Closing a connection ends its frames and closes its response. -/
theorem closeConnection_stage (hchange : ∀ u v, terms.change u v)
    {post : World → Except Failure Unit → World → Prop} (h : Stage s k i g t)
    (hpost : ∀ r u, Stage s k i { g with ended := true, shut := true } u →
      Tally i (if g.shut then 0 else 1) 0 t u → (g.shut = true → r = .ok ()) → post w r u) :
    (closeConnection k).Meets terms post w t := by
  obtain ⟨endpoint, hhttp⟩ := h.http
  unfold closeConnection
  rw [meets_bind, meets_state, byOutcome_ok]
  dsimp only
  rw [hhttp]
  dsimp only
  rw [meets_bind, endFrames, meets_update, byOutcome_ok]
  have hended : Stage s k i { g with ended := true }
      (t.changeConnection k fun connection => { connection with ended := true }) := by
    apply h.changeConnection rfl
    rw [h.shut, h.left]
  refine ⟨hchange _ _, closeResponse_stage hchange hended fun r u hu htally hr => ?_⟩
  exact hpost r u hu (htally.of_before rfl rfl) hr

/-- Ending an observation closes its connection. -/
theorem endObservation_stage (hchange : ∀ u v, terms.change u v)
    {post : World → Except Failure Unit → World → Prop} (h : Stage s k i g t)
    (hpost : ∀ r u, Stage s k i { g with isOver := true, ended := true, shut := true } u →
      Tally i (if g.shut then 0 else 1) 0 t u → (g.shut = true → r = .ok ()) → post w r u) :
    (endObservation s).Meets terms post w t := by
  have hover : Stage s k i { g with isOver := true }
      (t.changeStream s fun stream => { stream with progress := .over }) := by
    apply h.changeStream rfl rfl
    rw [h.busy, h.closed]
    rfl
  rw [meets_endObservation]
  dsimp only
  rw [hover.connection]
  refine ⟨hchange _ _, closeConnection_stage hchange hover fun r u hu htally hr => ?_⟩
  exact hpost r u hu (htally.of_before rfl rfl) hr

/-- Closing an observation that nobody reads: one that has not begun is only marked as over. -/
theorem closeObservation_stage (hchange : ∀ u v, terms.change u v)
    {post : World → Except Failure Unit → World → Prop} (h : Stage s k i g t)
    (hbusy : g.busy = false)
    (hmarked : ∀ u, Stage s k i { g with isOver := true } u → Tally i 0 0 t u → post w (.ok ()) u)
    (hclosed : ∀ r u, Stage s k i { g with isOver := true, ended := true, shut := true } u →
      Tally i (if g.shut then 0 else 1) 0 t u → (g.shut = true → r = .ok ()) → post w r u) :
    (closeObservation s).Meets terms post w t := by
  rw [meets_closeObservation (h.busy.trans hbusy)]
  split
  · refine ⟨hchange _ _, hmarked _ ?_ (Tally.of_same rfl rfl)⟩
    apply h.changeStream rfl rfl
    rw [h.busy, h.closed]
    rfl
  · exact endObservation_stage hchange h hclosed
  · rename_i hover
    refine hmarked t ?_ Tally.refl
    have hgauge : { g with isOver := true } = g := by
      rw [← h.isOver.symm.trans (decide_eq_true hover)]
    rw [hgauge]
    exact h

/-- An informer is told of the end of its poll. -/
theorem pollEnded_stage (hchange : ∀ u v, terms.change u v)
    {post : World → Except Failure Unit → World → Prop} (h : Stage s k i g t)
    (hpost : ∀ u, Stage s k i g u → Tally i 0 1 t u → post w (.ok ()) u) :
    (pollEnded (some i)).Meets terms post w t := by
  unfold pollEnded
  dsimp only
  rw [meets_bind, meets_update, byOutcome_ok, meets_bind, meets_state, byOutcome_ok, log,
    meets_update]
  refine ⟨hchange _ _, hchange _ _, hpost _ ?_ ?_⟩
  · refine h.of_aside ⟨?_, ?_⟩ ?_
    · rw [World.log_streams]
      rfl
    · rw [World.log_connections]
      rfl
    · exact Nat.le_of_eq (by rw [World.log_informers, World.changeInformer, List.length_modify])
  · have htold : Tally i 0 1 t (t.changeInformer i fun informer => { informer with
        phase := if informer.phase = .watching then .idle else informer.phase
        endings := informer.endings + 1 }) := by
      refine ⟨rfl, ?_⟩
      rw [World.informer_changeInformer h.informer]
    exact htold.skip (Tally.log _ _ _ _)

/-- Closing a stream that nobody reads closes all that is still open, and tells the informer of the
end of its poll, unless the consumer has closed the stream before. -/
theorem closeStream_stage (hchange : ∀ u v, terms.change u v)
    {post : World → Except Failure Unit → World → Prop} (h : Stage s k i g t)
    (hbusy : g.busy = false) (hopen : g.closed = false)
    (hpost : ∀ r u,
      Stage s k i { g with isOver := true, closed := true, ended := true, shut := true } u →
      Tally i (if g.shut then 0 else 1) 1 t u → (g.shut = true → r = .ok ()) → post w r u) :
    (closeStream s).Meets terms post w t := by
  have hclosed : Stage s k i { g with closed := true }
      (t.changeStream s fun stream => { stream with closed := true }) := by
    apply h.changeStream rfl rfl
    rw [h.isOver, h.busy]
  -- in the end the informer is told, whatever the closing has come to
  have htold {r : Except Failure Unit} {u : World}
      (hu : Stage s k i { g with isOver := true, closed := true, ended := true, shut := true } u)
      (htally : Tally i (if g.shut then 0 else 1) 0 t u) (hr : g.shut = true → r = .ok ()) :
      (pollEnded (some i)).Meets terms (byOutcome (fun u₀ _ u => post u₀ r u)
        fun u₀ e u => post u₀ (.error e) u) w u :=
    pollEnded_stage hchange hu fun v hv htally' => hpost r v hv (htally.trans htally') hr
  rw [meets_closeStream (h.closed.trans hopen), h.owner, h.connection]
  refine ⟨hchange _ _, closeObservation_stage hchange hclosed hbusy ?_ ?_⟩
  · intro u hu htally
    refine closeConnection_stage hchange hu fun r v hv htally' hr => ?_
    exact htold hv ((htally.after_nothing htally').of_before rfl rfl) hr
  · intro r u hu htally hr
    have hcount : Tally i (if g.shut then 0 else 1) 0 t u := htally.of_before rfl rfl
    cases r with
    | error e => exact htold hu hcount hr
    | ok _ =>
      refine closeConnection_stage hchange hu fun r v hv htally' hr' => ?_
      exact htold hv (hcount.skip htally') fun _ => hr' rfl

theorem closeStream_stage_of_closed {post : World → Except Failure Unit → World → Prop}
    (h : Stage s k i g t) (hclosed : g.closed = true) (hpost : post w (.ok ()) t) :
    (closeStream s).Meets terms post w t := by
  rw [meets_closeStream_of_closed (h.closed.trans hclosed)]
  exact hpost

/-! ### Reading -/

/-- A wait in a read: the stage is there afterwards, and a new count begins. -/
theorem await_stage {what : Wait} {α : Type} {m : Act α}
    {post : World → Except Failure α → World → Prop} {left : List Element}
    (h : Stage s k i (.reading left) t) (htally : Tally i 0 0 w t)
    (hgoes : ∀ u, Stage s k i (.reading left) u →
      m.Meets (attending s k i) post u u)
    (hstruck : ∀ u e, Stage s k i (.reading left) u → post u (.error e) u) :
    (Fiber.await what >>= fun _ => m).Meets (attending s k i) post w t := by
  rw [meets_bind, meets_await]
  refine ⟨⟨⟨left, h⟩, htally⟩, fun answer u _ hrely _ => ?_⟩
  cases answer with
  | ok _ => exact hgoes u (hrely _ h)
  | error e => exact hstruck u e (hrely _ h)

theorem readLine_stage {elements : List Element} (h : Stage s k i (.reading elements) t)
    (htally : Tally i 0 0 w t) :
    (readLine k elements).Meets (attending s k i)
      (fun s₀ _ u => (∃ left, Stage s k i (.reading left) u) ∧ Tally i 0 0 s₀ u) w t := by
  induction elements generalizing w t with
  | nil => exact ⟨⟨[], h⟩, htally⟩
  | cons e rest ih =>
    -- each element is taken off the body first
    have hkept : Stage s k i (.reading rest)
        (t.changeConnection k fun connection => { connection with pending := rest }) := by
      apply h.changeConnection rfl
      rw [h.ended, h.shut]
      rfl
    have hcount : Tally i 0 0 w
        (t.changeConnection k fun connection => { connection with pending := rest }) :=
      htally.skip (Tally.of_same rfl rfl)
    have hwait {what : Wait} : (Fiber.await what >>= fun _ => readLine k rest).Meets
        (attending s k i)
        (fun s₀ _ u => (∃ left, Stage s k i (.reading left) u) ∧ Tally i 0 0 s₀ u) w
        (t.changeConnection k fun connection => { connection with pending := rest }) :=
      await_stage hkept hcount (fun u hu => ih hu Tally.refl)
        fun u _ hu => ⟨⟨rest, hu⟩, Tally.refl⟩
    cases e with
    | delay seconds => exact ⟨trivial, hwait⟩
    | block => exact ⟨trivial, hwait⟩
    | raise failure => exact ⟨trivial, ⟨rest, hkept⟩, hcount⟩
    | item handedOver made => exact ⟨trivial, ih hkept hcount⟩
    | line bytes =>
      refine ⟨trivial, ?_⟩
      dsimp only
      split
      · exact ⟨⟨rest, hkept⟩, hcount⟩
      · split
        · exact ih hkept hcount
        · exact ⟨⟨rest, hkept⟩, hcount⟩

/-- A read that has come to no close yet. -/
structure Underway (s : StreamId) (k : ConnectionId) (i : InformerId) (ended : Bool)
    (left : List Element) (s₀ u : World) : Prop where
  stage : Stage s k i { Gauge.reading left with ended } u
  tally : Tally i 0 0 s₀ u

/-- What a read of a frame has come to: without an item the frames have ended. -/
def FrameRead (s : StreamId) (k : ConnectionId) (i : InformerId) (s₀ : World)
    (r : Except Failure (Option Item)) (u : World) : Prop :=
  match r with
  | .ok (some _) => ∃ ended left, Underway s k i ended left s₀ u
  | _ => ∃ left, Underway s k i true left s₀ u

theorem Underway.endFrames {ended : Bool} {left : List Element} {s₀ u : World}
    (h : Underway s k i ended left s₀ u) :
    Underway s k i true left s₀
      (u.changeConnection k fun connection => { connection with ended := true }) where
  stage := by
    apply h.stage.changeConnection rfl
    rw [h.stage.shut, h.stage.left]
  tally := h.tally.skip (Tally.of_same rfl rfl)

/-- What was handed to the API client is entered into the journal, and that is all. -/
theorem recordHandedOver_stage {handedOver : Option (String × String)} {ended : Bool}
    {left : List Element} {post : World → Except Failure Unit → World → Prop}
    (h : Underway s k i ended left w t)
    (hpost : ∀ u, Underway s k i ended left w u → post w (.ok ()) u) :
    (recordHandedOver handedOver).Meets (attending s k i) post w t := by
  cases handedOver with
  | none => exact hpost t h
  | some handed =>
    refine ⟨trivial, hpost _ ⟨h.stage.of_lookup rfl rfl (Nat.le_refl _), ?_⟩⟩
    exact h.tally.skip (Tally.record rfl)

theorem decodeLine_stage {decoder : Option Decoder} {line : List UInt8} {left : List Element}
    (h : Underway s k i false left w t) :
    (decodeLine k decoder line >>= fun item => pure (some item)).Meets (attending s k i)
      (FrameRead s k i) w t := by
  rw [meets_decodeLine]
  refine recordHandedOver_stage h fun u hu => ?_
  rw [byOutcome_ok]
  split
  · exact ⟨false, left, hu⟩
  · exact ⟨trivial, left, hu.endFrames⟩

theorem nextFrame_stage {decoder : Option Decoder} {ended : Bool} {left : List Element}
    (h : Underway s k i ended left w t) :
    (nextFrame k decoder).Meets (attending s k i) (FrameRead s k i) w t := by
  cases ended with
  | true =>
    rw [meets_nextFrame_of_ended h.stage.ended]
    exact ⟨left, h⟩
  | false =>
    rw [meets_nextFrame h.stage.ended, h.stage.left]
    refine (readLine_stage h.stage h.tally).mono fun w₀ r u hr => ?_
    obtain ⟨⟨rest, hu⟩, htally⟩ := hr
    have hunderway : Underway s k i false rest w₀ u := ⟨hu, htally⟩
    rcases r with failure | _ | line
    · refine ⟨trivial, ?_⟩
      split
      · exact ⟨true, rest, hunderway.endFrames⟩
      · exact ⟨rest, hunderway.endFrames⟩
    · exact ⟨trivial, rest, hunderway.endFrames⟩
    · exact decodeLine_stage hunderway

/-- What a read of an item has come to: at the end the response is closed, and a failure comes with
or without a close. -/
def ItemRead (s : StreamId) (k : ConnectionId) (i : InformerId) (s₀ : World)
    (r : Except Failure (Option Item)) (u : World) : Prop :=
  match r with
  | .ok (some _) => ∃ ended left, Underway s k i ended left s₀ u
  | .ok none => ∃ left, Stage s k i { Gauge.reading left with ended := true, shut := true } u ∧
      Tally i 1 0 s₀ u
  | .error _ => ∃ shut left, Stage s k i { Gauge.reading left with ended := true, shut } u ∧
      Tally i (if shut then 1 else 0) 0 s₀ u

theorem nextItem_stage {ended : Bool} {left : List Element} (h : Underway s k i ended left w t) :
    (nextItem k).Meets (attending s k i) (ItemRead s k i) w t := by
  obtain ⟨endpoint, hhttp⟩ := h.stage.http
  rw [meets_nextItem_of_http hhttp]
  refine (nextFrame_stage h).mono fun w₀ r u hr => ?_
  rcases r with failure | _ | item
  · obtain ⟨rest, hu⟩ := hr
    exact ⟨false, rest, hu.stage, hu.tally⟩
  · obtain ⟨rest, hu⟩ := hr
    rw [meets_bind]
    refine closeResponse_stage (fun _ _ => trivial) hu.stage fun r v hv htally _ => ?_
    have hcount := hu.tally.after_nothing htally
    cases r with
    | error e => exact ⟨true, rest, hv, hcount⟩
    | ok _ => exact ⟨rest, hv, hcount⟩
  · exact hr

/-- What a read of an observation has come to: without an item all is closed. -/
def ObservedRead (s : StreamId) (k : ConnectionId) (i : InformerId) (busy : Bool) (s₀ : World)
    (r : Except Failure (Option Item)) (u : World) : Prop :=
  match r with
  | .ok (some _) => ∃ ended left, Stage s k i { busy, ended, left } u ∧ Tally i 0 0 s₀ u
  | _ => ∃ left, Stage s k i { Gauge.settled false left with busy } u ∧ Tally i 1 0 s₀ u

/-- A failure ends the observation, and closes the response unless it is closed. -/
theorem failObservation_stage {failure : Failure} {ended shut : Bool} {left : List Element}
    (h : Stage s k i { Gauge.reading left with ended, shut } t)
    (htally : Tally i (if shut then 1 else 0) 0 w t) :
    (failObservation s failure).Meets (attending s k i) (ObservedRead s k i true) w t := by
  rw [failObservation, meets_bind]
  refine endObservation_stage (fun _ _ => trivial) h fun r u hu htally' _ => ?_
  have hcount : Tally i 1 0 w u := by
    cases shut with
    | true => exact htally.skip htally'
    | false => exact htally.after_nothing htally'
  cases r with
  | error e => exact ⟨left, hu, hcount⟩
  | ok _ => exact ⟨left, hu, hcount⟩

/-- A change of an informer that tells it of no end of a poll goes unnoticed. -/
theorem unnoticed_changeInformer (w : World) (j : InformerId) {f : Informer → Informer}
    (hf : ∀ it : Informer, (f it).endings = it.endings) :
    Tally i 0 0 w (w.changeInformer j f) ∧ ∀ g, Stage s k i g w →
      Stage s k i g (w.changeInformer j f) := by
  refine ⟨⟨rfl, World.part_changeInformer Informer.endings w _ _ hf⟩, fun g h => ?_⟩
  refine h.of_aside ⟨rfl, rfl⟩ ?_
  exact Nat.le_of_eq (by rw [World.changeInformer, List.length_modify])

theorem unnoticed_observing (s : StreamId) (k : ConnectionId) (i : InformerId) :
    Observing fun w t => Tally i 0 0 w t ∧ ∀ g, Stage s k i g w → Stage s k i g t where
  log w level component event fields := by
    refine ⟨Tally.log _ _ _ _, fun g h => h.of_aside ?_ ?_⟩
    · exact aside_observing.log w level component event fields
    · exact Nat.le_of_eq (by rw [World.log_informers])
  metrics _ _ := ⟨Tally.of_same rfl rfl, fun _ h => h.of_aside ⟨rfl, rfl⟩ (Nat.le_refl _)⟩
  cursor _ _ _ := ⟨Tally.of_same rfl rfl, fun _ h => h.of_aside ⟨rfl, rfl⟩ (Nat.le_refl _)⟩
  informer w j f hf := unnoticed_changeInformer w j fun it => (hf it).1

theorem readObserved_stage {ended : Bool} {left : List Element}
    (h : Underway s k i ended left w t) :
    (readObserved s).Meets (attending s k i) (ObservedRead s k i true) w t := by
  rw [meets_readObserved, h.stage.connection]
  refine (nextItem_stage h).mono fun w₀ r u hr => ?_
  rcases r with failure | _ | item
  · obtain ⟨shut, rest, hu, htally⟩ := hr
    exact failObservation_stage hu htally
  · obtain ⟨rest, hu, htally⟩ := hr
    rw [meets_bind]
    refine endObservation_stage (fun _ _ => trivial) hu fun r v hv htally' _ => ?_
    cases r with
    | error e => exact ⟨rest, hv, htally.skip htally'⟩
    | ok _ => exact ⟨rest, hv, htally.skip htally'⟩
  · obtain ⟨ended, rest, hu⟩ := hr
    -- an observation does not reach the stream, and counts nothing
    refine (observe_steady (unnoticed_observing s k i) _ item).meets_at_once
      (Underway s k i ended rest w₀)
      (fun v x hv hvx => ⟨trivial, hvx.2 _ hv.stage, hv.tally.skip hvx.1⟩) (fun r v hv => ?_) hu
    cases r with
    | error e =>
      have hcount : Tally i (if false then 1 else 0) 0 w₀ v := hv.tally
      exact failObservation_stage hv.stage hcount
    | ok _ =>
      refine noteObserved_meets ⟨ended, rest, hv.stage, hv.tally⟩ fun j => ⟨trivial, ?_⟩
      have hnoted : Tally i 0 0 v (v.changeInformer j fun it =>
          { it with observed := item :: it.observed }) ∧ ∀ g, Stage s k i g v → Stage s k i g
            (v.changeInformer j fun it => { it with observed := item :: it.observed }) :=
        unnoticed_changeInformer v j fun _ => rfl
      exact ⟨ended, rest, hnoted.2 _ hv.stage, hv.tally.skip hnoted.1⟩

/-- What a read of a stream has come to.  The end of the stream is also the end of the poll. -/
def StreamRead (s : StreamId) (k : ConnectionId) (i : InformerId) (s₀ : World)
    (r : Except Failure (Option Item)) (u : World) : Prop :=
  match r with
  | .ok (some _) => ∃ ended left, Stage s k i (.idle ended left) u ∧ Tally i 0 0 s₀ u
  | .ok none => ∃ left, Stage s k i (.settled true left) u ∧ Tally i 1 1 s₀ u
  | .error _ => ∃ left, Stage s k i (.settled false left) u ∧ Tally i 1 0 s₀ u

theorem nextObserved_stage {ended : Bool} {left : List Element}
    (h : Stage s k i (.idle ended left) w) :
    (nextObserved s).Meets (attending s k i) (ObservedRead s k i false) w w := by
  have hopened : Stage s k i (.idle ended left)
      (w.changeStream s fun stream => { stream with progress := .open }) := by
    apply h.changeStream rfl rfl
    rw [h.busy, h.closed]
    rfl
  have hbusy : Underway s k i ended left w
      ((w.changeStream s fun stream => { stream with progress := .open }).changeStream s
        fun stream => { stream with busy := true }) := by
    refine ⟨?_, Tally.of_same rfl rfl⟩
    apply hopened.changeStream rfl rfl
    rw [hopened.isOver, hopened.closed]
    rfl
  -- whatever the read comes to, the stream is free again
  have hfree {g g' : Gauge} {u : World} (hu : Stage s k i g u)
      (hg : g' = { g with busy := false }) :
      Stage s k i g' (u.changeStream s fun stream => { stream with busy := false }) := by
    apply hu.changeStream rfl rfl
    rw [hu.isOver, hu.closed, hg]
  rw [meets_nextObserved h.busy (of_decide_eq_false h.isOver)]
  refine ⟨trivial, trivial, (readObserved_stage hbusy).mono fun w₀ r t hr => ⟨trivial, ?_⟩⟩
  rcases r with failure | _ | item
  · obtain ⟨rest, hu, htally⟩ := hr
    exact ⟨rest, hfree hu rfl, htally.skip (Tally.of_same rfl rfl)⟩
  · obtain ⟨rest, hu, htally⟩ := hr
    exact ⟨rest, hfree hu rfl, htally.skip (Tally.of_same rfl rfl)⟩
  · obtain ⟨ended, rest, hu, htally⟩ := hr
    exact ⟨ended, rest, hfree hu rfl, htally.skip (Tally.of_same rfl rfl)⟩

theorem nextOfStream_stage {ended : Bool} {left : List Element}
    (h : Stage s k i (.idle ended left) w) :
    (nextOfStream s).Meets (attending s k i) (StreamRead s k i) w w := by
  rw [meets_nextOfStream]
  refine (nextObserved_stage h).mono fun w₀ r t hr => ?_
  rcases r with failure | _ | item
  · exact hr
  · obtain ⟨rest, ht, htally⟩ := hr
    rw [meets_bind]
    refine closeStream_stage (fun _ _ => trivial) ht rfl rfl fun r u hu htally' hr => ?_
    -- the response is closed already, so closing the stream does not fail
    rw [hr rfl]
    exact ⟨rest, hu, htally.trans htally'⟩
  · exact hr

/-- When all is closed a read comes to the end at once, and the informer is told of it unless it
was told before. -/
theorem nextOfStream_stage_of_settled {closed : Bool} {left : List Element}
    (hchange : ∀ u v, terms.change u v) {post : World → Except Failure (Option Item) → World → Prop}
    (h : Stage s k i (.settled closed left) t)
    (hpost : ∀ u, Stage s k i (.settled true left) u → Tally i 0 (if closed then 0 else 1) t u →
      post w (.ok none) u) : (nextOfStream s).Meets terms post w t := by
  rw [meets_nextOfStream, meets_nextObserved_of_over h.busy (of_decide_eq_true h.isOver),
    meets_bind]
  cases closed with
  | true => exact closeStream_stage_of_closed h rfl (hpost t h Tally.refl)
  | false =>
    refine closeStream_stage hchange h rfl rfl fun r u hu htally hr => ?_
    rw [hr rfl]
    exact hpost u hu htally

end Operations

end Act

/-! ### Consumers -/

/-- A consumer of one stream: it reads the stream and closes it, one call after the other.  Others
leave the stream and its connection alone. -/
def consumingInTurn (s : StreamId) (k : ConnectionId) : Setting World Call Outcome where
  act := Call.act
  allowed w call := (call = .next s ∨ call = .close s) ∧ (w.stream s).busy = false
  others w t := t.streams[s]? = w.streams[s]? ∧ t.connection k = w.connection k ∧
    w.informers.length ≤ t.informers.length

namespace Stretch

variable (x : Stretch World Call Outcome)

/-- The call has come to its end in this stretch, and not to an item. -/
def settles : Bool :=
  match x.ending with
  | .waits _ => false
  | .done (.item _) => false
  | _ => true

/-- The stream was closed by its consumer, or its end was found. -/
def endsPoll : Bool :=
  match x.call, x.ending with
  | .close _, _ => true
  | _, .done .ended => true
  | _, _ => false

/-- How often a response was closed in this stretch. -/
def closings : Nat := x.after.closings - x.before.closings

/-- How often the informer was told in this stretch that a poll of it had ended. -/
def endings (i : InformerId) : Nat := (x.after.informer i).endings - (x.before.informer i).endings

/-- A call after the close: the body is not read any more, and a read comes to the end. -/
structure Late (s : StreamId) (k : ConnectionId) : Prop where
  ended : (x.before.connection k).ended = true
  unread : (x.after.connection k).pending = (x.before.connection k).pending
  ends : x.call = .next s → x.ending = .done .ended

end Stretch

/-- Counted in all, something has happened once if one of the members calls for it, and else never.
Only the first such member may count. -/
theorem sum_of_first {α : Type} {count : α → Nat} {calls : α → Bool} {l : List α} {a : α}
    (hl : (l.map count).sum = if l.any calls then 1 else 0)
    (ha : count a = if !l.any calls && calls a then 1 else 0) :
    ((l ++ [a]).map count).sum = if (l ++ [a]).any calls then 1 else 0 := by
  rw [List.map_append, List.sum_append, hl, List.map_singleton, List.sum_singleton, ha,
    List.any_append, List.any_cons, List.any_nil, Bool.or_false]
  cases l.any calls <;> cases calls a <;> rfl

/-- What was counted in some stretches: a close if one of them settles, and an end of the poll if
one of them ends it. -/
structure Accounted (i : InformerId) (past : List (Stretch World Call Outcome)) : Prop where
  closings : (past.map (·.closings)).sum = if past.any (·.settles) then 1 else 0
  endings : (past.map (·.endings i)).sum = if past.any (·.endsPoll) then 1 else 0

/-- All has been counted right at any time so far; whether a stretch has settled, and whether one
has ended the poll. -/
structure Counted (s : StreamId) (k : ConnectionId) (i : InformerId)
    (past : List (Stretch World Call Outcome)) (settled told : Bool) : Prop where
  settled : past.any (·.settles) = settled
  told : past.any (·.endsPoll) = told
  accounts : ∀ first, first <+: past → Accounted i first
  closes : ∀ x ∈ past, x.call = .close s → x.settles = true
  late : past.Pairwise fun y x => y.settles = true → x.Late s k

namespace Counted

variable {s : StreamId} {k : ConnectionId} {i : InformerId}
  {past : List (Stretch World Call Outcome)} {settled told : Bool}

theorem nil : Counted s k i [] false false where
  settled := rfl
  told := rfl
  accounts := by
    intro first hfirst
    rw [List.prefix_nil.mp hfirst]
    exact ⟨rfl, rfl⟩
  closes := List.forall_mem_nil _
  late := List.Pairwise.nil

/-- One more stretch: it may close the response only as the first one that settles, and end the poll
only as the first one that does; and after the first one that settles it is late. -/
theorem snoc (h : Counted s k i past settled told) {x : Stretch World Call Outcome}
    {closings endings : Nat} (htally : Tally i closings endings x.before x.after)
    (hclosings : closings = if !settled && x.settles then 1 else 0)
    (hendings : endings = if !told && x.endsPoll then 1 else 0)
    (hcloses : x.call = .close s → x.settles = true) (hlate : settled = true → x.Late s k) :
    Counted s k i (past ++ [x]) (settled || x.settles) (told || x.endsPoll) where
  settled := by simp [List.any_append, h.settled]
  told := by simp [List.any_append, h.told]
  accounts := by
    intro first hfirst
    rcases List.prefix_concat_iff.mp hfirst with rfl | hfirst
    · have hpast := h.accounts past (List.prefix_refl past)
      refine ⟨sum_of_first hpast.closings ?_, sum_of_first hpast.endings ?_⟩
      · rw [Stretch.closings, htally.closings, Nat.add_sub_cancel_left, hclosings, h.settled]
      · rw [Stretch.endings, htally.endings, Nat.add_sub_cancel_left, hendings, h.told]
    · exact h.accounts first hfirst
  closes := List.forall_mem_append.mpr ⟨h.closes, List.forall_mem_singleton.mpr hcloses⟩
  late := by
    refine List.pairwise_append.mpr ⟨h.late, List.pairwise_singleton _ _, ?_⟩
    intro y hy z hz hsettles
    rw [List.mem_singleton.mp hz]
    apply hlate
    rw [← h.settled]
    exact List.any_eq_true.mpr ⟨y, hy, hsettles⟩

/-- One more stretch while none has settled: it closes the response if it settles, and ends the poll
if it is to. -/
theorem before_settled (h : Counted s k i past false false) {x : Stretch World Call Outcome}
    {settles ends : Bool} (hsettles : x.settles = settles) (hends : x.endsPoll = ends)
    (htally : Tally i (if settles then 1 else 0) (if ends then 1 else 0) x.before x.after)
    (hcloses : x.call = .close s → settles = true) :
    Counted s k i (past ++ [x]) settles ends := by
  subst hsettles hends
  exact h.snoc htally rfl rfl hcloses nofun

end Counted

/-! ### The calls of a consumer -/

/-- What a read comes to, as a call. -/
def CallRead (s : StreamId) (k : ConnectionId) (i : InformerId) (s₀ : World)
    (r : Except Failure Outcome) (u : World) : Prop :=
  match r with
  | .ok (.item _) => ∃ ended left, Stage s k i (.idle ended left) u ∧ Tally i 0 0 s₀ u
  | .ok .ended => ∃ left, Stage s k i (.settled true left) u ∧ Tally i 1 1 s₀ u
  | .ok _ => False
  | .error _ => ∃ left, Stage s k i (.settled false left) u ∧ Tally i 1 0 s₀ u

section Calls

variable {s : StreamId} {k : ConnectionId} {i : InformerId} {w : World} {ended closed : Bool}
  {left : List Element}

theorem next_stage (h : Stage s k i (.idle ended left) w) :
    (Call.act (.next s)).Meets (attending s k i) (CallRead s k i) w w := by
  show (Act.nextOfStream s >>= _).Meets _ _ _ _
  rw [meets_bind]
  refine (Act.nextOfStream_stage h).mono fun w₀ r t hr => ?_
  rcases r with failure | _ | item
  · exact hr
  · exact hr
  · exact hr

theorem next_stage_of_settled (h : Stage s k i (.settled closed left) w) :
    (Call.act (.next s)).Meets { pause := fun _ _ _ => False }
      (fun _ r t => r = .ok .ended ∧ Stage s k i (.settled true left) t ∧
        Tally i 0 (if closed then 0 else 1) w t) w w := by
  show (Act.nextOfStream s >>= _).Meets _ _ _ _
  rw [meets_bind]
  exact Act.nextOfStream_stage_of_settled (fun _ _ => trivial) h fun u hu htally =>
    ⟨rfl, hu, htally⟩

theorem close_stage (h : Stage s k i (.idle ended left) w) :
    (Call.act (.close s)).Meets { pause := fun _ _ _ => False }
      (fun _ r t => (∀ item, r ≠ .ok (.item item)) ∧ Stage s k i (.settled true left) t ∧
        Tally i 1 1 w t) w w := by
  show (Act.closeStream s >>= fun _ => pure Outcome.nothing).Meets _ _ _ _
  rw [meets_bind]
  refine Act.closeStream_stage (fun _ _ => trivial) h rfl rfl fun r u hu htally _ => ?_
  cases r with
  | error e => exact ⟨nofun, hu, htally⟩
  | ok _ => exact ⟨nofun, hu, htally⟩

theorem close_stage_of_settled (h : Stage s k i (.settled closed left) w) :
    (Call.act (.close s)).Meets { pause := fun _ _ _ => False }
      (fun _ r t => (∀ item, r ≠ .ok (.item item)) ∧ Stage s k i (.settled true left) t ∧
        Tally i 0 (if closed then 0 else 1) w t) w w := by
  show (Act.closeStream s >>= fun _ => pure Outcome.nothing).Meets _ _ _ _
  rw [meets_bind]
  cases closed with
  | true => exact Act.closeStream_stage_of_closed h rfl ⟨nofun, h, Tally.refl⟩
  | false =>
    refine Act.closeStream_stage (fun _ _ => trivial) h rfl rfl fun r u hu htally _ => ?_
    cases r with
    | error e => exact ⟨nofun, hu, htally⟩
    | ok _ => exact ⟨nofun, hu, htally⟩

end Calls

/-! ### The life of a stream -/

/-- Where a consumer stands with its stream. -/
inductive Lifecycle (s : StreamId) (k : ConnectionId) (i : InformerId)
    (p : Interplay World Call Outcome) : Prop
  /-- Nobody reads, and nothing is closed. -/
  | idle (ended : Bool) (left : List Element) :
    Stage s k i (.idle ended left) p.state → p.waiting = [] →
    Counted s k i p.past false false → Lifecycle s k i p
  /-- An item is being waited for. -/
  | reading (u : Waiting World Call Outcome) (left : List Element) :
    u.call = .next s → Stage s k i (.reading left) p.state → p.waiting = [u] →
    Counted s k i p.past false false →
    (∀ answer t, (attending s k i).rely p.state t →
      (u.next answer).Meets (attending s k i) (CallRead s k i) t t) →
    Lifecycle s k i p
  /-- All is closed. -/
  | settled (closed : Bool) (left : List Element) :
    Stage s k i (.settled closed left) p.state → p.waiting = [] →
    Counted s k i p.past true closed → Lifecycle s k i p

namespace Lifecycle

variable {s : StreamId} {k : ConnectionId} {i : InformerId} {p : Interplay World Call Outcome}
  {x : Stretch World Call Outcome} {pause : Pause World Outcome}

/-- A stretch of a read, the first one or a later one. -/
theorem made_of_read (hwaiting : p.waiting = []) (hcall : x.call = .next s)
    (hcounted : Counted s k i p.past false false) (hending : x.ending = pause.ending)
    (hpause : AtPause (attending s k i) (CallRead s k i) x.before x.after pause) :
    Lifecycle s k i (p.made x pause) := by
  have hmade : (p.made x pause).waiting = (x.waiting? pause).toList := by
    rw [made, hwaiting]
    rfl
  have hcloses {settles : Bool} : x.call = .close s → settles = true := by
    rw [hcall]
    exact nofun
  -- A failure and the end settle the stream; a wait and an item leave it to the next call.
  cases pause with
  | fail e =>
    have hsettles : x.settles = true := by rw [Stretch.settles, hending]; rfl
    have hends : x.endsPoll = false := by rw [Stretch.endsPoll, hcall, hending]; rfl
    obtain ⟨left, hstage, htally⟩ := hpause
    exact .settled false left hstage hmade (hcounted.before_settled hsettles hends htally hcloses)
  | wait what next =>
    have hsettles : x.settles = false := by rw [Stretch.settles, hending]; rfl
    have hends : x.endsPoll = false := by rw [Stretch.endsPoll, hcall, hending]; rfl
    obtain ⟨⟨⟨left, hstage⟩, htally⟩, hnext⟩ := hpause
    exact .reading { call := x.call, origin := x.origin, number := x.number + 1, next } left hcall
      hstage hmade (hcounted.before_settled hsettles hends htally hcloses)
      fun answer t ht => hnext answer t trivial ht trivial
  | done o =>
    cases o with
    | item item =>
      have hsettles : x.settles = false := by rw [Stretch.settles, hending]; rfl
      have hends : x.endsPoll = false := by rw [Stretch.endsPoll, hcall, hending]; rfl
      obtain ⟨ended, left, hstage, htally⟩ := hpause
      exact .idle ended left hstage hmade (hcounted.before_settled hsettles hends htally hcloses)
    | ended =>
      have hsettles : x.settles = true := by rw [Stretch.settles, hending]; rfl
      have hends : x.endsPoll = true := by rw [Stretch.endsPoll, hcall, hending]; rfl
      obtain ⟨left, hstage, htally⟩ := hpause
      exact .settled true left hstage hmade (hcounted.before_settled hsettles hends htally hcloses)
    | _ => exact hpause.elim

/-- A call that comes to its end at once when nothing is closed, and closes all. -/
theorem made_of_close (hwaiting : p.waiting = []) (hcounted : Counted s k i p.past false false)
    (hpause : x.waiting? pause = none) (hsettles : x.settles = true) (hends : x.endsPoll = true)
    {left : List Element} (hstage : Stage s k i (.settled true left) x.after)
    (htally : Tally i 1 1 x.before x.after) : Lifecycle s k i (p.made x pause) := by
  have hmade : (p.made x pause).waiting = [] := by
    rw [made, hwaiting, hpause]
    rfl
  exact .settled true left hstage hmade
    (hcounted.before_settled hsettles hends htally fun _ => rfl)

/-- A call that comes when all is closed. -/
theorem made_of_late {closed : Bool} {left : List Element}
    (hbefore : Stage s k i (.settled closed left) x.before) (hwaiting : p.waiting = [])
    (hcounted : Counted s k i p.past true closed) (hpause : x.waiting? pause = none)
    (hsettles : x.settles = true) (hends : x.endsPoll = true)
    (hnext : x.call = .next s → x.ending = .done .ended)
    (hstage : Stage s k i (.settled true left) x.after)
    (htally : Tally i 0 (if closed then 0 else 1) x.before x.after) :
    Lifecycle s k i (p.made x pause) := by
  have hmade : (p.made x pause).waiting = [] := by
    rw [made, hwaiting, hpause]
    rfl
  have hlate : x.Late s k := ⟨hbefore.ended, hstage.left.trans hbefore.left.symm, hnext⟩
  have hmore := hcounted.snoc htally rfl (by rw [hends]; cases closed <;> rfl)
    (fun _ => hsettles) fun _ => hlate
  rw [hsettles, hends, Bool.or_true, Bool.or_true] at hmore
  exact .settled true left hstage hmade hmore

/-- The consumer closes the stream. -/
theorem begin_close (h : Lifecycle s k i p) (hfree : (p.state.stream s).busy = false) :
    Lifecycle s k i (p.begin (.close s) (Call.act (.close s))) := by
  have hsettles {r : Except Failure Outcome} (hr : ∀ item, r ≠ .ok (.item item))
      (hpause : ((Call.act (.close s)).advance p.state).2 = .of r) :
      (Stretch.first (Call.close s) (Call.act (.close s)) p.state).settles = true := by
    rw [Stretch.settles, Stretch.first, Stretch.run, hpause]
    rcases r with e | o
    · rfl
    · cases o with
      | item item => exact absurd rfl (hr item)
      | _ => rfl
  cases h with
  | idle ended left hstage hwaiting hcounted =>
    obtain ⟨r, hpause, hr, hafter, htally⟩ := (close_stage hstage).ends
    exact made_of_close hwaiting hcounted (Stretch.waiting?_of_ended _ hpause)
      (hsettles hr hpause) rfl hafter htally
  | reading u left _ hstage _ _ _ =>
    -- A read is under way, so the stream is busy, and no close may begin.
    rw [hstage.busy] at hfree
    cases hfree
  | settled closed left hstage hwaiting hcounted =>
    obtain ⟨r, hpause, hr, hafter, htally⟩ := (close_stage_of_settled hstage).ends
    exact made_of_late hstage hwaiting hcounted (Stretch.waiting?_of_ended _ hpause)
      (hsettles hr hpause) rfl (fun hnext => by cases hnext) hafter htally

/-- The consumer reads the stream. -/
theorem begin_next (h : Lifecycle s k i p) (hfree : (p.state.stream s).busy = false) :
    Lifecycle s k i (p.begin (.next s) (Call.act (.next s))) := by
  cases h with
  | idle ended left hstage hwaiting hcounted =>
    exact made_of_read hwaiting rfl hcounted rfl (meets_iff_advance.mp (next_stage hstage)).2
  | reading u left _ hstage _ _ _ =>
    rw [hstage.busy] at hfree
    cases hfree
  | settled closed left hstage hwaiting hcounted =>
    obtain ⟨r, hpause, rfl, hafter, htally⟩ := (next_stage_of_settled hstage).ends
    have hending : (Stretch.first (Call.next s) (Call.act (.next s)) p.state).ending
        = .done .ended := by
      rw [Stretch.first, Stretch.run, hpause]
      rfl
    refine made_of_late hstage hwaiting hcounted (Stretch.waiting?_of_ended _ hpause) ?_ ?_
      (fun _ => hending) hafter htally
    · rw [Stretch.settles, hending]
    · rw [Stretch.endsPoll, hending]
      rfl

end Lifecycle

/-- Wherever a consumer has come to, its stream has a place in its life. -/
theorem Reaches.lifecycle {s : StreamId} {k : ConnectionId} {i : InformerId} {ended : Bool}
    {left : List Element} {w : World} (hw : Stage s k i (.idle ended left) w)
    {p : Interplay World Call Outcome} (h : Reaches (consumingInTurn s k) w p) :
    Lifecycle s k i p := by
  induction h with
  | start => exact .idle ended left hw rfl Counted.nil
  | begin _ hallowed ih =>
    obtain ⟨rfl | rfl, hfree⟩ := hallowed
    · exact ih.begin_next hfree
    · exact ih.begin_close hfree
  | @wake p earlier u later answer _ hwaiting _ ih =>
    cases ih with
    -- nobody waits, so nobody can be woken
    | idle _ _ _ hnobody _ =>
      rw [hnobody] at hwaiting
      exact absurd hwaiting.symm (by simp)
    | reading v left hcall hstage hone hcounted hnext =>
      -- the one who waits is the one who goes on
      rw [hone] at hwaiting
      rcases List.singleton_eq_append_iff.mp hwaiting with ⟨rfl, hrest⟩ | ⟨-, hrest⟩
      · cases hrest
        have hmeets := hnext answer p.state fun _ h => h
        exact Lifecycle.made_of_read rfl hcall hcounted rfl (meets_iff_advance.mp hmeets).2
      · cases hrest
    | settled _ _ _ hnobody _ =>
      rw [hnobody] at hwaiting
      exact absurd hwaiting.symm (by simp)
  | @elsewhere p t _ hothers ih =>
    obtain ⟨hstream, hconnection, hinformers⟩ := hothers
    have hkept (g : Gauge) (hg : Stage s k i g p.state) : Stage s k i g t :=
      hg.of_lookup hstream hconnection hinformers
    cases ih with
    | idle ended left hstage hnobody hcounted =>
      exact .idle ended left (hkept _ hstage) hnobody hcounted
    | reading u left hcall hstage hone hcounted hnext =>
      exact .reading u left hcall (hkept _ hstage) hone hcounted
        fun answer v hv => hnext answer v fun g hg => hv g (hkept g hg)
    | settled closed left hstage hnobody hcounted =>
      exact .settled closed left (hkept _ hstage) hnobody hcounted

/-- Wherever a consumer has come to, all has been counted right. -/
theorem Lifecycle.counted {s : StreamId} {k : ConnectionId} {i : InformerId}
    {p : Interplay World Call Outcome} (h : Lifecycle s k i p) :
    ∃ settled told, Counted s k i p.past settled told := by
  cases h with
  | idle _ _ _ _ hcounted => exact ⟨false, false, hcounted⟩
  | reading _ _ _ _ _ hcounted _ => exact ⟨false, false, hcounted⟩
  | settled closed _ _ _ hcounted => exact ⟨true, closed, hcounted⟩

/-- **Responses are closed once.**  A consumer reads the stream of a poll over HTTP and closes it,
one call after the other, whatever the body holds, whatever the waits come to, and whether or not
closing the response fails.  At any time so far, the response was closed once if a call has come to
an end without an item, and else never; and the informer was told once of the end of its poll if the
stream was closed or its end was found, and else never.  Closing never waits.  After the first call
that came to an end without an item the body is not read any more, and a read finds the end. -/
theorem closes_once {s : StreamId} {k : ConnectionId} {i : InformerId} {ended : Bool}
    {left : List Element} {w : World} (hw : Stage s k i (.idle ended left) w)
    {p : Interplay World Call Outcome} (h : Reaches (consumingInTurn s k) w p) :
    (∀ past, past <+: p.past →
      (past.map (·.closings)).sum = (if past.any (·.settles) then 1 else 0) ∧
      (past.map (·.endings i)).sum = (if past.any (·.endsPoll) then 1 else 0)) ∧
    (∀ x ∈ p.past, x.call = .close s → x.settles = true) ∧
    (p.past.Pairwise fun y x => y.settles = true → x.Late s k) := by
  obtain ⟨settled, told, hcounted⟩ := (Reaches.lifecycle hw h).counted
  refine ⟨fun past hpast => ?_, hcounted.closes, hcounted.late⟩
  obtain ⟨hclosings, hendings⟩ := hcounted.accounts past hpast
  exact ⟨hclosings, hendings⟩

/-- A stream whose body lets its reader wait, and whose response fails to close. -/
def stubbornStream : World where
  informers := [{ transport := .http { name := "kubernetes" } }]
  connections := [{
    transport := .http { name := "kubernetes" }
    pending := [.delay (.ofInt 1), .line addedLine]
    closeFailure := some (.foreign "OSError" "broken pipe") }]
  streams := [{ connection := 0, cursor := 0, name := "informer", owner := some 0 }]

/-- A consumer waits for an item. -/
def itemAwaited : Interplay World Call Outcome := inTurn stubbornStream [.next 0]

/-- The read, while it waits. -/
def awaitedRead : Waiting World Call Outcome := itemAwaited.waiting.head (List.cons_ne_nil _ _)

/-- The read is cancelled; then the consumer closes the stream twice, and reads again. -/
def readCancelled : Interplay World Call Outcome :=
  (((itemAwaited.wake awaitedRead [] (.error .cancelled)).begin (.close 0)
    (Call.act (.close 0))).begin (.close 0) (Call.act (.close 0))).begin (.next 0)
    (Call.act (.next 0))

/-- The cancelled read closes the response and the first close tells the informer; nothing is done
twice. -/
theorem readCancelled_closes_once :
    (readCancelled.past.map (·.closings)).sum = 1 ∧
      (readCancelled.past.map (·.endings 0)).sum = 1 := by
  have hw : Stage 0 0 0 (.idle false [.delay (.ofInt 1), .line addedLine]) stubbornStream :=
    ⟨Nat.one_pos, rfl, rfl, Nat.one_pos, ⟨_, rfl⟩, rfl⟩
  have hread : Reaches (consumingInTurn 0 0) stubbornStream itemAwaited :=
    .begin .start ⟨.inl rfl, rfl⟩
  have hwoken : Reaches (consumingInTurn 0 0) stubbornStream
      (itemAwaited.wake awaitedRead ([] ++ []) (.error .cancelled)) :=
    hread.wake (u := awaitedRead) rfl trivial
  have h : Reaches (consumingInTurn 0 0) stubbornStream readCancelled :=
    .begin (.begin (.begin hwoken ⟨.inr rfl, rfl⟩) ⟨.inr rfl, rfl⟩) ⟨.inl rfl, rfl⟩
  obtain ⟨hclosings, hendings⟩ := (closes_once hw h).1 _ (List.prefix_refl _)
  exact ⟨hclosings.trans rfl, hendings.trans rfl⟩

end ResumableWatch
