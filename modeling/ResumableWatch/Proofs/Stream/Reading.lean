import ResumableWatch.Proofs.Stream.Items
import ResumableWatch.Proofs.Stream.Stepwise
import ResumableWatch.Stream
/-!
# Reading and closing a stream

What one call of a consumer does to a stream and its connection.  `Stands s k c isOver busy` says
where a stream stands: at which connection and cursor, whether its observation is over, and whether
an item is being waited for.

A read of a stream that nobody else reads delivers the first item of the connection and leaves the
others, or finds the end, or fails and leaves the stream over (`nextOfStream_meets`).  Closing
leaves a stream over or as it was, and never waits (`closeStream_meets`).
-/

namespace ResumableWatch

open ResumableWatch.Fiber

/-! ### Where a stream stands -/

/-- Where a stream stands. -/
structure Stands (s : StreamId) (k : ConnectionId) (c : CursorId) (isOver busy : Bool)
    (w : World) : Prop where
  there : s < w.streams.length
  connection : (w.stream s).connection = k
  cursor : (w.stream s).cursor = c
  isOver : decide ((w.stream s).progress = .over) = isOver
  busy : (w.stream s).busy = busy

namespace Stands

variable {s : StreamId} {k : ConnectionId} {c : CursorId} {isOver busy : Bool} {w t : World}

/-- Where a stream stands is a matter of its own record only. -/
theorem of_lookup (h : Stands s k c isOver busy w) (hsame : t.streams[s]? = w.streams[s]?) :
    Stands s k c isOver busy t := by
  have hstream : t.stream s = w.stream s := by rw [World.stream, World.stream, hsame]
  obtain ⟨hthere, hconnection, hcursor, hover, hbusy⟩ := h
  rw [← hstream] at hconnection hcursor hover hbusy
  have hfound := List.getElem?_eq_getElem hthere
  rw [← hsame] at hfound
  exact ⟨(List.getElem?_eq_some_iff.mp hfound).1, hconnection, hcursor, hover, hbusy⟩

theorem of_streams (h : Stands s k c isOver busy w) (hsame : t.streams = w.streams) :
    Stands s k c isOver busy t := h.of_lookup (by rw [hsame])

theorem stream_changeStream (h : Stands s k c isOver busy w) (f : Stream → Stream) :
    (w.changeStream s f).stream s = f (w.stream s) := by
  simp [World.stream, World.changeStream, List.getElem?_modify_eq,
    List.getElem?_eq_getElem h.there]

/-- A change of the stream, by what it does to the parts that matter here. -/
theorem change (h : Stands s k c isOver busy w) {f : Stream → Stream} {isOver' busy' : Bool}
    (hconnection : (f (w.stream s)).connection = (w.stream s).connection)
    (hcursor : (f (w.stream s)).cursor = (w.stream s).cursor)
    (hover : decide ((f (w.stream s)).progress = .over) = isOver')
    (hbusy : (f (w.stream s)).busy = busy') : Stands s k c isOver' busy' (w.changeStream s f) where
  there := by
    rw [World.changeStream, List.length_modify]
    exact h.there
  connection := by rw [h.stream_changeStream, hconnection, h.connection]
  cursor := by rw [h.stream_changeStream, hcursor, h.cursor]
  isOver := by rw [h.stream_changeStream, hover]
  busy := by rw [h.stream_changeStream, hbusy]

/-- A stream stands in one way only. -/
theorem unique (h : Stands s k c isOver busy w) {isOver' busy' : Bool}
    (h' : Stands s k c isOver' busy' w) : isOver' = isOver ∧ busy' = busy :=
  ⟨h'.isOver.symm.trans h.isOver, h'.busy.symm.trans h.busy⟩

theorem ends (h : Stands s k c isOver busy w) :
    Stands s k c true busy (w.changeStream s fun stream => { stream with progress := .over }) :=
  h.change rfl rfl rfl h.busy

theorem closes (h : Stands s k c isOver busy w) :
    Stands s k c isOver busy (w.changeStream s fun stream => { stream with closed := true }) :=
  h.change rfl rfl h.isOver h.busy

/-- A read begins. -/
theorem reading (h : Stands s k c false false w) :
    Stands s k c false true
      ((w.changeStream s fun stream => { stream with progress := .open }).changeStream s
        fun stream => { stream with busy := true }) := by
  have hopened : Stands s k c false false
      (w.changeStream s fun stream => { stream with progress := .open }) :=
    h.change rfl rfl rfl h.busy
  exact hopened.change rfl rfl hopened.isOver rfl

theorem rests (h : Stands s k c isOver busy w) :
    Stands s k c isOver false (w.changeStream s fun stream => { stream with busy := false }) :=
  h.change rfl rfl h.isOver rfl

end Stands

/-- What a read of a stream comes to: an item is the first one of the connection, at the end there
is none, and after a failure the stream is over. -/
def Delivers (s : StreamId) (k : ConnectionId) (c : CursorId) (busy : Bool) (w : World)
    (r : Except Failure (Option Item)) (t : World) : Prop :=
  match r with
  | .ok (some item) =>
    Stands s k c false busy t ∧ (w.connection k).items = item :: (t.connection k).items
  | .ok none => Stands s k c true busy t ∧ (w.connection k).items = []
  | .error _ => Stands s k c true busy t

/-- What closing a stream comes to: it is over, or it stands where it stood, with its connection as
it was.  A stream that is being read is not over by that. -/
def Closes (s : StreamId) (k : ConnectionId) (c : CursorId) (isOver busy : Bool) (t u : World) :
    Prop :=
  (busy = false ∧ Stands s k c true busy u) ∨
    (Stands s k c isOver busy u ∧ u.connection k = t.connection k)

/-- A stream that is over stays so when it is closed. -/
theorem Closes.stays_over {s : StreamId} {k : ConnectionId} {c : CursorId} {t u : World}
    (h : Closes s k c true false t u) : Stands s k c true false u := by
  rcases h with ⟨-, hu⟩ | ⟨hu, -⟩
  · exact hu
  · exact hu

/-! ### Observations -/

/-- A change that leaves the streams and the connections alone. -/
def Aside (w t : World) : Prop := t.streams = w.streams ∧ t.connections = w.connections

theorem Aside.connection {w t : World} (h : Aside w t) (k : ConnectionId) :
    t.connection k = w.connection k := congrArg (·[k]?.getD default) h.2

/-- A relation that is kept by each change that an observation makes. -/
structure Observing (P : World → World → Prop) : Prop where
  log : ∀ w level component event fields, P w (w.log level component event fields 0)
  metrics : ∀ w f, P w (w.changeMetrics f)
  cursor : ∀ w c f, P w (w.changeCursor c f)
  informer : ∀ w i f, (∀ it : Informer, (f it).endings = it.endings ∧ it.Same (f it)) →
    P w (w.changeInformer i f)

theorem aside_observing : Observing Aside where
  log w level component event fields :=
    ⟨World.log_streams w level component event fields 0,
      World.log_connections w level component event fields 0⟩
  metrics _ _ := ⟨rfl, rfl⟩
  cursor _ _ _ := ⟨rfl, rfl⟩
  informer _ _ _ _ := ⟨rfl, rfl⟩

namespace Act

variable {waits : Wait → Prop}

theorem log_aside (level : Log.Level) (component event : String)
    (fields : List (String × Json)) : Steady Aside waits (log level component event fields) :=
  Steady.update fun w => aside_observing.log w level component event fields

/-- A relation that is kept by each change that an observation makes is kept by the observation,
which does not wait. -/
theorem observe_steady {P : World → World → Prop} (h : Observing P) (stream : Stream)
    (item : Item) : Steady P waits (observe stream item) := by
  have hlog (level : Log.Level) (component event : String) (fields : List (String × Json)) :
      Steady P waits (log level component event fields) :=
    Steady.update fun w => h.log w level component event fields
  cases item with
  | failure failure =>
    rw [observe]
    split
    · exact (Steady.update fun w => h.metrics w _).bind fun _ => hlog _ _ _ _
    · exact Steady.fail _
  | event event =>
    refine (Steady.update fun w => h.metrics w _).bind fun _ => ?_
    split
    · refine (Steady.update fun w => h.metrics w _).bind fun _ => ?_
      split
      · refine (hlog _ _ _ _).bind fun _ => ?_
        refine (Steady.update fun w => h.cursor w _ _).bind fun _ => ?_
        -- Armed; its informer, if it has one, is marked too.
        cases stream.owner with
        | none => exact Steady.pure ()
        | some i => exact Steady.update fun w => h.informer w i _ fun _ => ⟨rfl, ⟨rfl, rfl, rfl⟩, rfl⟩
      · exact hlog _ _ _ _
    · refine (Steady.ofExcept _).bind fun incoming => ?_
      rw [observeVersion]
      split
      · exact Steady.pure ()
      · refine Steady.state.bind fun w => ?_
        split
        · exact Steady.fail _
        · exact (Steady.update fun w => h.cursor w _ _).bind fun _ => hlog _ _ _ _

/-- An observation leaves the streams and the connections alone, and does not wait. -/
theorem observe_aside (stream : Stream) (item : Item) :
    Steady Aside waits (observe stream item) :=
  observe_steady aside_observing stream item

theorem pollEnded_aside (owner : Option InformerId) : Steady Aside waits (pollEnded owner) := by
  cases owner with
  | none => exact Steady.pure ()
  | some i =>
    exact (Steady.update fun _ => ⟨rfl, rfl⟩).bind fun _ => Steady.state.bind fun _ =>
      log_aside _ _ _ _

/-! ### Reading -/

section Reading

variable {s : StreamId} {k : ConnectionId} {c : CursorId} {isOver busy : Bool} {w t : World}

/-- Closing a connection leaves all streams where they stand. -/
theorem closeConnection_meets {terms : Terms World} (hchange : ∀ u v, terms.change u v)
    {post : World → Except Failure Unit → World → Prop} (h : Stands s k c isOver busy t)
    (hpost : ∀ r u, Stands s k c isOver busy u → post w r u) :
    (closeConnection k).Meets terms post w t :=
  (closeConnection_steady streamsKept.toTolerantOfClosing k).meets_at_once (Stands s k c isOver busy)
    (fun u v hu huv => ⟨hchange u v, hu.of_streams huv⟩) hpost h

/-- An observation that is ended is over, even if closing its connection fails. -/
theorem endObservation_meets {terms : Terms World} (hchange : ∀ u v, terms.change u v)
    {post : World → Except Failure Unit → World → Prop} (h : Stands s k c isOver busy t)
    (hpost : ∀ r u, Stands s k c true busy u → post w r u) :
    (endObservation s).Meets terms post w t := by
  rw [meets_endObservation]
  refine ⟨hchange _ _, ?_⟩
  rw [h.ends.connection]
  exact closeConnection_meets hchange h.ends hpost

theorem failObservation_meets {failure : Failure} (h : Stands s k c false true t) :
    (failObservation s failure).Meets (whileReading k (Stands s k c false true))
      (Delivers s k c true) w t := by
  rw [failObservation, meets_bind]
  refine endObservation_meets (fun _ _ => trivial) h fun r u hu => ?_
  cases r with
  | error e => exact hu
  | ok _ => exact hu

theorem readObserved_meets (h : Stands s k c false true t)
    (hitems : (w.connection k).items = (t.connection k).items) :
    (readObserved s).Meets (whileReading k (Stands s k c false true)) (Delivers s k c true)
      w t := by
  rw [meets_readObserved, h.connection]
  refine (nextItem_meets (fun _ _ hsame hu => hu.of_streams hsame) h hitems).mono
    fun w₀ r u hr => ?_
  obtain ⟨hu, hr⟩ := hr
  rcases r with failure | _ | item
  · exact failObservation_meets hu
  · rw [meets_bind]
    refine endObservation_meets (fun _ _ => trivial) hu fun r v hv => ?_
    cases r with
    | error e => exact hv
    | ok _ => exact ⟨hv, hr⟩
  · -- the observation leaves the stream and its connection alone, and does not wait
    refine (observe_aside (t.stream s) item).meets_at_once
      (fun v => Stands s k c false true v ∧ v.connection k = u.connection k)
      (fun v x hv hvx => ⟨trivial, hv.1.of_streams hvx.1, (hvx.connection k).trans hv.2⟩)
      (fun r v hv => ?_) ⟨hu, rfl⟩
    cases r with
    | error e => exact failObservation_meets hv.1
    | ok _ =>
      have hleft : (w₀.connection k).items = item :: (v.connection k).items := by
        rw [hv.2]
        exact hr
      exact noteObserved_meets ⟨hv.1, hleft⟩ fun i => ⟨trivial, hv.1.of_streams rfl, hleft⟩

/-- A read of an observation that nobody else reads. -/
theorem nextObserved_meets (h : Stands s k c false false w) :
    (nextObserved s).Meets (whileReading k (Stands s k c false true)) (Delivers s k c false)
      w w := by
  rw [meets_nextObserved h.busy (of_decide_eq_false h.isOver)]
  refine ⟨trivial, trivial, (readObserved_meets (w := w) h.reading rfl).mono fun w₀ r t hr =>
    ⟨trivial, ?_⟩⟩
  rcases r with failure | _ | item
  · exact hr.rests
  · exact ⟨hr.1.rests, hr.2⟩
  · exact ⟨hr.1.rests, hr.2⟩

/-! ### Closing -/

theorem closeObservation_meets {terms : Terms World} (hchange : ∀ u v, terms.change u v)
    {post : World → Except Failure Unit → World → Prop} (h : Stands s k c isOver false t)
    (hpost : ∀ r u, Stands s k c true false u → post w r u) :
    (closeObservation s).Meets terms post w t := by
  rw [meets_closeObservation h.busy]
  split
  · exact ⟨hchange _ _, hpost _ _ h.ends⟩
  · exact endObservation_meets hchange h hpost
  · rename_i hover
    refine hpost _ _ ⟨h.there, h.connection, h.cursor, decide_eq_true hover, h.busy⟩

theorem pollEnded_meets {terms : Terms World} (hchange : ∀ u v, terms.change u v)
    {owner : Option InformerId} {post : World → Except Failure Unit → World → Prop}
    (hpost : ∀ r u, Aside t u → post w r u) : (pollEnded owner).Meets terms post w t :=
  (pollEnded_aside owner).meets_at_once (Aside t)
    (fun u v hu huv => ⟨hchange u v, huv.1.trans hu.1, huv.2.trans hu.2⟩) hpost ⟨rfl, rfl⟩

/-- What an informer does at the end of its poll changes nothing about the closing. -/
theorem pollEnded_closes {terms : Terms World} (hchange : ∀ u v, terms.change u v)
    {owner : Option InformerId} {post : World → Except Failure Unit → World → Prop} {u : World}
    (hpost : ∀ r v, Closes s k c isOver busy t v → post w r v) (r : Except Failure Unit)
    (hu : Closes s k c isOver busy t u) :
    (pollEnded owner).Meets terms (byOutcome (fun w₀ _ v => post w₀ r v)
      fun w₀ e v => post w₀ (.error e) v) w u := by
  refine pollEnded_meets hchange fun result v hv => ?_
  have hv' : Closes s k c isOver busy t v := by
    rcases hu with ⟨hfree, hu⟩ | ⟨hu, hsame⟩
    · exact .inl ⟨hfree, hu.of_streams hv.1⟩
    · refine .inr ⟨hu.of_streams hv.1, ?_⟩
      rw [World.connection, hv.2, ← hsame, World.connection]
  cases result with
  | error e => exact hpost _ v hv'
  | ok _ => exact hpost r v hv'

/-- Closing a stream never waits, and does not reach below a read that goes on. -/
theorem closeStream_meets {terms : Terms World} (hchange : ∀ u v, terms.change u v)
    {post : World → Except Failure Unit → World → Prop} (h : Stands s k c isOver busy t)
    (hpost : ∀ r u, Closes s k c isOver busy t u → post w r u) :
    (closeStream s).Meets terms post w t := by
  cases hwas : (t.stream s).closed with
  | true =>
    rw [meets_closeStream_of_closed hwas]
    exact hpost _ _ (.inr ⟨h, rfl⟩)
  | false =>
    rw [meets_closeStream hwas]
    refine ⟨hchange _ _, ?_⟩
    have hclosed := h.closes
    cases busy with
    | true =>
      -- the observation cannot be closed below the read, and the connection is not reached
      rw [meets_closeObservation_of_busy hclosed.busy]
      exact pollEnded_closes hchange hpost _ (.inr ⟨hclosed, rfl⟩)
    | false =>
      refine closeObservation_meets hchange hclosed fun r u hu => ?_
      cases r with
      | error e => exact pollEnded_closes hchange hpost _ (.inl ⟨rfl, hu⟩)
      | ok _ =>
        rw [byOutcome_ok, h.connection]
        exact closeConnection_meets hchange hu fun r v hv =>
          pollEnded_closes hchange hpost r (.inl ⟨rfl, hv⟩)

/-- A read of a stream that nobody else reads. -/
theorem nextOfStream_meets (h : Stands s k c false false w) :
    (nextOfStream s).Meets (whileReading k (Stands s k c false true)) (Delivers s k c false)
      w w := by
  rw [meets_nextOfStream]
  refine (nextObserved_meets h).mono fun w₀ r t hr => ?_
  rcases r with failure | _ | item
  · exact hr
  · rw [meets_bind]
    refine closeStream_meets (fun _ _ => trivial) hr.1 fun r u hu => ?_
    have hover := hu.stays_over
    cases r with
    | error e => exact hover
    | ok _ => exact ⟨hover, hr.2⟩
  · exact hr

/-- A read of a stream that is over does not wait, and delivers nothing. -/
theorem nextOfStream_meets_of_over {terms : Terms World} (hchange : ∀ u v, terms.change u v)
    {post : World → Except Failure (Option Item) → World → Prop} (h : Stands s k c true false t)
    (hpost : ∀ r u, Stands s k c true false u → (∀ item, r ≠ .ok (some item)) → post w r u) :
    (nextOfStream s).Meets terms post w t := by
  rw [meets_nextOfStream, meets_nextObserved_of_over h.busy (of_decide_eq_true h.isOver),
    meets_bind]
  refine closeStream_meets hchange h fun r u hu => ?_
  have hover := hu.stays_over
  cases r with
  | error e => exact hpost _ u hover nofun
  | ok _ => exact hpost _ u hover nofun

/-- A read of a stream that is being read fails at once. -/
theorem nextOfStream_meets_of_busy {terms : Terms World}
    {post : World → Except Failure (Option Item) → World → Prop} (h : Stands s k c isOver true t)
    (hpost : post w (.error (.reading "anext")) t) : (nextOfStream s).Meets terms post w t := by
  rw [meets_nextOfStream, meets_nextObserved_of_busy h.busy]
  exact hpost

end Reading

end Act

end ResumableWatch
