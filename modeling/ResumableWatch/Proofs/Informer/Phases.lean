import ResumableWatch.Proofs.Informer.Runs
/-!
# What the phase of an informer tells

An informer keeps its phase and its cursor keeps the flag that the version has expired; they are set
in different places, and every way out of a poll or of a read has to bring them together again.
Between two polls the phase is to be `Phase.due`, which is read off from the flag and from whether
the last stream is still open.

`Shows` and `Watches` say where phase, flag and streams stand, and each operation has a lemma that
carries them on.  `Situation` follows a consumer that polls one informer, one poll at a time, through
all that its calls come to.  The phase is the one that is due between two polls unless the last poll
was struck in its backoff, which leaves it resyncing (`phase_tells`).
-/

namespace ResumableWatch

open ResumableWatch.Fiber Interplay

/-- The phase between two polls. -/
def Phase.due (expired watched : Bool) : Phase :=
  if expired then .desynced else if watched then .watching else .idle

/-- The phase after the end of a stream. -/
def Phase.ended (phase : Phase) : Phase := if phase = .watching then .idle else phase

/-- When its stream ends an informer comes to the phase that is due without one. -/
theorem Phase.ended_due (expired : Bool) : (due expired true).ended = due expired false := by
  cases expired <;> rfl

/-- Who has an owner is there. -/
theorem World.lt_of_owner {w : World} {s : StreamId} {i : InformerId}
    (h : (w.stream s).owner = some i) : s < w.streams.length := by
  by_contra hs
  rw [stream, List.getElem?_eq_none (Nat.le_of_not_lt hs)] at h
  cases h

/-- A stream with an owner is an old one or the new one. -/
theorem World.le_of_owner_added {w : World} {x : Stream} {s : StreamId} {i : InformerId}
    (h : (({ w with streams := w.streams ++ [x] } : World).stream s).owner = some i) :
    s ≤ w.streams.length := by
  have hlt := lt_of_owner h
  rw [List.length_append, List.length_singleton] at hlt
  exact Nat.le_of_lt_succ hlt

/-! ### What others leave alone -/

/-- The phase of an informer, the flag of its cursor and its streams stay as they are. -/
structure Beside (i : InformerId) (c : CursorId) (w t : World) : Prop where
  informers : w.informers.length ≤ t.informers.length
  cursor : (t.informer i).cursor = (w.informer i).cursor
  phase : (t.informer i).phase = (w.informer i).phase
  cursors : w.cursors.length ≤ t.cursors.length
  expired : (t.cursor c).expired = (w.cursor c).expired
  streams : ∀ s, (w.stream s).owner = some i ∨ (t.stream s).owner = some i →
    t.stream s = w.stream s

namespace Beside

variable {i : InformerId} {c : CursorId} {w t u : World}

/-- What touches neither informers nor cursors nor streams. -/
theorem of_same (hinformers : t.informers = w.informers) (hcursors : t.cursors = w.cursors)
    (hstreams : t.streams = w.streams) : Beside i c w t where
  informers := Nat.le_of_eq (by rw [hinformers])
  cursor := by rw [World.informer, hinformers, World.informer]
  phase := by rw [World.informer, hinformers, World.informer]
  cursors := Nat.le_of_eq (by rw [hcursors])
  expired := by rw [World.cursor_of_cursors hcursors]
  streams s _ := by rw [World.stream, hstreams, World.stream]

theorem refl (i : InformerId) (c : CursorId) (w : World) : Beside i c w w := of_same rfl rfl rfl

theorem trans (h₁ : Beside i c w t) (h₂ : Beside i c t u) : Beside i c w u where
  informers := Nat.le_trans h₁.informers h₂.informers
  cursor := h₂.cursor.trans h₁.cursor
  phase := h₂.phase.trans h₁.phase
  cursors := Nat.le_trans h₁.cursors h₂.cursors
  expired := h₂.expired.trans h₁.expired
  streams := by
    rintro s (hs | hs)
    · have hfirst := h₁.streams s (.inl hs)
      exact (h₂.streams s (.inl (by rw [hfirst, hs]))).trans hfirst
    · have hsecond := h₂.streams s (.inr hs)
      exact hsecond.trans (h₁.streams s (.inr (by rw [← hsecond, hs])))

/-- A cursor may get another version, as long as its flag stays. -/
theorem changeCursor (w : World) (k : CursorId) {f : Cursor → Cursor}
    (hf : ∀ k, (f k).expired = k.expired) : Beside i c w (w.changeCursor k f) where
  informers := Nat.le_refl _
  cursor := rfl
  phase := rfl
  cursors := Nat.le_of_eq (by rw [World.changeCursor, List.length_modify])
  expired := World.part_getD_modify Cursor.expired hf w.cursors k c default
  streams _ _ := rfl

/-- An informer may be changed but for its cursor and its phase. -/
theorem changeInformer (w : World) (j : InformerId) {f : Informer → Informer}
    (hcursor : ∀ it, (f it).cursor = it.cursor) (hphase : ∀ it, (f it).phase = it.phase) :
    Beside i c w (w.changeInformer j f) where
  informers := Nat.le_of_eq (by rw [World.changeInformer, List.length_modify])
  cursor := World.part_changeInformer Informer.cursor w j i hcursor
  phase := World.part_changeInformer Informer.phase w j i hphase
  cursors := Nat.le_refl _
  expired := rfl
  streams _ _ := rfl

theorem metrics (w : World) (f : Metrics → Metrics) : Beside i c w (w.changeMetrics f) :=
  .of_same rfl rfl rfl

end Beside

/-- Reading from connections and closing them is beside all informers. -/
theorem beside_reads {i : InformerId} {c : CursorId} : TolerantOfConnections (Beside i c) where
  log w level component event fields lines :=
    .of_same (World.log_informers w level component event fields lines)
      (World.log_cursors w level component event fields lines)
      (World.log_streams w level component event fields lines)
  closed _ _ _ := .of_same rfl rfl rfl
  connection _ _ _ _ := .of_same rfl rfl rfl
  keep _ _ _ := .of_same rfl rfl rfl
  handedOver _ _ _ := .of_same rfl rfl rfl

/-- So are requests. -/
theorem beside_requests {i : InformerId} {c : CursorId} : TolerantOfRequests (Beside i c) where
  toTolerantOfClosing := beside_reads.toTolerantOfClosing
  server _ _ := .of_same rfl rfl rfl
  request _ _ _ := .of_same rfl rfl rfl
  opened _ _ _ := .of_same rfl rfl rfl

/-! ### Where an informer stands -/

/-- An informer is in a phase, the flag of its cursor stands so, and all of its streams are shut
but, perhaps, one. -/
structure Shows (i : InformerId) (c : CursorId) (phase : Phase) (expired : Bool)
    (but : Option StreamId) (w : World) : Prop where
  informer : i < w.informers.length
  cursor : (w.informer i).cursor = c
  phase : (w.informer i).phase = phase
  known : c < w.cursors.length
  expired : (w.cursor c).expired = expired
  shut : ∀ s, (w.stream s).owner = some i → but ≠ some s →
    (w.stream s).closed = true ∧ (w.stream s).progress = .over

/-- All streams of the informer are shut but, perhaps, the last one, whose record is `x`. -/
structure Watches (i : InformerId) (c : CursorId) (s : StreamId) (phase : Phase) (expired : Bool)
    (x : Stream) (w : World) : Prop extends Shows i c phase expired (some s) w where
  stream : w.stream s = x
  owner : x.owner = some i
  source : x.cursor = c
  last : ∀ s', (w.stream s').owner = some i → s' ≤ s

section Standing

variable {i : InformerId} {c : CursorId} {s : StreamId} {phase phase' : Phase}
  {expired expired' : Bool} {but : Option StreamId} {x : Stream} {w t : World}

namespace Shows

/-- What others leave alone stays so. -/
theorem beside (h : Shows i c phase expired but w) (hbeside : Beside i c w t) :
    Shows i c phase expired but t where
  informer := Nat.lt_of_lt_of_le h.informer hbeside.informers
  cursor := hbeside.cursor.trans h.cursor
  phase := hbeside.phase.trans h.phase
  known := Nat.lt_of_lt_of_le h.known hbeside.cursors
  expired := hbeside.expired.trans h.expired
  shut s hs hbut := by
    have hsame := hbeside.streams s (.inr hs)
    rw [hsame] at hs ⊢
    exact h.shut s hs hbut

/-- The informer may come into another phase, and keeps its cursor. -/
theorem changeInformer (h : Shows i c phase expired but w) {f : Informer → Informer}
    (hcursor : (f (w.informer i)).cursor = (w.informer i).cursor)
    (hphase : (f (w.informer i)).phase = phase') :
    Shows i c phase' expired but (w.changeInformer i f) where
  informer := by
    rw [World.changeInformer, List.length_modify]
    exact h.informer
  cursor := by rw [World.informer_changeInformer h.informer, hcursor, h.cursor]
  phase := by rw [World.informer_changeInformer h.informer, hphase]
  known := h.known
  expired := h.expired
  shut := h.shut

theorem setPhase (h : Shows i c phase expired but w) (phase' : Phase) :
    Shows i c phase' expired but (w.changeInformer i fun it => { it with phase := phase' }) :=
  h.changeInformer rfl rfl

/-- The flag of the cursor may be set, and nothing else changes. -/
theorem changeCursor (h : Shows i c phase expired but w) {f : Cursor → Cursor}
    (hf : (f (w.cursor c)).expired = expired') :
    Shows i c phase expired' but (w.changeCursor c f) where
  informer := h.informer
  cursor := h.cursor
  phase := h.phase
  known := by
    rw [World.changeCursor, List.length_modify]
    exact h.known
  expired := by rw [World.cursor_changeCursor h.known, hf]
  shut := h.shut

/-- A new stream is the only one that is not shut. -/
theorem addStream (h : Shows i c phase expired none w) (howner : x.owner = some i)
    (hsource : x.cursor = c) :
    Watches i c w.streams.length phase expired x { w with streams := w.streams ++ [x] } where
  informer := h.informer
  cursor := h.cursor
  phase := h.phase
  known := h.known
  expired := h.expired
  shut s hs hbut := by
    have hlt : s < w.streams.length := by
      exact Nat.lt_of_le_of_ne (World.le_of_owner_added hs) fun heq => hbut (by rw [heq])
    have hsame : ({ w with streams := w.streams ++ [x] } : World).stream s = w.stream s := by
      rw [World.stream, World.stream, List.getElem?_append_left hlt]
    rw [hsame] at hs ⊢
    exact h.shut s hs (by simp)
  stream := by simp [World.stream]
  owner := howner
  source := hsource
  last _ hs := World.le_of_owner_added hs

end Shows

namespace Watches

/-- Others leave the last stream alone as well. -/
theorem beside (h : Watches i c s phase expired x w) (hbeside : Beside i c w t) :
    Watches i c s phase expired x t where
  toShows := h.toShows.beside hbeside
  stream := by
    rw [hbeside.streams s (.inl (by rw [h.stream, h.owner])), h.stream]
  owner := h.owner
  source := h.source
  last s' hs' := by
    rw [hbeside.streams s' (.inr hs')] at hs'
    exact h.last s' hs'

/-- Phase and flag are no matter of the streams. -/
theorem of_shows (h : Watches i c s phase expired x w) (hstreams : t.streams = w.streams)
    (ht : Shows i c phase' expired' (some s) t) : Watches i c s phase' expired' x t where
  toShows := ht
  stream := by rw [World.stream, hstreams, ← World.stream, h.stream]
  owner := h.owner
  source := h.source
  last s' hs' := by
    rw [World.stream, hstreams, ← World.stream] at hs'
    exact h.last s' hs'

/-- The last stream may be changed, as long as it stays that of the informer. -/
theorem changeStream (h : Watches i c s phase expired x w) {f : Stream → Stream}
    (howner : (f x).owner = x.owner) (hsource : (f x).cursor = x.cursor) :
    Watches i c s phase expired (f x) (w.changeStream s f) := by
  have hthere : s < w.streams.length := World.lt_of_owner (by rw [h.stream, h.owner])
  have hchanged : (w.changeStream s f).stream s = f x := by
    rw [← h.stream]
    simp [World.stream, World.changeStream, List.getElem?_modify_eq,
      List.getElem?_eq_getElem hthere]
  -- Other streams are what they were, so that this one is still the last.
  have hother (s' : StreamId) (hs' : s ≠ s') :
      (w.changeStream s f).stream s' = w.stream s' := by
    show ((w.streams.modify s f)[s']?).getD default = _
    rw [List.getElem?_modify_ne _ _ hs', World.stream]
  refine ⟨⟨h.informer, h.cursor, h.phase, h.known, h.expired, ?shut⟩, hchanged, ?owner, ?source,
    ?last⟩
  case shut =>
    intro s' hs' hbut
    have hne : s ≠ s' := fun heq => hbut (by rw [heq])
    rw [hother s' hne] at hs' ⊢
    exact h.shut s' hs' hbut
  case owner => rw [howner, h.owner]
  case source => rw [hsource, h.source]
  case last =>
    intro s' hs'
    by_cases hne : s = s'
    · exact Nat.le_of_eq hne.symm
    · rw [hother s' hne] at hs'
      exact h.last s' hs'

theorem log (h : Watches i c s phase expired x w) (level : Log.Level)
    (component event : String) (fields : List (String × Json)) :
    Watches i c s phase expired x (w.log level component event fields 0) :=
  h.beside (beside_requests.log _ _ _ _ _ _)

/-- Once the last stream is closed and its observation is over, all streams are shut. -/
theorem shuts (h : Watches i c s phase expired x w) (hclosed : x.closed = true)
    (hover : x.progress = .over) : Shows i c phase expired none w where
  informer := h.informer
  cursor := h.cursor
  phase := h.phase
  known := h.known
  expired := h.expired
  shut s' hs' _ := by
    by_cases hne : s = s'
    · rw [← hne, h.stream]
      exact ⟨hclosed, hover⟩
    · exact h.shut s' hs' fun heq => hne (Option.some.inj heq)

end Watches

end Standing

/-- The last stream of an informer has not been closed, and phase and flag agree; whether it is being
read. -/
def Attended (i : InformerId) (c : CursorId) (s : StreamId) (busy : Bool) (w : World) : Prop :=
  ∃ expired x, Watches i c s (.due expired true) expired x w ∧ x.closed = false ∧ x.busy = busy

/-- Phase and flag of an informer agree, between two polls. -/
inductive Agrees (i : InformerId) (c : CursorId) (w : World) : Prop where
  /-- All streams are shut. -/
  | shut (expired : Bool) : Shows i c (.due expired false) expired none w → Agrees i c w
  /-- The last stream is open, and nobody reads it. -/
  | open (s : StreamId) : Attended i c s false w → Agrees i c w

/-- While a stream is being read, others leave all as it is. -/
def attendingTo (i : InformerId) (c : CursorId) (s : StreamId) : Terms World where
  rely _ t := Attended i c s true t
  pause _ _ t := Attended i c s true t

/-- While a poll waits for its answer, the flag is clear and all streams are shut. -/
def awaitingAnswer (i : InformerId) (c : CursorId) : Terms World where
  rely _ t := ∃ phase, Shows i c phase false none t
  pause _ _ t := ∃ phase, Shows i c phase false none t

namespace Act

section Operations

variable {i : InformerId} {c : CursorId} {s : StreamId} {phase : Phase} {expired : Bool}
  {but : Option StreamId} {x : Stream} {w t : World} {terms : Terms World}

/-! ### Closing a stream -/

/-- Who neither waits nor touches phase, flag or streams leaves a stream as it is. -/
theorem watches_of_steady {α : Type} {m : Act α} (hchange : ∀ u v, terms.change u v)
    (hm : Steady (Beside i c) (fun _ => False) m) (h : Watches i c s phase expired x t) :
    m.Meets terms (fun _ _ u => Watches i c s phase expired x u) w t :=
  hm.meets_at_once (Watches i c s phase expired x)
    (fun u v hu huv => ⟨hchange u v, hu.beside huv⟩) (fun _ _ hu => hu) h

/-- When an informer is told that its stream has ended it is watching no longer. -/
theorem pollEnded_shows (hchange : ∀ u v, terms.change u v)
    (h : Shows i c phase expired but t) :
    (pollEnded (some i)).Meets terms (fun _ _ u => Shows i c phase.ended expired but u) w t := by
  have hended : Shows i c phase.ended expired but (t.changeInformer i fun informer =>
      { informer with
        phase := if informer.phase = .watching then .idle else informer.phase
        endings := informer.endings + 1 }) := by
    refine h.changeInformer rfl ?_
    rw [h.phase, Phase.ended]
  unfold pollEnded
  rw [meets_bind, meets_update, byOutcome_ok, meets_bind, meets_state, byOutcome_ok]
  exact ⟨hchange _ _, hchange _ _, hended.beside (beside_requests.log _ _ _ _ _ _)⟩

/-- The end of an observation shuts the connection, and neither phase nor flag changes. -/
theorem endObservation_watches (hchange : ∀ u v, terms.change u v)
    (h : Watches i c s phase expired x t) :
    (endObservation s).Meets terms
      (fun _ _ u => Watches i c s phase expired { x with progress := .over } u) w t := by
  have hover : Watches i c s phase expired { x with progress := .over }
      (t.changeStream s fun stream => { stream with progress := .over }) :=
    h.changeStream (f := fun stream => { stream with progress := .over }) rfl rfl
  rw [meets_endObservation]
  exact ⟨hchange _ _, watches_of_steady hchange
    (closeConnection_steady beside_reads.toTolerantOfClosing _) hover⟩

/-- So does a close, from wherever the observation has come to. -/
theorem closeObservation_watches (hchange : ∀ u v, terms.change u v)
    (h : Watches i c s phase expired x t) (hbusy : x.busy = false) :
    (closeObservation s).Meets terms
      (fun _ _ u => Watches i c s phase expired { x with progress := .over } u) w t := by
  have hfree : (t.stream s).busy = false := by rw [h.stream, hbusy]
  rw [meets_closeObservation hfree, h.stream]
  split
  · exact ⟨hchange _ _, h.changeStream (f := fun stream => { stream with progress := .over }) rfl rfl⟩
  · exact endObservation_watches hchange h
  · rename_i hover
    have hsame : { x with progress := .over } = x := by rw [← hover]
    rw [hsame]
    exact h

/-- Closing the last stream shuts it, whether or not closing its connection fails. -/
theorem closeStream_shows (hchange : ∀ u v, terms.change u v)
    (h : Watches i c s phase expired x t) (hclosed : x.closed = false) (hbusy : x.busy = false) :
    (closeStream s).Meets terms (fun _ _ u => Shows i c phase.ended expired none u) w t := by
  -- the stream is marked as closed before anything else, so nothing closes it twice
  have hmarked : Watches i c s phase expired { x with closed := true }
      (t.changeStream s fun stream => { stream with closed := true }) :=
    h.changeStream (f := fun stream => { stream with closed := true }) rfl rfl
  have hopen : (t.stream s).closed = false := by rw [h.stream, hclosed]
  rw [meets_closeStream hopen, h.stream, h.owner]
  refine ⟨hchange _ _, ?_⟩
  -- the informer is told of the end when the stream is shut already, with or without a failure
  have htold (u₀ : World) (r : Except Failure Unit) (u : World)
      (hu : Watches i c s phase expired { x with closed := true, progress := .over } u) :
      (pollEnded (some i)).Meets terms
        (byOutcome (fun _ _ v => Shows i c phase.ended expired none v)
          (fun _ _ v => Shows i c phase.ended expired none v)) u₀ u := by
    refine (pollEnded_shows hchange (hu.shuts rfl rfl)).mono fun v₀ r v hv => ?_
    cases r with
    | ok _ => exact hv
    | error _ => exact hv
  refine (closeObservation_watches hchange hmarked hbusy).mono fun u₀ r u hu => ?_
  cases r with
  | error e => exact htold u₀ (.error e) u hu
  | ok _ =>
    exact (watches_of_steady hchange
      (closeConnection_steady beside_reads.toTolerantOfClosing _) hu).mono htold

/-! ### Reading a stream -/

/-- Of a status the expiry arms the flag and desyncs the informer in one step; any
other changes neither. -/
theorem observeStatus_watches (hchange : ∀ u v, terms.change u v) {stream : Stream}
    (howner : stream.owner = some i) (hsource : stream.cursor = c)
    (h : Watches i c s (.due expired true) expired x t) (status : Status) :
    (observeStatus stream status).Meets terms
      (fun _ _ u => ∃ expired', Watches i c s (.due expired' true) expired' x u) w t := by
  let reason := if status.reason.isEmpty then toString status.code else status.reason
  let fields := [("informer", Json.text stream.name), ("code", .int status.code),
    ("reason", .text status.reason), ("message", .text status.message)]
  have hcounted : Watches i c s (.due expired true) expired x
      (t.changeMetrics (·.countError stream.name reason)) :=
    h.beside (Beside.metrics _ _)
  rw [observeStatus, meets_bind, meets_update, byOutcome_ok]
  refine ⟨hchange _ _, ?_⟩
  split
  · -- flag and phase change together: nobody can act between them
    have hlogged := hcounted.log .warning ("intercept." ++ stream.name) "watch_desynced" fields
    have harmed := hlogged.toShows.changeCursor (f := Cursor.arm) rfl
    have hmarked : Shows i c .desynced true (some s) _ := harmed.changeInformer
      (f := fun it => { it with phase := .desynced, expiries := it.expiries + 1 }) rfl rfl
    rw [Act.log, meets_bind, meets_update, byOutcome_ok, meets_bind, meets_update, byOutcome_ok,
      hsource, howner]
    exact ⟨hchange _ _, hchange _ _, hchange _ _, true, hlogged.of_shows rfl hmarked⟩
  · -- any other status is counted and logged
    exact ⟨hchange _ _, expired, hcounted.log _ _ _ _⟩

/-- Merging a version into the cursor leaves its flag as it is. -/
theorem observeVersion_watches (hchange : ∀ u v, terms.change u v) {stream : Stream}
    (hsource : stream.cursor = c) (h : Watches i c s phase expired x t) (incoming : String) :
    (observeVersion stream incoming).Meets terms
      (fun _ _ u => Watches i c s phase expired x u) w t := by
  unfold observeVersion
  split
  · -- an event without a version says nothing about where to resume
    exact h
  · rw [meets_bind, meets_state, byOutcome_ok, hsource]
    split
    · -- a version that is too long to be read fails, and leaves the cursor as it is
      exact h
    · rename_i merged hmerge
      have hflag : merged.expired = expired := (Cursor.merge_eq hmerge).2.trans h.expired
      have hmerged : Watches i c s phase expired x (t.changeCursor c fun _ => merged) :=
        h.of_shows rfl (h.toShows.changeCursor hflag)
      rw [meets_bind, meets_update, byOutcome_ok]
      exact ⟨hchange _ _, hchange _ _, hmerged.log _ _ _ _⟩

/-- The observation of an item of the last stream leaves phase and flag in agreement. -/
theorem observe_watches (hchange : ∀ u v, terms.change u v) {stream : Stream}
    (howner : stream.owner = some i) (hsource : stream.cursor = c)
    (h : Watches i c s (.due expired true) expired x t) (item : Item) :
    (observe stream item).Meets terms
      (fun _ _ u => ∃ expired', Watches i c s (.due expired' true) expired' x u) w t := by
  have hcounted (f : Metrics → Metrics) :
      Watches i c s (.due expired true) expired x (t.changeMetrics f) :=
    h.beside (Beside.metrics _ f)
  cases item with
  | failure failure =>
    -- a failure is at most counted and logged
    unfold observe
    dsimp only
    split
    · rw [meets_bind, meets_update, byOutcome_ok]
      exact ⟨hchange _ _, hchange _ _, expired, (hcounted _).log _ _ _ _⟩
    · exact ⟨expired, h⟩
  | event event =>
    unfold observe
    dsimp only
    rw [meets_bind, meets_update, byOutcome_ok]
    refine ⟨hchange _ _, ?_⟩
    split
    · exact observeStatus_watches hchange howner hsource (hcounted _) _
    · rw [meets_bind, meets_ofExcept]
      cases event.version with
      | error failure => exact ⟨expired, hcounted _⟩
      | ok incoming =>
        rw [byOutcome_ok]
        exact (observeVersion_watches hchange hsource (hcounted _) incoming).mono
          fun _ _ _ hu => ⟨expired, hu⟩

/-- What a read of an observation leaves behind.  At the end the observation is over. -/
def Observed (i : InformerId) (c : CursorId) (s : StreamId) (busy : Bool) (_ : World)
    (r : Except Failure (Option Item)) (t : World) : Prop :=
  ∃ expired x, Watches i c s (.due expired true) expired x t ∧ x.closed = false ∧ x.busy = busy ∧
    (r = .ok none → x.progress = .over)

/-- A read ends in an item that has been observed, or with the observation. -/
theorem readObserved_observed (h : Attended i c s true t) :
    (readObserved s).Meets (attendingTo i c s) (Observed i c s true) w t := by
  obtain ⟨expired, x, hx, hclosed, hbusy⟩ := h
  -- whatever the read comes to after the end of the observation
  have hend {u₀ u : World} {e : Bool} {y : Stream} (hu : Watches i c s (.due e true) e y u)
      (hy : y.closed = false) (hreading : y.busy = true) {m : Act (Option Item)}
      (hm : ∀ v₀ v, (∀ r, Observed i c s true v₀ r v) →
        m.Meets (attendingTo i c s) (Observed i c s true) v₀ v) :
      (endObservation s >>= fun _ => m).Meets (attendingTo i c s) (Observed i c s true) u₀ u := by
    have hover {v₀ v : World} (r : Except Failure (Option Item))
        (hv : Watches i c s (.due e true) e { y with progress := .over } v) :
        Observed i c s true v₀ r v := ⟨e, _, hv, hy, hreading, fun _ => rfl⟩
    exact (endObservation_watches (fun _ _ => trivial) hu).before
      (fun _ v₀ v hv => hm v₀ v fun r => hover r hv) fun _ _ _ hv => hover _ hv
  rw [meets_readObserved, hx.stream]
  have hread : Steady (Beside i c) (fun _ => True) (nextItem x.connection) :=
    nextItem_steady beside_reads (fun _ => trivial) _
  -- reading takes waits, during which phase and flag stay in agreement
  refine hread.meets (fun _ u => Attended i c s true u) (fun _ _ _ _ _ _ hu _ => hu) ?_
    (fun _ _ _ hu _ => hu) ?_ ⟨expired, x, hx, hclosed, hbusy⟩
  · rintro u₀ u v ⟨e, y, hy, hyclosed, hybusy⟩ huv
    exact ⟨trivial, e, y, hy.beside huv, hyclosed, hybusy⟩
  · rintro u₀ r u ⟨e, y, hy, hyclosed, hybusy⟩
    rcases r with failure | _ | item
    · -- the read failed
      exact hend hy hyclosed hybusy fun _ _ hv => hv _
    · -- the body ended
      exact hend hy hyclosed hybusy fun _ _ hv => hv _
    · refine (observe_watches (fun _ _ => trivial) hx.owner hx.source hy item).mono
        fun v₀ r v hv => ?_
      obtain ⟨e', hv⟩ := hv
      cases r with
      | error failure => exact hend hv hyclosed hybusy fun _ _ hv => hv _
      | ok _ =>
        refine noteObserved_meets ⟨e', y, hv, hyclosed, hybusy, nofun⟩ fun j => ⟨trivial, ?_⟩
        exact ⟨e', y, hv.beside (.changeInformer v j (fun _ => rfl) fun _ => rfl), hyclosed, hybusy,
          nofun⟩

/-- While it reads, the stream is marked as busy; it is free again then. -/
theorem nextObserved_observed (h : Attended i c s false w) :
    (nextObserved s).Meets (attendingTo i c s) (Observed i c s false) w w := by
  obtain ⟨expired, x, hx, hclosed, hbusy⟩ := h
  have hfree : (w.stream s).busy = false := by rw [hx.stream, hbusy]
  by_cases hover : (w.stream s).progress = .over
  · rw [meets_nextObserved_of_over hfree hover]
    exact ⟨expired, x, hx, hclosed, hbusy, fun _ => hx.stream ▸ hover⟩
  · -- the stream is marked as open and as busy, and as free again in the end
    have hopened : Watches i c s (.due expired true) expired { x with progress := .open }
        (w.changeStream s fun stream => { stream with progress := .open }) :=
      hx.changeStream (f := fun stream => { stream with progress := .open }) rfl rfl
    have hreading := hopened.changeStream (f := fun stream => { stream with busy := true }) rfl rfl
    rw [meets_nextObserved hfree hover]
    refine ⟨trivial, trivial, (readObserved_observed ⟨_, _, hreading, hclosed, rfl⟩).mono ?_⟩
    rintro u₀ r u ⟨e, y, hy, hyclosed, -, hend⟩
    exact ⟨trivial, e, _, hy.changeStream (f := fun stream => { stream with busy := false }) rfl rfl,
      hyclosed, rfl, hend⟩

/-- Whatever a read of the last stream comes to, phase and flag agree. -/
theorem nextOfStream_agrees (h : Attended i c s false w) :
    (nextOfStream s).Meets (attendingTo i c s) (fun _ _ t => Agrees i c t) w w := by
  rw [meets_nextOfStream]
  refine (nextObserved_observed h).mono fun u₀ r u hr => ?_
  obtain ⟨e, y, hy, hclosed, hbusy, hover⟩ := hr
  rcases r with failure | _ | item
  · exact .open s ⟨e, y, hy, hclosed, hbusy⟩
  · -- at its end the stream is closed, and the phase becomes the one that is due without it
    refine (closeStream_shows (fun _ _ => trivial) hy hclosed hbusy).before
      (fun _ v₀ v hv => ?_) fun v₀ _ v hv => ?_
    all_goals
      rw [Phase.ended_due] at hv
      exact .shut e hv
  · exact .open s ⟨e, y, hy, hclosed, hbusy⟩

/-! ### Polls -/

/-- Once the flag is clear a poll leaves phase and flag in agreement, whatever its request comes
to. -/
theorem ask_agrees {it : Informer} (hsource : it.cursor = c) (h : Shows i c phase false none t) :
    (ask i it).Meets (awaitingAnswer i c) (fun _ _ u => Agrees i c u) w t := by
  have hopen : Steady (Beside i c) (fun _ => True)
      (openConnection it.transport (it.query.withVersion (t.cursor it.cursor).version)) :=
    openConnection_steady beside_requests (fun _ => trivial) _ _
  have hlogged := h.beside (beside_requests.log t .info ("informer." ++ it.name) "poll_start"
    [("informer", .text it.name), ("version", .text (t.cursor it.cursor).version)] 0)
  have hcounted := hlogged.beside (Beside.metrics _ (·.countPoll it.name))
  rw [ask, meets_bind, cursor, meets_gets, byOutcome_ok]
  dsimp only
  rw [Act.log, meets_bind, meets_update, byOutcome_ok, meets_bind, meets_update, byOutcome_ok,
    meets_bind, meets_recover]
  refine ⟨trivial, trivial, hopen.meets (fun _ u => ∃ phase, Shows i c phase false none u)
    (fun _ _ _ _ _ _ hu _ => hu) ?_ (fun _ _ _ hu _ => hu) ?_ ⟨phase, hcounted⟩⟩
  · rintro u₀ u v ⟨phase, hu⟩ huv
    exact ⟨trivial, phase, hu.beside huv⟩
  · rintro u₀ r u ⟨phase, hu⟩
    cases r with
    -- the request was rejected, and the informer is idle
    | error failure => exact ⟨trivial, .shut false (hu.setPhase .idle)⟩
    | ok connection =>
      -- the request was answered, and the informer watches a stream of its own
      rw [byOutcome_ok, byOutcome_ok, setPhase, meets_bind, meets_update, byOutcome_ok, addStream,
        meets_bind, meets_state, byOutcome_ok, meets_bind, meets_update, byOutcome_ok, meets_pure]
      exact ⟨trivial, trivial, .open _
        ⟨false, _, (hu.setPhase .watching).addStream rfl hsource, rfl, rfl⟩⟩

/-- From a clear flag a poll asks at once. -/
theorem poll_agrees (h : Shows i c .idle false none w) :
    (poll i).Meets (awaitingAnswer i c) (fun _ _ u => Agrees i c u) w w := by
  have hclear : (w.cursor (w.informer i).cursor).expired = false := by rw [h.cursor, h.expired]
  rw [poll_eq, meets_bind, informer, meets_gets, byOutcome_ok, noteResync, meets_bind, meets_bind,
    cursor, meets_gets, byOutcome_ok, h.phase, hclear]
  rw [if_neg (by decide), meets_pure, byOutcome_ok, meets_bind,
    (resync_goes_of_clear hclear _ _).meets_iff, meets_pure]
  exact ⟨List.forall_mem_nil _, ask_agrees h.cursor h⟩

/-- From an armed flag a poll sleeps, and is resyncing meanwhile. -/
theorem poll_sleeps (h : Shows i c phase true none w) :
    (poll i).Meets
      { answers := fun _ => False, pause := fun _ _ t => Shows i c .resyncing true none t }
      (fun _ _ _ => False) w w := by
  have harmed : (w.cursor (w.informer i).cursor).expired = true := by rw [h.cursor, h.expired]
  have hnoted := h.setPhase .resyncing
  have hlogged := hnoted.beside (beside_requests.log _ .info ("resync." ++ (w.informer i).name)
    "resync_backoff" [("informer", .text (w.informer i).name),
      ("delay_s", .double (w.informer i).backoff)] 0)
  rw [poll_eq, meets_bind, informer, meets_gets, byOutcome_ok, noteResync, meets_bind, meets_bind,
    cursor, meets_gets, byOutcome_ok, if_pos (by rw [harmed, Bool.or_true]), setPhase, meets_update,
    byOutcome_ok]
  rw [meets_bind, resync_eq, cursor, meets_bind, meets_gets, byOutcome_ok]
  rw [if_neg, backOff, Act.log, meets_bind, meets_update, byOutcome_ok, meets_bind, meets_update,
    byOutcome_ok, sleep, meets_bind, meets_await]
  · exact ⟨trivial, trivial, trivial, hlogged.beside (Beside.metrics _ _),
      fun _ _ ha => ha.elim⟩
  · have hstill : ((w.changeInformer i fun it => { it with phase := .resyncing }).cursor
        (w.informer i).cursor).expired = true := harmed
    rw [hstill]
    decide

/-- A poll that has slept clears the flag, and then it asks. -/
theorem afterBackoff_agrees {it : Informer} (hsource : it.cursor = c)
    (h : Shows i c phase true none t) :
    (afterBackoff i it (.ok ())).Meets (awaitingAnswer i c) (fun _ _ u => Agrees i c u) w t := by
  have hreset := h.beside (.changeCursor t c (f := Cursor.reset) fun _ => rfl)
  have hcounted := hreset.beside (Beside.metrics _ (·.countResync it.name))
  have hlogged := hcounted.beside (beside_requests.log _ .info ("resync." ++ it.name) "resync_reset"
    [("informer", .text it.name)] 0)
  have hcleared := hlogged.changeCursor (f := Cursor.clear) rfl
  rw [afterBackoff, meets_bind, meets_ofExcept, byOutcome_ok, meets_bind, hsource, settle, cursor,
    meets_bind, meets_gets, byOutcome_ok]
  dsimp only
  rw [h.expired, if_pos rfl, meets_bind]
  exact ⟨trivial, trivial, trivial, trivial, ask_agrees hsource hcleared⟩

end Operations

end Act

/-! ### A consumer that polls in turn -/

/-- What the consumer of an informer may do: it polls when all streams are closed, reads and closes
the streams one call after the other, and sets the version. -/
def Call.InTurn (i : InformerId) (w : World) : Call → Prop
  | poll j => j = i ∧ ∀ s, (w.stream s).owner = some i → (w.stream s).closed = true
  | next s | close s => (w.stream s).owner = some i ∧ (w.stream s).busy = false
  | setVersion j _ | resetVersion j => j = i
  | arm _ | clear _ | copy .. => False

/-- The consumer of an informer; nobody else touches its phase, its flag or its streams. -/
def pollingInTurn (i : InformerId) (c : CursorId) : Setting World Call Outcome where
  act := Call.act
  allowed w call := call.InTurn i w
  others := Beside i c

/-- The stretch belongs to a poll. -/
def Stretch.polls (x : Stretch World Call Outcome) : Bool :=
  match x.call with
  | .poll _ => true
  | _ => false

section Polls

variable (past : List (Stretch World Call Outcome))

/-- The last stretch of the last poll so far. -/
def lastPoll : Option (Stretch World Call Outcome) := past.reverse.find? (·.polls)

/-- A poll is in progress. -/
def Polling : Prop := ∃ x ∈ lastPoll past, ∃ what, x.ending = .waits what

/-- The last poll was struck in its backoff. -/
def Struck (c : CursorId) : Prop :=
  ∃ x ∈ lastPoll past, x.number = 1 ∧ (x.origin.cursor c).expired = true ∧ x.answer ≠ .ok ()

/-- Each poll began when no other one was in progress. -/
def OneAtATime : Prop :=
  ∀ earlier x later, past = earlier ++ x :: later → x.polls = true → x.number = 0 → ¬ Polling earlier

variable {past}

/-- Only a stretch of a poll can be the last one of a poll. -/
theorem lastPoll_snoc (x : Stretch World Call Outcome) :
    lastPoll (past ++ [x]) = if x.polls then some x else lastPoll past := by
  rw [lastPoll, List.reverse_append, List.reverse_singleton, List.singleton_append, List.find?_cons]
  cases x.polls <;> rfl

theorem lastPoll_snoc_of_polls {x : Stretch World Call Outcome} (hx : x.polls = true) :
    lastPoll (past ++ [x]) = some x := by rw [lastPoll_snoc, if_pos hx]

theorem lastPoll_snoc_of_other {x : Stretch World Call Outcome} (hx : x.polls = false) :
    lastPoll (past ++ [x]) = lastPoll past := by
  rw [lastPoll_snoc, if_neg (by rw [hx]; exact Bool.false_ne_true)]

/-- What holds of all that has happened held of what had happened before. -/
theorem OneAtATime.of_snoc {x : Stretch World Call Outcome} (h : OneAtATime (past ++ [x])) :
    OneAtATime past :=
  fun earlier y later hpast => h earlier y (later ++ [x]) (by rw [hpast]; simp)

/-- One more stretch does no harm, unless it begins a poll while one is in progress. -/
theorem OneAtATime.snoc {x : Stretch World Call Outcome} (h : OneAtATime past)
    (hx : x.polls = true → x.number = 0 → ¬ Polling past) : OneAtATime (past ++ [x]) := by
  intro earlier y later hpast hpolls hnumber
  rcases later.eq_nil_or_concat' with rfl | ⟨init, last, rfl⟩
  · obtain ⟨rfl, heq⟩ := List.append_inj' hpast rfl
    obtain rfl : x = y := List.head_eq_of_cons_eq heq
    exact hx hpolls hnumber
  · rw [← List.cons_append, ← List.append_assoc] at hpast
    exact h earlier y init (List.append_inj' hpast rfl).1 hpolls hnumber

theorem OneAtATime.nil : OneAtATime [] := fun _ _ _ hpast => absurd hpast.symm (by simp)

/-- A stretch of another call does no harm. -/
theorem OneAtATime.snoc_other {x : Stretch World Call Outcome} (h : OneAtATime past)
    (hx : x.polls = false) : OneAtATime (past ++ [x]) :=
  h.snoc fun hpolls => absurd (hpolls.symm.trans hx) (by decide)

theorem not_polling_nil : ¬ Polling [] := by
  rintro ⟨_, ⟨⟩, _⟩

/-- No poll is in progress when the last one has ended. -/
theorem not_polling_of_lastPoll {x : Stretch World Call Outcome} (hlast : lastPoll past = some x)
    (hended : ∀ what, x.ending ≠ .waits what) : ¬ Polling past := by
  rintro ⟨y, hy, what, hwaits⟩
  obtain rfl : x = y := Option.some.inj (hlast.symm.trans hy)
  exact hended what hwaits

end Polls

section Calls

variable {i : InformerId} {c : CursorId} {s : StreamId} {phase : Phase} {expired : Bool}
  {but : Option StreamId} {w t : World}

/-- Others do not disturb an open stream. -/
theorem Attended.beside {busy : Bool} (h : Attended i c s busy w) (hbeside : Beside i c w t) :
    Attended i c s busy t := by
  obtain ⟨expired, x, hx, hclosed, hbusy⟩ := h
  exact ⟨expired, x, hx.beside hbeside, hclosed, hbusy⟩

/-- Nor do they bring phase and flag apart. -/
theorem Agrees.beside (h : Agrees i c w) (hbeside : Beside i c w t) : Agrees i c t := by
  cases h with
  | shut expired h => exact .shut expired (h.beside hbeside)
  | «open» s h => exact .open s (h.beside hbeside)

/-- A call that is neither a poll nor about the open stream comes to its end at once, and changes
neither phase nor flag nor streams. -/
theorem Call.InTurn.aside {call : Call} (hcall : call.InTurn i w) (hpoll : ∀ j, call ≠ .poll j)
    (h : Shows i c phase expired but w)
    (hbut : ∀ s, but = some s → call ≠ .next s ∧ call ≠ .close s) :
    call.act.Meets { pause := fun _ _ _ => False } (fun _ _ t => Beside i c w t) w w := by
  have hsteady {m : Act Outcome} (hm : Steady (Beside i c) (fun _ => False) m) :
      m.Meets { pause := fun _ _ _ => False } (fun _ _ t => Beside i c w t) w w :=
    hm.meets_at_once (Beside i c w) (fun _ _ hu huv => ⟨trivial, hu.trans huv⟩) (fun _ _ hu => hu)
      (.refl i c w)
  have hset (j : InformerId) (event : String) (fields : Informer → List (String × Json))
      {f : Cursor → Cursor} (hf : ∀ k, (f k).expired = k.expired) :
      Steady (Beside i c) (fun _ => False) (Act.silently do
        let informer ← Act.informer j
        Act.log .debug ("informer." ++ informer.name) event (fields informer)
        Act.changeCursor informer.cursor f) :=
    ((Steady.gets _).bind fun _ => (Act.log_steady beside_requests.toTolerantOfLogs _ _ _ _).bind
      fun _ => Steady.update fun u => .changeCursor u _ hf).bind fun _ => Steady.pure _
  cases call with
  | poll j => exact absurd rfl (hpoll j)
  | setVersion j version =>
    exact hsteady (hset j "set_version"
      (fun it => [("informer", .text it.name), ("version", .text version)]) fun _ => rfl)
  | resetVersion j =>
    exact hsteady (hset j "reset_version" (fun it => [("informer", .text it.name)]) fun _ => rfl)
  | next s =>
    -- a stream that is shut has nothing more to give
    obtain ⟨hclosed, hover⟩ := h.shut s hcall.1 fun hs => (hbut s hs).1 rfl
    show (Act.nextOfStream s >>= _).Meets _ _ _ _
    rw [meets_bind, Act.meets_nextOfStream, Act.meets_nextObserved_of_over hcall.2 hover,
      meets_bind, Act.meets_closeStream_of_closed hclosed]
    exact .refl i c w
  | close s =>
    obtain ⟨hclosed, -⟩ := h.shut s hcall.1 fun hs => (hbut s hs).2 rfl
    show (Act.closeStream s >>= _).Meets _ _ _ _
    rw [meets_bind, Act.meets_closeStream_of_closed hclosed]
    exact .refl i c w
  | _ => exact hcall.elim

end Calls

/-- Where a consumer of an informer stands. -/
inductive Situation (i : InformerId) (c : CursorId) (p : Interplay World Call Outcome) : Prop where
  /-- No call waits, and the last poll was not struck in its backoff. -/
  | between :
    Agrees i c p.state → p.waiting = [] → ¬ Polling p.past → ¬ Struck p.past c → Situation i c p
  /-- No call waits, and the last poll was struck in its backoff. -/
  | struck :
    Shows i c .resyncing true none p.state → p.waiting = [] → ¬ Polling p.past →
    Struck p.past c → Situation i c p
  /-- The last stream is being read. -/
  | reading (u : Waiting World Call Outcome) (s : StreamId) :
    u.call = .next s → Attended i c s true p.state → p.waiting = [u] → ¬ Polling p.past →
    ¬ Struck p.past c →
    (∀ answer t, Attended i c s true t →
      (u.next answer).Meets (attendingTo i c s) (fun _ _ t => Agrees i c t) t t) →
    Situation i c p
  /-- A poll is in its backoff. -/
  | resting (u : Waiting World Call Outcome) (it : Informer) :
    u.call = .poll i → u.number = 1 → (u.origin.cursor c).expired = true → it.cursor = c →
    u.next = Call.afterBackoff i it → Shows i c .resyncing true none p.state → p.waiting = [u] →
    Polling p.past → Situation i c p
  /-- A poll waits for its answer. -/
  | asking (u : Waiting World Call Outcome) (phase : Phase) :
    u.call = .poll i → 0 < u.number → (u.number = 1 → (u.origin.cursor c).expired = false) →
    Shows i c phase false none p.state → p.waiting = [u] → Polling p.past →
    (∀ answer t, (∃ phase, Shows i c phase false none t) →
      (u.next answer).Meets (awaitingAnswer i c) (fun _ _ t => Agrees i c t) t t) →
    Situation i c p

namespace Situation

variable {i : InformerId} {c : CursorId} {s : StreamId} {p q : Interplay World Call Outcome}
  {x : Stretch World Call Outcome} {pause : Pause World Outcome}

/-- What leaves phase, flag, streams and waiting calls as they are leaves the consumer where it
is. -/
theorem aside (h : Situation i c p) (hstate : Beside i c p.state q.state)
    (hwaiting : q.waiting = p.waiting) (hlast : lastPoll q.past = lastPoll p.past) :
    Situation i c q := by
  have hpolling : Polling q.past ↔ Polling p.past := by rw [Polling, hlast, Polling]
  have hstruck : Struck q.past c ↔ Struck p.past c := by rw [Struck, hlast, Struck]
  cases h with
  | between hagrees hnobody hover hfine =>
    exact .between (hagrees.beside hstate) (hwaiting.trans hnobody) (mt hpolling.mp hover)
      (mt hstruck.mp hfine)
  | struck hshows hnobody hover hstrike =>
    exact .struck (hshows.beside hstate) (hwaiting.trans hnobody) (mt hpolling.mp hover)
      (hstruck.mpr hstrike)
  | reading u s hcall hattended hone hover hfine hnext =>
    exact .reading u s hcall (hattended.beside hstate) (hwaiting.trans hone) (mt hpolling.mp hover)
      (mt hstruck.mp hfine) hnext
  | resting u it hcall hnumber horigin hsource hnext hshows hone hpolls =>
    exact .resting u it hcall hnumber horigin hsource hnext (hshows.beside hstate)
      (hwaiting.trans hone) (hpolling.mpr hpolls)
  | asking u phase hcall hlater hfirst hshows hone hpolls hnext =>
    exact .asking u phase hcall hlater hfirst (hshows.beside hstate) (hwaiting.trans hone)
      (hpolling.mpr hpolls) hnext

/-- Only the stream that is attended to is not shut. -/
theorem shows (h : Situation i c p) :
    ∃ phase expired but, Shows i c phase expired but p.state ∧
      ∀ s, but = some s → ∃ busy, Attended i c s busy p.state ∧
        (busy = false → Agrees i c p.state ∧ p.waiting = [] ∧ ¬ Polling p.past ∧
          ¬ Struck p.past c) := by
  cases h with
  | between hagrees hnobody hover hfine =>
    cases hagrees with
    | shut expired h => exact ⟨_, expired, none, h, nofun⟩
    | «open» s h =>
      obtain ⟨expired, x, hx, hclosed, hbusy⟩ := h
      refine ⟨_, expired, some s, hx.toShows, ?_⟩
      rintro _ ⟨⟩
      have hattended : Attended i c s false p.state := ⟨expired, x, hx, hclosed, hbusy⟩
      exact ⟨false, hattended, fun _ => ⟨.open s hattended, hnobody, hover, hfine⟩⟩
  | struck hshows => exact ⟨_, _, none, hshows, nofun⟩
  | reading u s hcall hattended =>
    obtain ⟨expired, x, hx, hclosed, hbusy⟩ := hattended
    refine ⟨_, expired, some s, hx.toShows, ?_⟩
    rintro _ ⟨⟩
    exact ⟨true, ⟨expired, x, hx, hclosed, hbusy⟩, nofun⟩
  | resting u it _ _ _ _ _ hshows => exact ⟨_, _, none, hshows, nofun⟩
  | asking u phase _ _ _ hshows => exact ⟨_, _, none, hshows, nofun⟩

/-- A stretch of a read, the first one or a later one. -/
theorem made_of_read (hwaiting : p.waiting = []) (hcall : x.call = .next s)
    (hover : ¬ Polling p.past) (hfine : ¬ Struck p.past c)
    (hpause : AtPause (attendingTo i c s) (fun _ _ t => Agrees i c t) x.before x.after pause) :
    Situation i c (p.made x pause) := by
  -- a read is no poll, so what the last poll came to stays as it was
  have hlast : lastPoll (p.past ++ [x]) = lastPoll p.past :=
    lastPoll_snoc_of_other (by rw [Stretch.polls, hcall])
  have hover' : ¬ Polling (p.made x pause).past := by
    rw [Polling, show lastPoll (p.made x pause).past = _ from hlast]
    exact hover
  have hfine' : ¬ Struck (p.made x pause).past c := by
    rw [Struck, show lastPoll (p.made x pause).past = _ from hlast]
    exact hfine
  have hmade : (p.made x pause).waiting = (x.waiting? pause).toList := by
    rw [made, hwaiting]
    rfl
  cases pause with
  | done o => exact .between hpause hmade hover' hfine'
  | fail e => exact .between hpause hmade hover' hfine'
  | wait what next =>
    obtain ⟨hattended, hnext⟩ := hpause
    exact .reading { call := x.call, origin := x.origin, number := x.number + 1, next } s hcall
      hattended hmade hover' hfine' fun answer t ht => hnext answer t trivial ht trivial

/-- A stretch of a poll that asks, the first one or a later one. -/
theorem made_of_poll (hwaiting : p.waiting = []) (hcall : x.call = .poll i)
    (hfirst : x.number = 0 → (x.origin.cursor c).expired = false)
    (hanswer : x.number = 1 → (x.origin.cursor c).expired = true → x.answer = .ok ())
    (hending : x.ending = pause.ending)
    (hpause : AtPause (awaitingAnswer i c) (fun _ _ t => Agrees i c t) x.before x.after pause) :
    Situation i c (p.made x pause) := by
  have hlast : lastPoll (p.made x pause).past = some x :=
    lastPoll_snoc_of_polls (by rw [Stretch.polls, hcall])
  have hfine : ¬ Struck (p.made x pause).past c := by
    rintro ⟨y, hy, hnumber, horigin, hstruck⟩
    obtain rfl : x = y := Option.some.inj (hlast.symm.trans hy)
    exact hstruck (hanswer hnumber horigin)
  have hmade : (p.made x pause).waiting = (x.waiting? pause).toList := by
    rw [made, hwaiting]
    rfl
  -- a poll that has come to its end is in progress no longer
  have hover (hended : ∀ what, pause.ending ≠ .waits what) : ¬ Polling (p.made x pause).past :=
    not_polling_of_lastPoll hlast (hending ▸ hended)
  cases pause with
  | done o => exact .between hpause hmade (hover (by rintro _ ⟨⟩)) hfine
  | fail e => exact .between hpause hmade (hover (by rintro _ ⟨⟩)) hfine
  | wait what next =>
    obtain ⟨⟨phase, hshows⟩, hnext⟩ := hpause
    exact .asking { call := x.call, origin := x.origin, number := x.number + 1, next } phase hcall
      (Nat.succ_pos _) (fun hnumber => hfirst (Nat.succ.inj hnumber)) hshows hmade
      ⟨x, hlast, what, hending⟩ fun answer t ht => hnext answer t trivial ht trivial

/-- A call that is neither a poll nor about the open stream. -/
theorem begin_aside (h : Situation i c p) {call : Call} (hcall : call.InTurn i p.state)
    (hpoll : ∀ j, call ≠ .poll j) {phase : Phase} {expired : Bool} {but : Option StreamId}
    (hshows : Shows i c phase expired but p.state)
    (hbut : ∀ s, but = some s → call ≠ .next s ∧ call ≠ .close s) :
    Situation i c (p.begin call call.act) := by
  obtain ⟨r, hpause, hbeside⟩ := (hcall.aside hpoll hshows hbut).ends
  refine h.aside hbeside ?_ (lastPoll_snoc_of_other ?_)
  · rw [Interplay.begin, made, Stretch.waiting?_of_ended _ hpause]
    exact List.append_nil _
  · cases call with
    | poll j => exact absurd rfl (hpoll j)
    | _ => rfl

/-- A read of the open stream. -/
theorem begin_next (hattended : Attended i c s false p.state) (hnobody : p.waiting = [])
    (hover : ¬ Polling p.past) (hfine : ¬ Struck p.past c) :
    Situation i c (p.begin (.next s) (Call.act (.next s))) := by
  refine made_of_read hnobody rfl hover hfine (meets_iff_advance.mp ?_).2
  show (Act.nextOfStream s >>= _).Meets _ _ _ _
  refine (Act.nextOfStream_agrees hattended).before (fun r u₀ u hu => ?_) fun _ _ _ hu => hu
  cases r with
  | none => exact hu
  | some item => exact hu

/-- The close of the open stream. -/
theorem begin_close (hattended : Attended i c s false p.state) (hnobody : p.waiting = [])
    (hover : ¬ Polling p.past) (hfine : ¬ Struck p.past c) :
    Situation i c (p.begin (.close s) (Call.act (.close s))) := by
  obtain ⟨expired, x, hx, hclosed, hbusy⟩ := hattended
  have hclose : (Call.act (.close s)).Meets { pause := fun _ _ _ => False }
      (fun _ _ u => Agrees i c u) p.state p.state := by
    have hshut {u : World} (hu : Shows i c (Phase.due expired true).ended expired none u) :
        Agrees i c u := .shut expired (Phase.ended_due expired ▸ hu)
    exact (Act.closeStream_shows (fun _ _ => trivial) hx hclosed hbusy).before
      (fun _ _ _ hu => hshut hu) fun _ _ _ hu => hshut hu
  obtain ⟨r, hpause, hagrees⟩ := hclose.ends
  have hlast : lastPoll (p.begin (.close s) (Call.act (.close s))).past = lastPoll p.past :=
    lastPoll_snoc_of_other rfl
  refine .between hagrees ?_ ?_ ?_
  · rw [Interplay.begin, made, Stretch.waiting?_of_ended _ hpause, hnobody]
    rfl
  · rw [Polling, hlast]
    exact hover
  · rw [Struck, hlast]
    exact hfine

/-- A poll that begins with its backoff. -/
theorem begin_resting {phase : Phase} (hshows : Shows i c phase true none p.state)
    (hnobody : p.waiting = []) : Situation i c (p.begin (.poll i) (Call.act (.poll i))) := by
  -- a poll that finds the flag armed rests first
  have harmed : (p.state.cursor (p.state.informer i).cursor).expired = true := by
    rw [hshows.cursor, hshows.expired]
  obtain ⟨changes, asleep, hgo, -⟩ := Act.poll_goes_of_armed harmed
  have hadvance : (Call.act (.poll i)).advance p.state
      = (asleep, .wait (.sleep (p.state.informer i).backoff)
          (Call.afterBackoff i (p.state.informer i))) :=
    (hgo.bind fun s => pure (Outcome.opened s)).advance_eq
  -- the poll goes to sleep where `poll_sleeps` says
  have hasleep := (meets_iff_advance.mp (Act.poll_sleeps hshows)).2
  rw [hgo.advance_eq] at hasleep
  have hresyncing : Shows i c .resyncing true none asleep := hasleep.1
  have hlast : lastPoll (p.begin (.poll i) (Call.act (.poll i))).past
      = some (.first (.poll i) (Call.act (.poll i)) p.state) := lastPoll_snoc_of_polls rfl
  refine .resting { call := .poll i, origin := p.state, number := 1, next := _ }
    (p.state.informer i) rfl rfl hshows.expired hshows.cursor rfl ?_ ?_
    ⟨_, hlast, .sleep (p.state.informer i).backoff, ?_⟩
  · rw [Interplay.begin, made, Stretch.first, Stretch.run, hadvance]
    exact hresyncing
  · rw [Interplay.begin, made, hnobody, hadvance]
    rfl
  · rw [Stretch.first, Stretch.run, hadvance]
    rfl

/-- A poll that begins when no other one is in progress. -/
theorem begin_poll (h : Situation i c p)
    (hclosed : ∀ s, (p.state.stream s).owner = some i → (p.state.stream s).closed = true)
    (hover : ¬ Polling p.past) : Situation i c (p.begin (.poll i) (Call.act (.poll i))) := by
  have hopen (s : StreamId) (busy : Bool) : ¬ Attended i c s busy p.state := by
    rintro ⟨expired, x, hx, hopen, -⟩
    have hshut := hclosed s (by rw [hx.stream, hx.owner])
    rw [hx.stream, hopen] at hshut
    cases hshut
  cases h with
  | between hagrees hnobody _ _ =>
    -- all streams are closed, so it is the flag that decides
    cases hagrees with
    | shut expired hshows =>
      cases expired with
      -- armed, it rests; so it does after a poll that was struck there
      | true => exact begin_resting hshows hnobody
      | false =>
        refine made_of_poll hnobody rfl (fun _ => hshows.expired) nofun rfl (meets_iff_advance.mp ?_).2
        exact (Act.poll_agrees hshows).before (fun _ _ _ hu => hu) fun _ _ _ hu => hu
    | «open» s hattended => exact absurd hattended (hopen s false)
  | struck hshows hnobody _ _ => exact begin_resting hshows hnobody
  | reading u s _ hattended => exact absurd hattended (hopen s true)
  | resting u it _ _ _ _ _ _ _ hpolls => exact absurd hpolls hover
  | asking u phase _ _ _ _ _ hpolls _ => exact absurd hpolls hover

/-- A call that begins. -/
theorem begin_call (h : Situation i c p) {call : Call} (hcall : call.InTurn i p.state)
    (hone : ∀ j, call = .poll j → ¬ Polling p.past) : Situation i c (p.begin call call.act) := by
  obtain ⟨phase, expired, but, hshows, hattended⟩ := h.shows
  -- of a stream that is not shut the consumer may ask something only when nobody reads it
  have hfree {s : StreamId} (hs : but = some s) (hbusy : (p.state.stream s).busy = false) :
      Attended i c s false p.state ∧ p.waiting = [] ∧ ¬ Polling p.past ∧ ¬ Struck p.past c := by
    obtain ⟨busy, ⟨expired, x, hx, hclosed, hx'⟩, hagrees⟩ := hattended s hs
    obtain rfl : busy = false := by rw [← hx', ← hx.stream, hbusy]
    exact ⟨⟨expired, x, hx, hclosed, hx'⟩, (hagrees rfl).2⟩
  cases call with
  | poll j =>
    obtain ⟨rfl, hclosed⟩ := hcall
    exact h.begin_poll hclosed (hone j rfl)
  | next s =>
    by_cases hs : but = some s
    · obtain ⟨hat, hnobody, hover, hfine⟩ := hfree hs hcall.2
      exact begin_next hat hnobody hover hfine
    · refine h.begin_aside hcall nofun hshows fun s' hs' => ⟨?_, nofun⟩
      rintro ⟨⟩
      exact hs hs'
  | close s =>
    by_cases hs : but = some s
    · obtain ⟨hat, hnobody, hover, hfine⟩ := hfree hs hcall.2
      exact begin_close hat hnobody hover hfine
    · refine h.begin_aside hcall nofun hshows fun s' hs' => ⟨nofun, ?_⟩
      rintro ⟨⟩
      exact hs hs'
  | setVersion j version => exact h.begin_aside hcall nofun hshows fun _ _ => ⟨nofun, nofun⟩
  | resetVersion j => exact h.begin_aside hcall nofun hshows fun _ _ => ⟨nofun, nofun⟩
  | _ => exact hcall.elim

/-- A poll that is in its backoff goes on or, struck, ends there. -/
theorem wake_resting {u : Waiting World Call Outcome} {it : Informer} (hcall : u.call = .poll i)
    (hnumber : u.number = 1) (horigin : (u.origin.cursor c).expired = true) (hsource : it.cursor = c)
    (hnext : u.next = Call.afterBackoff i it) (hshows : Shows i c .resyncing true none p.state)
    (answer : Wakeup) : Situation i c (p.wake u [] answer) := by
  have hlast : lastPoll (p.wake u [] answer).past = some (u.stretch answer p.state) :=
    lastPoll_snoc_of_polls (by rw [Stretch.polls, Waiting.stretch, Stretch.run, hcall])
  cases answer with
  | ok _ =>
    refine made_of_poll (p := { p with waiting := [] }) rfl hcall (fun hzero => ?_)
      (fun _ _ => rfl) rfl (meets_iff_advance.mp ?_).2
    · exact absurd (hzero.symm.trans hnumber) Nat.zero_ne_one
    · rw [hnext]
      exact (Act.afterBackoff_agrees hsource hshows).before (fun _ _ _ hu => hu) fun _ _ _ hu => hu
  | error failure =>
    -- nothing brings the phase back
    have hadvance : (u.next (.error failure)).advance p.state = (p.state, .fail failure) := by
      rw [hnext]
      rfl
    refine .struck ?_ ?_ ?_ ⟨_, hlast, hnumber, horigin, by rintro ⟨⟩⟩
    · rw [Interplay.wake, made, Waiting.stretch, Stretch.run, hadvance]
      exact hshows
    · rw [Interplay.wake, made, hadvance]
      rfl
    · refine not_polling_of_lastPoll hlast fun what hwaits => ?_
      rw [Waiting.stretch, Stretch.run, hadvance] at hwaits
      cases hwaits

/-- The call that waits goes on. -/
theorem wake {earlier later : List (Waiting World Call Outcome)} {u : Waiting World Call Outcome}
    (h : Situation i c p) (hwaiting : p.waiting = earlier ++ u :: later) (answer : Wakeup) :
    Situation i c (p.wake u (earlier ++ later) answer) := by
  -- only one call waits, and it is this one
  have hone {v : Waiting World Call Outcome} (hv : p.waiting = [v]) :
      v = u ∧ earlier ++ later = [] := by
    rw [hv] at hwaiting
    rcases List.singleton_eq_append_iff.mp hwaiting with ⟨rfl, hrest⟩ | ⟨-, hrest⟩
    · cases hrest
      exact ⟨rfl, rfl⟩
    · cases hrest
  have hnobody (hnone : p.waiting = []) : False := by
    rw [hnone] at hwaiting
    exact absurd hwaiting.symm (by simp)
  cases h with
  | between _ hnone => exact (hnobody hnone).elim
  | struck _ hnone => exact (hnobody hnone).elim
  | reading v s hcall hattended hv hover hfine hnext =>
    -- the read goes on
    obtain ⟨rfl, hleft⟩ := hone hv
    exact made_of_read (p := { p with waiting := earlier ++ later }) hleft hcall hover hfine
      (meets_iff_advance.mp (hnext answer p.state hattended)).2
  | resting v it hcall hnumber horigin hsource hnext hshows hv _ =>
    -- the backoff is over, or struck
    obtain ⟨rfl, hleft⟩ := hone hv
    rw [hleft]
    exact wake_resting hcall hnumber horigin hsource hnext hshows answer
  | asking v phase hcall hlater hfirst hshows hv _ hnext =>
    -- the request goes on
    obtain ⟨rfl, hleft⟩ := hone hv
    refine made_of_poll (p := { p with waiting := earlier ++ later }) hleft hcall ?_ ?_ rfl
      (meets_iff_advance.mp (hnext answer p.state ⟨phase, hshows⟩)).2
    · intro hzero
      exact absurd hzero (Nat.pos_iff_ne_zero.mp hlater)
    · intro hnumber horigin
      rw [show ((v.stretch answer p.state).origin.cursor c).expired = _ from hfirst hnumber]
        at horigin
      cases horigin

end Situation

/-- Wherever a consumer that polls in turn has come to, it has a situation. -/
theorem Reaches.situation {i : InformerId} {c : CursorId} {w : World} (hw : Agrees i c w)
    {p : Interplay World Call Outcome} (h : Reaches (pollingInTurn i c) w p)
    (hturn : OneAtATime p.past) : Situation i c p := by
  -- over the run; each step takes the consumer from one situation to another
  induction h with
  | start =>
    refine .between hw rfl ?_ ?_
    · rintro ⟨x, hx, -⟩
      cases hx
    · rintro ⟨x, hx, -⟩
      cases hx
  | @begin p call _ hallowed ih =>
    refine (ih hturn.of_snoc).begin_call hallowed fun j hj => ?_
    subst hj
    exact hturn p.past _ [] rfl rfl rfl
  | @wake p earlier u later answer _ hwaiting _ ih => exact (ih hturn.of_snoc).wake hwaiting answer
  | elsewhere _ hothers ih => exact (ih hturn).aside hothers rfl rfl

/-! ### What the phase tells -/

/-- The last stream that a poll of the informer gave has not been closed. -/
def Watched (i : InformerId) (w : World) : Prop :=
  ∃ s, (w.stream s).owner = some i ∧ (w.stream s).closed = false ∧
    ∀ s', (w.stream s').owner = some i → s' ≤ s

/-- An informer that has not polled yet is idle, and its cursor is not armed. -/
theorem Agrees.of_fresh {i : InformerId} {c : CursorId} {w : World} (hi : i < w.informers.length)
    (hcursor : (w.informer i).cursor = c) (hphase : (w.informer i).phase = .idle)
    (hc : c < w.cursors.length) (hclear : (w.cursor c).expired = false)
    (hnone : ∀ s, (w.stream s).owner ≠ some i) : Agrees i c w :=
  .shut false ⟨hi, hcursor, hphase, hc, hclear, fun s hs => absurd hs (hnone s)⟩

/-- The phase of an informer tells whether the flag of its cursor is armed, and whether its last
stream is open. -/
structure PhaseTells (i : InformerId) (c : CursorId) (w : World) : Prop where
  desynced : (w.informer i).phase = .desynced ↔ (w.cursor c).expired = true
  watching : (w.informer i).phase = .watching ↔ (w.cursor c).expired = false ∧ Watched i w
  idle : (w.informer i).phase = .idle ↔ (w.cursor c).expired = false ∧ ¬ Watched i w
  not_resyncing : (w.informer i).phase ≠ .resyncing

section

variable {i : InformerId} {c : CursorId} {phase : Phase} {expired : Bool} {w : World}

/-- When all streams are shut, no last one is open. -/
theorem Shows.not_watched (h : Shows i c phase expired none w) : ¬ Watched i w := by
  rintro ⟨s, howner, hopen, -⟩
  rw [(h.shut s howner nofun).1] at hopen
  cases hopen

/-- Between two polls, with all streams shut, the phase tells the flag. -/
theorem Shows.tells (h : Shows i c (.due expired false) expired none w) : PhaseTells i c w := by
  have hclosed := h.not_watched
  constructor
  all_goals
    rw [h.phase]
    try rw [h.expired]
    cases expired <;> simp [Phase.due, hclosed]

/-- Whether the stream is being read is no matter of the phase. -/
theorem Attended.tells {s : StreamId} {busy : Bool} (h : Attended i c s busy w) :
    PhaseTells i c w := by
  obtain ⟨expired, x, hx, hopen, -⟩ := h
  have hwatched : Watched i w := ⟨s, by rw [hx.stream, hx.owner], by rw [hx.stream, hopen], hx.last⟩
  constructor
  all_goals
    rw [hx.phase]
    try rw [hx.expired]
    cases expired <;> simp [Phase.due, hwatched]

end

/-- **What the phase tells.**  A consumer polls one informer, one poll at a time and each after the
streams before it have been closed; reads, closes, requests and backoffs come to whatever they may.
Whenever no poll is in progress, and the last one was not struck in its backoff, the phase tells the
flag and whether the last stream is open.  A poll that is struck in its backoff leaves the phase as
it was there: resyncing, with the flag armed. -/
theorem phase_tells {i : InformerId} {c : CursorId} {w : World} (hw : Agrees i c w)
    {p : Interplay World Call Outcome} (h : Reaches (pollingInTurn i c) w p)
    (hturn : OneAtATime p.past) (hover : ¬ Polling p.past) :
    (¬ Struck p.past c → PhaseTells i c p.state) ∧
    (Struck p.past c → (p.state.informer i).phase = .resyncing ∧
      (p.state.cursor c).expired = true ∧ ¬ Watched i p.state) := by
  -- of the five situations, two have a poll in progress
  cases Reaches.situation hw h hturn with
  | between hagrees _ _ hfine =>
    refine ⟨fun _ => ?_, fun hstruck => absurd hstruck hfine⟩
    cases hagrees with
    | shut expired hshows => exact hshows.tells
    | «open» s hattended => exact hattended.tells
  | struck hshows _ _ hstruck =>
    exact ⟨fun hfine => absurd hstruck hfine, fun _ =>
      ⟨hshows.phase, hshows.expired, hshows.not_watched⟩⟩
  | reading u s _ hattended _ _ hfine _ =>
    exact ⟨fun _ => hattended.tells, fun hstruck => absurd hstruck hfine⟩
  | resting u it _ _ _ _ _ _ _ hpolls => exact absurd hpolls hover
  | asking u phase _ _ _ _ _ hpolls _ => exact absurd hpolls hover

/-- A caller polls, reads that the version has expired, and closes the stream. -/
def expiryRead : Interplay World Call Outcome := inTurn expiring [.poll 0, .next 0, .close 0]

/-- Then it polls again. -/
def pollAfterExpiry : Interplay World Call Outcome :=
  expiryRead.begin (.poll 0) (Call.act (.poll 0))

/-- This poll, in its backoff. -/
def pollInBackoff : Waiting World Call Outcome := pollAfterExpiry.waiting.head (List.cons_ne_nil _ _)

/-- The poll is cancelled there. -/
def backoffStruck : Interplay World Call Outcome :=
  pollAfterExpiry.wake pollInBackoff [] (.error .cancelled)

theorem expiring_agrees : Agrees 0 0 expiring :=
  .of_fresh Nat.one_pos rfl rfl Nat.one_pos rfl fun _ => (Option.some_ne_none 0).symm

theorem expiryRead_reaches :
    Reaches (pollingInTurn 0 0) expiring expiryRead ∧ OneAtATime expiryRead.past ∧
      ¬ Polling expiryRead.past := by
  have hpoll : Call.InTurn 0 expiring (.poll 0) :=
    ⟨rfl, fun _ howner => absurd howner (Option.some_ne_none 0).symm⟩
  have hfirst : OneAtATime (inTurn expiring [.poll 0]).past :=
    OneAtATime.nil.snoc fun _ _ => not_polling_nil
  refine ⟨.begin (.begin (.begin .start hpoll) ⟨rfl, rfl⟩) ⟨rfl, rfl⟩, ?_, ?_⟩
  · exact (hfirst.snoc_other rfl).snoc_other rfl
  · have hlast : lastPoll expiryRead.past
        = some (.first (.poll 0) (Call.act (.poll 0)) expiring) := rfl
    exact not_polling_of_lastPoll hlast (by rintro _ ⟨⟩)

/-- After the expiry the phase is `desynced`. -/
theorem expiryRead_desynced : (expiryRead.state.informer 0).phase = .desynced := by
  obtain ⟨hreaches, hturn, hover⟩ := expiryRead_reaches
  have hfine : ¬ Struck expiryRead.past 0 := by
    rintro ⟨x, hx, hnumber, -⟩
    cases hx
    cases hnumber
  exact ((phase_tells expiring_agrees hreaches hturn hover).1 hfine).desynced.mpr rfl

/-- A poll that is cancelled in its backoff leaves its informer resyncing. -/
theorem backoffStruck_stays_resyncing :
    ∃ p, Reaches (pollingInTurn 0 0) expiring p ∧ OneAtATime p.past ∧ ¬ Polling p.past ∧
      (p.state.cursor 0).expired = true ∧ (p.state.informer 0).phase = .resyncing := by
  obtain ⟨hreaches, hturn, hover⟩ := expiryRead_reaches
  have hpoll : Call.InTurn 0 expiryRead.state (.poll 0) := by
    refine ⟨rfl, fun s howner => ?_⟩
    cases s with
    | zero => rfl
    | succ n => exact absurd howner (Option.some_ne_none 0).symm
  have hbackoff : Reaches (pollingInTurn 0 0) expiring pollAfterExpiry := .begin hreaches hpoll
  have hstruck : Reaches (pollingInTurn 0 0) expiring
      (pollAfterExpiry.wake pollInBackoff ([] ++ []) (.error .cancelled)) :=
    hbackoff.wake (u := pollInBackoff) rfl trivial
  refine ⟨backoffStruck, hstruck, ?_, ?_, rfl, rfl⟩
  · exact (hturn.snoc fun _ _ => hover).snoc fun _ hnumber => absurd hnumber Nat.one_ne_zero
  · have hlast : lastPoll backoffStruck.past
        = some (pollInBackoff.stretch (.error .cancelled) pollAfterExpiry.state) := rfl
    exact not_polling_of_lastPoll hlast (by rintro _ ⟨⟩)

end ResumableWatch
