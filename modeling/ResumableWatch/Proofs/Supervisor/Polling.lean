import ResumableWatch.PollLoop
import ResumableWatch.Proofs.Informer.Backoff
import ResumableWatch.Proofs.Stream.Reading
/-!
# Polling is steady

A relation that tolerates all that a poll loop does is kept by each change that a round of it makes,
if the handler keeps it (`pollRound_steady`).  What a round leaves alone is read off from this, one
relation at a time, and no claim is made about the order in which things are done.  A handler that is
not steady may still have a property that is passed on along sequences (`Sequential`); the round has
it then (`pollRound_passes`).

Where the order does matter, `meets_pollRound`, `meets_pollOnce` and `meets_drain` say what is left
to be shown of a round once its first steps have been made.

What is noted as handed on is noted at the call of the handler: a handler that enters the items that
it is given enters just those (`pollRound_enters_handed`).
-/

namespace ResumableWatch

open ResumableWatch.Fiber

/-- Observations are tolerated with all else that is done to read from a stream. -/
theorem TolerantOfReading.observing {P : World → World → Prop} (h : TolerantOfReading P) :
    Observing P where
  log w level component event fields := h.log w level component event fields 0
  metrics := h.metrics
  cursor := h.cursor
  informer w i f hf := h.informer w i f fun it => (hf it).2

/-- A property of fibers that the steady ones have, and that is passed on along sequences. -/
structure Sequential (P : World → World → Prop) (waits : Wait → Prop)
    (Q : (α : Type) → Act α → Prop) : Prop where
  steady : ∀ {α : Type} {m : Act α}, Steady P waits m → Q α m
  bind : ∀ {α β : Type} {m : Act α} {f : α → Act β}, Q α m → (∀ a, Q β (f a)) → Q β (m >>= f)
  attempt : ∀ {α : Type} {m : Act α}, Q α m → Q (Except Failure α) m.attempt

namespace Sequential

variable {P : World → World → Prop} {waits : Wait → Prop} {Q : (α : Type) → Act α → Prop}
  {α : Type} {m : Act α}

theorem of_steady : Sequential P waits fun _ m => Steady P waits m :=
  ⟨fun hm => hm, fun hm hf => hm.bind hf, fun hm => hm.attempt⟩

/-- What is known since the stretch began is passed on, if what is steady carries it on. -/
theorem of_meets {terms : Terms World} {Known : World → World → Prop}
    (hsteady : ∀ {α : Type} {m : Act α}, Steady P waits m →
      ∀ w₀ w, Known w₀ w → m.Meets terms (fun w₀ _ w => Known w₀ w) w₀ w) :
    Sequential P waits fun _ m =>
      ∀ w₀ w, Known w₀ w → m.Meets terms (fun w₀ _ w => Known w₀ w) w₀ w where
  steady := hsteady
  bind hm hf w₀ w h := by
    rw [meets_bind]
    refine (hm w₀ w h).mono fun v₀ r v hv => ?_
    cases r with
    | ok a => exact hf a v₀ v hv
    | error e => exact hv
  attempt hm w₀ w h := by
    rw [meets_attempt]
    exact hm w₀ w h

theorem recover (hQ : Sequential P waits Q) {handler : Failure → Act α} (hm : Q α m)
    (hhandler : ∀ e, Q α (handler e)) : Q α (m.recover handler) := by
  refine hQ.bind (hQ.attempt hm) fun r => ?_
  cases r with
  | ok a => exact hQ.steady (Steady.pure a)
  | error e => exact hhandler e

theorem ensure (hQ : Sequential P waits Q) {last : Act Unit} (hlast : Q Unit last) (hm : Q α m) :
    Q α (Fiber.ensure last m) :=
  hQ.bind (hQ.attempt hm) fun r => hQ.bind hlast fun _ => hQ.steady (Steady.ofExcept r)

end Sequential

namespace Act

/-- What is done with the stream of a poll: its items are taken, and it is closed whatever happens. -/
def drain (handler : Item → Act Unit) (s : SupervisorId) (stream : StreamId) : Act Unit := do
  let bound ← readsLeft stream
  Fiber.ensure (closeStream stream) (consume handler s stream bound)

variable {P : World → World → Prop} {waits : Wait → Prop} {handler : Item → Act Unit}

/-! ### A round, step by step -/

section Stepwise

variable {terms : Terms World} {s : SupervisorId} {w₀ w : World}

/-- A round without a poll ends the loop; a poll that fails leaves the end to its failure. -/
theorem meets_pollRound {post : World → Except Failure Bool → World → Prop} :
    (pollRound handler s).Meets terms post w₀ w ↔
      if (w.supervisor s).running then
        (pollOnce handler s).Meets terms (fun t₀ r t =>
          match r with
          | .ok _ => post t₀ (.ok true) t
          | .error failure => (answerFailure s failure).Meets terms post t₀ t) w₀ w
      else post w₀ (.ok false) w := by
  rw [pollRound, meets_bind, supervisor, meets_gets, byOutcome_ok]
  split
  · rw [meets_bind, meets_attempt]
    refine meets_congr fun t₀ r t => ?_
    cases r with
    | ok _ => exact Iff.rfl
    | error failure => exact Iff.rfl
  · exact Iff.rfl

theorem meets_pollOnce {post : World → Except Failure Unit → World → Prop} :
    (pollOnce handler s).Meets terms post w₀ w ↔
      (poll (w.supervisor s).informer).Meets terms (byOutcome
        (fun t₀ stream t => (drain handler s stream).Meets terms post t₀ t)
        fun t₀ e t => post t₀ (.error e) t) w₀ w := by
  rw [pollOnce, meets_bind, supervisor, meets_gets, byOutcome_ok, meets_bind]
  rfl

/-- There are no more items than elements, and one more read for the end. -/
theorem meets_drain {stream : StreamId} {post : World → Except Failure Unit → World → Prop} :
    (drain handler s stream).Meets terms post w₀ w ↔
      let bound := (w.connection (w.stream stream).connection).pending.length + 1
      (consume handler s stream bound).Meets terms (fun t₀ r t =>
        (closeStream stream).Meets terms
          (byOutcome (fun u₀ _ u => post u₀ r u) fun u₀ e u => post u₀ (.error e) u) t₀ t) w₀ w := by
  rw [drain, readsLeft, meets_bind, meets_bind, meets_state, byOutcome_ok, meets_pure, byOutcome_ok,
    meets_ensure]

end Stepwise

/-! ### Reading from a stream -/

theorem failObservation_steady (h : TolerantOfStreams P) (s : StreamId) (failure : Failure) :
    Steady P waits (failObservation s failure : Act (Option Item)) :=
  (endObservation_steady h s).bind fun _ => Steady.fail failure

theorem noteObserved_steady (h : TolerantOfReading P) (owner : Option InformerId) (item : Item) :
    Steady P waits (noteObserved owner item) := by
  cases owner with
  | none => exact Steady.pure ()
  | some i => exact Steady.update fun w => h.observed w i item

theorem readObserved_steady (h : TolerantOfReading P) (hwaits : ∀ w, waits w) (s : StreamId) :
    Steady P waits (readObserved s) := by
  refine Steady.state.bind fun w =>
    (nextItem_steady h.toTolerantOfConnections hwaits _).attempt.bind fun r => ?_
  split
  · exact failObservation_steady h.toTolerantOfStreams s _
  · exact (endObservation_steady h.toTolerantOfStreams s).bind fun _ => Steady.pure none
  · refine (observe_steady h.observing _ _).attempt.bind fun r => ?_
    split
    · exact failObservation_steady h.toTolerantOfStreams s _
    · exact (noteObserved_steady h _ _).bind fun _ => Steady.pure _

theorem setBusy_steady (h : TolerantOfStreams P) (s : StreamId) (busy : Bool) :
    Steady P waits (setBusy s busy) :=
  Steady.update fun w => h.stream w s _ fun _ => ⟨rfl, rfl, rfl⟩

theorem nextOfStream_steady (h : TolerantOfReading P) (hwaits : ∀ w, waits w) (s : StreamId) :
    Steady P waits (nextOfStream s) := by
  have hobserved : Steady P waits (nextObserved s) := by
    refine Steady.state.bind fun w => ?_
    dsimp only
    split
    · exact Steady.fail _
    · split
      · exact Steady.pure none
      · exact (setProgress_steady h.toTolerantOfStreams s _).bind fun _ =>
          (setBusy_steady h.toTolerantOfStreams s true).bind fun _ =>
            (setBusy_steady h.toTolerantOfStreams s false).ensure (readObserved_steady h hwaits s)
  refine hobserved.bind fun r => ?_
  split
  · exact Steady.pure _
  · exact (closeStream_steady h.toTolerantOfStreams s).bind fun _ => Steady.pure none

/-! ### Opening a stream -/

theorem settle_steady (h : TolerantOfRewinding P) (c : CursorId) (name : String) :
    Steady P waits (settle c name) := by
  refine (Steady.gets _).bind fun k => ?_
  have hlast : Steady P waits (changeCursor c Cursor.clear >>= fun _ => pure k.expired) :=
    (Steady.update fun w => h.clear w c).bind fun _ => Steady.pure _
  dsimp only
  split
  · refine Steady.bind ?_ fun _ => hlast
    exact (Steady.update fun w => h.reset w c).bind fun _ =>
      (Steady.update fun w => h.metrics w _).bind fun _ => log_steady h.toTolerantOfLogs _ _ _ _
  · exact (log_steady h.toTolerantOfLogs _ _ _ _).bind fun _ => hlast

theorem resync_steady (h : TolerantOfRewinding P) (hwaits : ∀ w, waits w) (c : CursorId)
    (name : String) (backoff : Double) : Steady P waits (resync c name backoff) := by
  rw [resync_eq]
  refine (Steady.gets _).bind fun k => ?_
  split
  · exact Steady.pure false
  · exact (log_steady h.toTolerantOfLogs _ _ _ _).bind fun _ =>
      (Steady.update fun w => h.metrics w _).bind fun _ =>
        (sleep_steady hwaits backoff).bind fun _ => settle_steady h c name

theorem ask_steady (h : TolerantOfAsking P) (hwaits : ∀ w, waits w) (i : InformerId)
    (it : Informer) : Steady P waits (ask i it) := by
  refine (Steady.gets _).bind fun k => (log_steady h.toTolerantOfLogs _ _ _ _).bind fun _ =>
    (Steady.update fun w => h.metrics w _).bind fun _ => Steady.bind ?_ fun connection =>
      (setPhase_steady h.toTolerant i .watching).bind fun _ =>
        addStream_steady h.toTolerantOfOpening _
  exact (openConnection_steady h.requests hwaits _ _).recover fun failure =>
    (setPhase_steady h.toTolerant i .idle).bind fun _ => Steady.fail failure

theorem poll_steady (h : TolerantOfAsking P) (hwaits : ∀ w, waits w) (i : InformerId) :
    Steady P waits (poll i) := by
  rw [poll_eq]
  exact (Steady.gets _).bind fun it => (noteResync_steady h.toTolerant i it).bind fun _ =>
    (resync_steady h.toTolerantOfRewinding hwaits _ _ _).bind fun _ => ask_steady h hwaits i it

/-! ### One round -/

theorem logOf_steady (h : TolerantOfLogs P) (s : SupervisorId) (level : Log.Level) (event : String)
    (fields : List (String × Json)) : Steady P waits (logOf s level event fields) :=
  ((Steady.gets _).bind fun _ => (Steady.gets _).bind fun _ => Steady.pure _).bind fun _ =>
    log_steady h _ _ _ _

theorem answerHandler_steady (h : TolerantOfLogs P) (s : SupervisorId) (failure : Failure) :
    Steady P waits (answerHandler s failure) := by
  rw [answerHandler]
  split
  · exact ((Steady.gets _).bind fun _ => (Steady.gets _).bind fun _ => Steady.pure _).bind fun _ =>
      Steady.update fun w => h.log w _ _ _ _ _
  · exact Steady.fail failure

theorem retryAfter_steady (h : TolerantOfLogs P) (hwaits : ∀ w, waits w) (s : SupervisorId)
    (failure : Failure) : Steady P waits (retryAfter s failure) := by
  unfold retryAfter
  split
  all_goals
    exact (Steady.gets _).bind fun _ => (logOf_steady h s _ _ _).bind fun _ =>
      sleep_steady hwaits _

theorem answerFailure_steady (h : TolerantOfLogs P) (hwaits : ∀ w, waits w) (s : SupervisorId)
    (failure : Failure) : Steady P waits (answerFailure s failure) := by
  unfold answerFailure
  split
  · exact Steady.fail failure
  · split
    · exact (retryAfter_steady h hwaits s _).bind fun _ => Steady.pure true
    · refine (Steady.gets _).bind fun it => ?_
      split
      · exact (retryAfter_steady h hwaits s _).bind fun _ => Steady.pure true
      · exact Steady.pure false

section Handler

variable {Q : (α : Type) → Act α → Prop}

theorem dispatch_passes (hQ : Sequential P waits Q) (h : TolerantOfHanding P)
    (hhandler : ∀ item, Q Unit (handler item)) (s : SupervisorId) (item : Item) :
    Q Unit (dispatch handler s item) := by
  refine hQ.bind (hQ.steady (Steady.update fun w => h.handed w s item)) fun _ => ?_
  refine hQ.recover (hhandler item) fun failure => hQ.steady ?_
  exact answerHandler_steady h.toTolerantOfLogs s failure

variable {s : SupervisorId}

theorem consume_passes (hQ : Sequential P waits Q) (h : TolerantOfReading P)
    (hwaits : ∀ w, waits w) (hdispatch : ∀ item, Q Unit (dispatch handler s item))
    (stream : StreamId) (bound : Nat) : Q Unit (consume handler s stream bound) := by
  induction bound with
  | zero => exact hQ.steady (Steady.pure ())
  | succ bound ih =>
    refine hQ.bind (hQ.steady (nextOfStream_steady h hwaits stream)) fun r => ?_
    split
    · exact hQ.steady (Steady.pure ())
    · refine hQ.bind (hQ.steady (Steady.gets _)) fun it => ?_
      split
      · exact hQ.bind (hdispatch _) fun _ => ih
      · exact hQ.steady (Steady.pure ())

/-- The part of a poll round behind the poll. -/
theorem drain_passes (hQ : Sequential P waits Q) (h : TolerantOfReading P)
    (hwaits : ∀ w, waits w) (hdispatch : ∀ item, Q Unit (dispatch handler s item))
    (stream : StreamId) : Q Unit (drain handler s stream) := by
  refine hQ.bind (hQ.steady (Steady.state.bind fun _ => Steady.pure _)) fun bound => ?_
  exact hQ.ensure (hQ.steady (closeStream_steady h.toTolerantOfStreams stream))
    (consume_passes hQ h hwaits hdispatch stream bound)

theorem pollOnce_passes (hQ : Sequential P waits Q) (h : TolerantOfReading P)
    (hasking : TolerantOfAsking P) (hwaits : ∀ w, waits w)
    (hdispatch : ∀ item, Q Unit (dispatch handler s item)) : Q Unit (pollOnce handler s) := by
  refine hQ.bind (hQ.steady (Steady.gets _)) fun _ => ?_
  refine hQ.bind (hQ.steady (poll_steady hasking hwaits _)) fun stream => ?_
  exact drain_passes hQ h hwaits hdispatch stream

/-- A round of the poll loop has what is passed on along sequences, if each item is dispatched so. -/
theorem pollRound_passes (hQ : Sequential P waits Q) (h : TolerantOfReading P)
    (hasking : TolerantOfAsking P) (hwaits : ∀ w, waits w)
    (hdispatch : ∀ item, Q Unit (dispatch handler s item)) : Q Bool (pollRound handler s) := by
  refine hQ.bind (hQ.steady (Steady.gets _)) fun it => ?_
  split
  · refine hQ.bind (hQ.attempt (pollOnce_passes hQ h hasking hwaits hdispatch)) fun r => ?_
    split
    · exact hQ.steady (Steady.pure true)
    · exact hQ.steady (answerFailure_steady h.toTolerantOfLogs hwaits s _)
  · exact hQ.steady (Steady.pure false)

end Handler

/-- A round of the poll loop keeps what tolerates all that it does, if its handler does. -/
theorem pollRound_steady (h : TolerantOfPolling P) (hwaits : ∀ w, waits w)
    (hhandler : ∀ item, Steady P waits (handler item)) (s : SupervisorId) :
    Steady P waits (pollRound handler s) :=
  pollRound_passes .of_steady h.toTolerantOfReading h.toTolerantOfAsking hwaits
    (dispatch_passes .of_steady h.toTolerantOfHanding hhandler s)

/-- So does a round of the status reporter. -/
theorem statusRound_steady (h : TolerantOfLogs P) (hwaits : ∀ w, waits w) (s : SupervisorId) :
    Steady P waits (statusRound s) := by
  refine (Steady.gets _).bind fun it => ?_
  split
  · exact (sleep_steady hwaits _).bind fun _ => (Steady.gets _).bind fun _ =>
      (Steady.gets _).bind fun _ => (logOf_steady h s _ _ _).bind fun _ => Steady.pure true
  · exact Steady.pure false

/-! ### What the handler is given -/

end Act

/-- The item that is entered, if one is. -/
def Happening.item? : Happening → Option Item
  | .item i => some i
  | _ => none

namespace World

variable {s : SupervisorId} {w w' w'' : World}

/-- The items that were entered as having reached a handler, the newest one first. -/
def itemsEntered (w : World) : List Item := w.journal.filterMap (·.what.item?)

/-- Nothing is handed on, and no item is entered. -/
structure Reticent (s : SupervisorId) (w w' : World) : Prop where
  length : w.supervisors.length ≤ w'.supervisors.length
  handed : (w'.supervisor s).handed = (w.supervisor s).handed
  entered : w'.itemsEntered = w.itemsEntered

/-- The items that were handed on from one state to another are those that were entered. -/
structure EntersHanded (s : SupervisorId) (w w' : World) : Prop where
  length : w.supervisors.length ≤ w'.supervisors.length
  entered : ∃ items, (w'.supervisor s).handed = items ++ (w.supervisor s).handed ∧
    w'.itemsEntered = items ++ w.itemsEntered

theorem Reticent.of_same (hsupervisors : w'.supervisors = w.supervisors)
    (hentered : w'.itemsEntered = w.itemsEntered) : Reticent s w w' where
  length := Nat.le_of_eq (congrArg List.length hsupervisors.symm)
  handed := by rw [supervisor, supervisor, hsupervisors]
  entered := hentered

/-- A round hands nothing on of its own accord, but for what it notes as handed on. -/
theorem reticent_reading : TolerantOfReading (Reticent s) where
  log w level component event fields lines := by
    refine .of_same (log_supervisors w level component event fields lines) ?_
    obtain ⟨entries, heq, hall⟩ := log_written w level component event fields lines
    -- Lines of the log are no items.
    have hnone : entries.filterMap (·.what.item?) = [] := by
      refine List.filterMap_eq_nil_iff.mpr fun e he => ?_
      rcases hall e he with ⟨l, h⟩ | ⟨text, h⟩
      · exact congrArg Happening.item? h
      · exact congrArg Happening.item? h
    rw [heq, itemsEntered, itemsEntered, List.filterMap_append, hnone, List.nil_append]
  closed _ _ _ := .of_same rfl rfl
  handedOver _ _ _ := .of_same rfl rfl
  metrics _ _ := .of_same rfl rfl
  connection _ _ _ _ := .of_same rfl rfl
  keep _ _ _ := .of_same rfl rfl
  informer _ _ _ _ := .of_same rfl rfl
  stream _ _ _ _ := .of_same rfl rfl
  cursor _ _ _ := .of_same rfl rfl
  observed _ _ _ := .of_same rfl rfl

theorem reticent_asking : TolerantOfAsking (Reticent s) where
  toTolerantOfRewinding := reticent_reading.rewinding
  stream := reticent_reading.stream
  opened _ _ _ := .of_same rfl rfl
  added _ _ := .of_same rfl rfl
  server _ _ := .of_same rfl rfl
  request _ _ _ := .of_same rfl rfl

namespace EntersHanded

theorem refl (w : World) : EntersHanded s w w := ⟨Nat.le_refl _, [], rfl, rfl⟩

theorem reticent (h : EntersHanded s w w') (hquiet : Reticent s w' w'') : EntersHanded s w w'' where
  length := Nat.le_trans h.length hquiet.length
  entered := by
    obtain ⟨items, hhanded, hentered⟩ := h.entered
    exact ⟨items, hquiet.handed.trans hhanded, hquiet.entered.trans hentered⟩

/-- An item is noted as handed on, and then entered. -/
theorem hand (h : EntersHanded s w w') (hs : s < w'.supervisors.length) (item : Item) :
    EntersHanded s w ((w'.changeSupervisor s fun supervisor =>
      { supervisor with handed := item :: supervisor.handed }).record (.item item)) where
  length := by
    refine Nat.le_trans h.length (Nat.le_of_eq ?_)
    exact (length_changeSupervisor ..).symm
  entered := by
    obtain ⟨items, hhanded, hentered⟩ := h.entered
    refine ⟨item :: items, ?_, congrArg (item :: ·) hentered⟩
    refine (congrArg Supervisor.handed (supervisor_changeSupervisor hs _)).trans ?_
    exact congrArg (item :: ·) hhanded

end EntersHanded

end World

namespace Act

/-- A handler that enters each item that it is given, and then does what it does. -/
def entering (handler : Item → Act Unit) (item : Item) : Act Unit := do
  record (.item item)
  handler item

/-- **What is noted as handed on is what the handler is given.**  A handler that enters the items it
is given has entered those that were handed on, in order and each once, wherever a round waits and
when it ends, counted from where its stretch began.  So an item is noted in the stretch in which the
handler begins with it. -/
theorem pollRound_enters_handed {handler : Item → Act Unit} {s : SupervisorId}
    (hhandler : ∀ item, Steady (World.Reticent s) (fun _ => True) (handler item)) {w : World}
    (hs : s < w.supervisors.length) :
    (pollRound (entering handler) s).Meets
      { rely := fun v v' => v.supervisors.length ≤ v'.supervisors.length
        pause := fun v₀ _ v => v₀.EntersHanded s v }
      (fun v₀ _ v => v₀.EntersHanded s v) w w := by
  -- the supervisor that is noted down for has to be there in each stretch
  let Known (v₀ v : World) : Prop := s < v₀.supervisors.length ∧ v₀.EntersHanded s v
  let terms : Terms World :=
    { rely := fun v v' => v.supervisors.length ≤ v'.supervisors.length
      pause := fun v₀ _ v => v₀.EntersHanded s v }
  have hQ : Sequential (World.Reticent s) (fun _ => True) fun _ (m : Act _) =>
      ∀ v₀ v, Known v₀ v → m.Meets terms (fun v₀ _ v => Known v₀ v) v₀ v := by
    refine .of_meets fun hm v₀ v hv => hm.meets Known (fun t₀ what t answer t' ht hrely _ => ?_)
      (fun t₀ t t' ht hquiet => ⟨trivial, ht.1, ht.2.reticent hquiet⟩) (fun _ _ _ ht _ => ht.2)
      (fun _ _ _ ht => ht) hv
    exact ⟨Nat.lt_of_lt_of_le ht.1 (Nat.le_trans ht.2.length hrely), .refl t'⟩
  have hdispatch (item : Item) (v₀ v : World) (hv : Known v₀ v) :
      (dispatch (entering handler) s item).Meets terms (fun v₀ _ v => Known v₀ v) v₀ v := by
    have hthere : s < v.supervisors.length := Nat.lt_of_lt_of_le hv.1 hv.2.length
    rw [dispatch, noteHanded, meets_bind, meets_update, byOutcome_ok, meets_recover, entering,
      meets_bind, record, meets_update, byOutcome_ok]
    refine ⟨trivial, trivial, ?_⟩
    refine (hQ.steady (hhandler item) v₀ _ ⟨hv.1, hv.2.hand hthere item⟩).mono fun t₀ r t ht => ?_
    cases r with
    | ok _ => exact ht
    | error failure =>
      exact hQ.steady (answerHandler_steady World.reticent_reading.toTolerantOfLogs s failure) t₀ t ht
  refine (pollRound_passes hQ World.reticent_reading World.reticent_asking (fun _ => trivial)
    hdispatch w w ⟨hs, .refl w⟩).mono fun _ _ _ hv => hv.2

end Act

end ResumableWatch
