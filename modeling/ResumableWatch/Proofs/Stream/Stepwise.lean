import ResumableWatch.Proofs.Fiber.Terms
import ResumableWatch.Stream
/-!
# The calls on a stream, step by step

A call on a stream or on its connection looks at it first, and what it goes on with depends on what
it finds.  For each call and each finding there is one equivalence here, for any terms: what is left
to be shown of the call, once its first steps have been made.  Whoever proves something about these
calls goes by them, and never by how the calls are written down.
-/

namespace ResumableWatch.Act

open ResumableWatch.Fiber

variable {terms : Terms World} {s : StreamId} {w₀ w : World}

/-! ### Reading a body -/

section Body

variable {k : ConnectionId} {post : World → Except Failure (Option Item) → World → Prop}

/-- A line is entered before it is known whether it has an item, and without one the frames end. -/
theorem meets_decodeLine {decoder : Option Decoder} {line : List UInt8} :
    (decodeLine k decoder line >>= fun item => pure (some item)).Meets terms post w₀ w ↔
      (recordHandedOver (Frame.handedOver? decoder line)).Meets terms (byOutcome
        (fun t₀ _ t =>
          match Frame.item decoder line with
          | .ok item => post t₀ (.ok (some item)) t
          | .error failure =>
            let ended := t.changeConnection k fun connection => { connection with ended := true }
            terms.change t ended ∧ post t₀ (.error failure) ended)
        fun t₀ e t => post t₀ (.error e) t) w₀ w := by
  rw [meets_bind, decodeLine, meets_bind]
  cases Frame.item decoder line with
  | ok item => exact Iff.rfl
  | error failure => exact Iff.rfl

theorem meets_nextFrame_of_ended {decoder : Option Decoder}
    (hended : (w.connection k).ended = true) :
    (nextFrame k decoder).Meets terms post w₀ w ↔ post w₀ (.ok none) w := by
  unfold nextFrame
  rw [meets_bind, meets_state, byOutcome_ok]
  dsimp only
  rw [if_pos hended]
  rfl

/-- Unless there is a line the frames end, and a failure of the network is the last item. -/
theorem meets_nextFrame {decoder : Option Decoder} (hopen : (w.connection k).ended = false) :
    (nextFrame k decoder).Meets terms post w₀ w ↔
      (readLine k (w.connection k).pending).Meets terms (fun t₀ r t =>
        let ended := t.changeConnection k fun connection => { connection with ended := true }
        match r with
        | .error failure => terms.change t ended ∧
          if failure.interruptsStream then
            post t₀ (.ok (some (.failure (Connection.interruption failure)))) ended
          else post t₀ (.error failure) ended
        | .ok none => terms.change t ended ∧ post t₀ (.ok none) ended
        | .ok (some line) =>
          (decodeLine k decoder line >>= fun item => pure (some item)).Meets terms post t₀ t)
        w₀ w := by
  unfold nextFrame
  rw [meets_bind, meets_state, byOutcome_ok]
  dsimp only
  rw [hopen, if_neg Bool.false_ne_true, meets_bind, meets_attempt]
  refine meets_congr fun t₀ r t => ?_
  rw [byOutcome_ok]
  rcases r with failure | _ | line
  · dsimp only
    split
    · exact Iff.rfl
    · exact Iff.rfl
  · exact Iff.rfl
  · exact Iff.rfl

/-- A connection that is closed has no more ready items. -/
theorem meets_nextItem_of_feed (hfeed : (w.connection k).transport = .feed) :
    (nextItem k).Meets terms post w₀ w ↔
      if (w.connection k).closed then post w₀ (.ok none) w
      else (readItem k (w.connection k).pending).Meets terms post w₀ w := by
  unfold nextItem
  rw [meets_bind, meets_state, byOutcome_ok]
  dsimp only
  rw [hfeed]
  dsimp only
  split
  · exact meets_pure _
  · exact Iff.rfl

/-- When the frames have run out the response is closed. -/
theorem meets_nextItem_of_http {endpoint : Endpoint}
    (hhttp : (w.connection k).transport = .http endpoint) :
    (nextItem k).Meets terms post w₀ w ↔
      (nextFrame k endpoint.decoder).Meets terms (fun t₀ r t =>
        match r with
        | .error failure => post t₀ (.error failure) t
        | .ok none => (closeResponse k >>= fun _ => pure none).Meets terms post t₀ t
        | .ok (some item) => post t₀ (.ok (some item)) t) w₀ w := by
  unfold nextItem
  rw [meets_bind, meets_state, byOutcome_ok]
  dsimp only
  rw [hhttp]
  dsimp only
  rw [meets_bind]
  refine meets_congr fun t₀ r t => ?_
  rcases r with failure | _ | item
  · exact Iff.rfl
  · exact Iff.rfl
  · exact Iff.rfl

end Body

/-! ### Observing -/

section Observing

variable {post : World → Except Failure (Option Item) → World → Prop}

/-- A stream that somebody reads is not read by anybody else. -/
theorem meets_nextObserved_of_busy (hbusy : (w.stream s).busy = true) :
    (nextObserved s).Meets terms post w₀ w ↔ post w₀ (.error (.reading "anext")) w := by
  unfold nextObserved
  rw [meets_bind, meets_state, byOutcome_ok]
  dsimp only
  rw [if_pos hbusy]
  rfl

/-- Once the observation is over nothing comes of it any more. -/
theorem meets_nextObserved_of_over (hbusy : (w.stream s).busy = false)
    (hover : (w.stream s).progress = .over) :
    (nextObserved s).Meets terms post w₀ w ↔ post w₀ (.ok none) w := by
  unfold nextObserved
  rw [meets_bind, meets_state, byOutcome_ok]
  dsimp only
  rw [hbusy, if_neg Bool.false_ne_true, if_pos hover]
  rfl

/-- A read begins the observation, if that has not been done, and keeps others away meanwhile. -/
theorem meets_nextObserved (hbusy : (w.stream s).busy = false)
    (hover : (w.stream s).progress ≠ .over) :
    (nextObserved s).Meets terms post w₀ w ↔
      let opened := w.changeStream s fun stream => { stream with progress := .open }
      let reading := opened.changeStream s fun stream => { stream with busy := true }
      terms.change w opened ∧ terms.change opened reading ∧
        (readObserved s).Meets terms (fun t₀ r t =>
          let free := t.changeStream s fun stream => { stream with busy := false }
          terms.change t free ∧ post t₀ r free) w₀ reading := by
  unfold nextObserved
  rw [meets_bind, meets_state, byOutcome_ok]
  dsimp only
  rw [hbusy, if_neg Bool.false_ne_true, if_neg hover, setProgress, meets_bind, meets_update,
    byOutcome_ok, setBusy, meets_bind, meets_update, byOutcome_ok, meets_ensure]
  simp only [setBusy, meets_update, byOutcome_ok]

/-- What is made of what the connection comes to. -/
theorem meets_readObserved :
    (readObserved s).Meets terms post w₀ w ↔
      (nextItem (w.stream s).connection).Meets terms (fun t₀ r t =>
        match r with
        | .error failure => (failObservation s failure : Act (Option Item)).Meets terms post t₀ t
        | .ok none => (endObservation s >>= fun _ => pure none).Meets terms post t₀ t
        | .ok (some item) =>
          (observe (w.stream s) item).Meets terms (fun u₀ r u =>
            match r with
            | .error failure =>
              (failObservation s failure : Act (Option Item)).Meets terms post u₀ u
            | .ok _ =>
              (noteObserved (w.stream s).owner item).Meets terms
                (byOutcome (fun v₀ _ v => post v₀ (.ok (some item)) v)
                  fun v₀ e v => post v₀ (.error e) v) u₀ u) t₀ t) w₀ w := by
  unfold readObserved
  rw [meets_bind, meets_state, byOutcome_ok]
  dsimp only
  rw [meets_bind, meets_attempt]
  refine meets_congr fun t₀ r t => ?_
  rw [byOutcome_ok]
  rcases r with failure | _ | item
  · exact Iff.rfl
  · exact Iff.rfl
  · dsimp only
    rw [meets_bind, meets_attempt]
    refine meets_congr fun u₀ r u => ?_
    cases r with
    | error failure => exact Iff.rfl
    | ok _ => exact meets_bind _ _

/-- The end of what is observed closes the stream. -/
theorem meets_nextOfStream :
    (nextOfStream s).Meets terms post w₀ w ↔
      (nextObserved s).Meets terms (fun t₀ r t =>
        match r with
        | .error failure => post t₀ (.error failure) t
        | .ok none => (closeStream s >>= fun _ => pure none).Meets terms post t₀ t
        | .ok (some item) => post t₀ (.ok (some item)) t) w₀ w := by
  rw [nextOfStream, meets_bind]
  refine meets_congr fun t₀ r t => ?_
  rcases r with failure | _ | item
  · exact Iff.rfl
  · exact Iff.rfl
  · exact Iff.rfl

end Observing

/-! ### Closing -/

section Closing

variable {post : World → Except Failure Unit → World → Prop}

/-- The observation is over before its connection is closed. -/
theorem meets_endObservation :
    (endObservation s).Meets terms post w₀ w ↔
      let ended := w.changeStream s fun stream => { stream with progress := .over }
      terms.change w ended ∧
        (closeConnection (ended.stream s).connection).Meets terms post w₀ ended := by
  rw [endObservation, meets_bind, setProgress, meets_update, byOutcome_ok, meets_bind, meets_state,
    byOutcome_ok]

/-- An observation is not closed below a read. -/
theorem meets_closeObservation_of_busy (hbusy : (w.stream s).busy = true) :
    (closeObservation s).Meets terms post w₀ w ↔ post w₀ (.error (.reading "aclose")) w := by
  unfold closeObservation
  rw [meets_bind, meets_state, byOutcome_ok]
  dsimp only
  rw [if_pos hbusy]
  rfl

/-- An observation that has not begun has nothing to close. -/
theorem meets_closeObservation (hbusy : (w.stream s).busy = false) :
    (closeObservation s).Meets terms post w₀ w ↔
      match (w.stream s).progress with
      | .fresh =>
        let ended := w.changeStream s fun stream => { stream with progress := .over }
        terms.change w ended ∧ post w₀ (.ok ()) ended
      | .open => (endObservation s).Meets terms post w₀ w
      | .over => post w₀ (.ok ()) w := by
  unfold closeObservation
  rw [meets_bind, meets_state, byOutcome_ok]
  dsimp only
  rw [hbusy, if_neg Bool.false_ne_true]
  cases (w.stream s).progress with
  | fresh => exact meets_update _
  | «open» => exact Iff.rfl
  | «over» => exact meets_pure _

theorem meets_closeStream_of_closed (hclosed : (w.stream s).closed = true) :
    (closeStream s).Meets terms post w₀ w ↔ post w₀ (.ok ()) w := by
  unfold closeStream
  rw [meets_bind, meets_state, byOutcome_ok]
  dsimp only
  rw [if_pos hclosed]
  rfl

/-- Whatever comes of closing what is below, the informer is told in the end. -/
theorem meets_closeStream (hclosed : (w.stream s).closed = false) :
    (closeStream s).Meets terms post w₀ w ↔
      let closed := w.changeStream s fun stream => { stream with closed := true }
      terms.change w closed ∧
        (closeObservation s).Meets terms (byOutcome
          (fun t₀ _ t => (closeConnection (w.stream s).connection).Meets terms (fun u₀ r u =>
            (pollEnded (w.stream s).owner).Meets terms (byOutcome (fun v₀ _ v => post v₀ r v)
              fun v₀ e v => post v₀ (.error e) v) u₀ u) t₀ t)
          fun t₀ e t => (pollEnded (w.stream s).owner).Meets terms
            (byOutcome (fun v₀ _ v => post v₀ (.error e) v) fun v₀ e v => post v₀ (.error e) v)
            t₀ t) w₀ closed := by
  unfold closeStream
  rw [meets_bind, meets_state, byOutcome_ok]
  dsimp only
  rw [hclosed, if_neg Bool.false_ne_true, meets_bind, meets_update, byOutcome_ok, meets_ensure,
    meets_bind]

end Closing

end ResumableWatch.Act
