import ResumableWatch.Informer
import ResumableWatch.Proofs.World.Change
/-!
# Reading and closing are steady

A relation that tolerates changes of connections is kept by each change that reading from one and
closing it makes (`nextItem_steady`, `closeConnection_steady`), and one that tolerates changes of
streams as well by closing a stream (`closeStream_steady`).  What is left out is the observation of
an item.  Opening a connection is as steady (`openConnection_steady`): once it has issued its
request, it waits for nothing but the answer (`meet_steady`).
-/

namespace ResumableWatch

/-- The waits for the answer of a server. -/
def Answer.Awaited (answer : Answer) (w : Wait) : Prop :=
  (∃ seconds, answer.delay = some seconds ∧ w = .sleep seconds) ∨ w = .forever

namespace Act

open ResumableWatch.Fiber

variable {P : World → World → Prop} {waits : Wait → Prop}

/-! ### Small steps -/

theorem log_steady (h : TolerantOfLogs P) (level : Log.Level) (component event : String)
    (fields : List (String × Json)) : Steady P waits (log level component event fields) :=
  Steady.update fun w => h.log w level component event fields 0

theorem setPhase_steady (h : Tolerant P) (i : InformerId) (phase : Phase) :
    Steady P waits (setPhase i phase) :=
  Steady.update fun w => h.informer w i _ fun _ => ⟨⟨rfl, rfl, rfl⟩, rfl⟩

theorem keep_steady (h : TolerantOfConnections P) (c : ConnectionId) (pending : List Element) :
    Steady P waits (keep c pending) :=
  Steady.update fun w => h.keep w c pending

theorem endFrames_steady (h : TolerantOfClosing P) (c : ConnectionId) : Steady P waits (endFrames c) :=
  Steady.update fun w => h.connection w c _ fun _ => ⟨rfl, rfl⟩

theorem addConnection_steady {connection : Connection}
    (hopened : ∀ w, P w { w with connections := w.connections ++ [connection] }) :
    Steady P waits (addConnection connection) :=
  Steady.state.bind fun _ => (Steady.update hopened).bind fun _ => Steady.pure _

theorem recordHandedOver_steady (h : TolerantOfDecoding P) (handedOver : Option (String × String)) :
    Steady P waits (recordHandedOver handedOver) := by
  cases handedOver with
  | none => exact Steady.pure ()
  | some handed => exact Steady.update fun w => h.handedOver w _ _

/-! ### Closing a connection -/

theorem markClosed_steady (h : TolerantOfClosing P) (c : ConnectionId) :
    Steady P waits (markClosed c) := by
  intro w₀ w
  -- the test and the change are made in one state, so what the test found is known of the change
  rw [markClosed, meets_bind, meets_state, byOutcome_ok]
  cases hclosed : (w.connection c).closed with
  | true => exact trivial
  | false => exact ⟨h.closed w c hclosed, trivial⟩

theorem failClosing_steady (c : ConnectionId) : Steady P waits (failClosing c) := by
  refine Steady.state.bind fun w => ?_
  split
  · exact Steady.fail _
  · exact Steady.pure ()

theorem closeResponse_steady (h : TolerantOfClosing P) (c : ConnectionId) :
    Steady P waits (closeResponse c) := by
  refine Steady.state.bind fun w => ?_
  split
  · exact Steady.pure ()
  · exact (markClosed_steady h c).bind fun _ => failClosing_steady c

theorem closeConnection_steady (h : TolerantOfClosing P) (c : ConnectionId) :
    Steady P waits (closeConnection c) := by
  refine Steady.state.bind fun w => ?_
  dsimp only
  split
  · split
    · exact (markClosed_steady h c).bind fun _ => failClosing_steady c
    · exact Steady.pure ()
  · exact (endFrames_steady h c).bind fun _ => closeResponse_steady h c

/-! ### Reading from a connection -/

theorem sleep_steady (hwaits : ∀ w, waits w) (seconds : Double) : Steady P waits (sleep seconds) :=
  Steady.await (hwaits _)

theorem readItem_steady (h : TolerantOfConnections P) (hwaits : ∀ w, waits w) (c : ConnectionId)
    (elements : List Element) : Steady P waits (readItem c elements) := by
  induction elements with
  | nil => exact Steady.pure none
  | cons e rest ih =>
    cases e with
    | delay seconds =>
      exact (keep_steady h c rest).bind fun _ => (sleep_steady hwaits seconds).bind fun _ => ih
    | block => exact (keep_steady h c rest).bind fun _ => (Steady.await (hwaits _)).bind fun _ => ih
    | raise failure => exact (keep_steady h c rest).bind fun _ => Steady.fail failure
    | line bytes => exact (keep_steady h c rest).bind fun _ => ih
    | item handedOver made =>
      exact (keep_steady h c rest).bind fun _ =>
        (recordHandedOver_steady h.toTolerantOfDecoding handedOver).bind fun _ =>
          (Steady.ofExcept made).bind fun _ => Steady.pure _

theorem readLine_steady (h : TolerantOfConnections P) (hwaits : ∀ w, waits w) (c : ConnectionId)
    (elements : List Element) : Steady P waits (readLine c elements) := by
  induction elements with
  | nil => exact Steady.pure none
  | cons e rest ih =>
    cases e with
    | delay seconds =>
      exact (keep_steady h c rest).bind fun _ => (sleep_steady hwaits seconds).bind fun _ => ih
    | block => exact (keep_steady h c rest).bind fun _ => (Steady.await (hwaits _)).bind fun _ => ih
    | raise failure => exact (keep_steady h c rest).bind fun _ => Steady.fail failure
    | item handedOver made => exact (keep_steady h c rest).bind fun _ => ih
    | line bytes =>
      refine (keep_steady h c rest).bind fun _ => ?_
      split
      · exact Steady.pure none
      · split
        · exact ih
        · exact Steady.pure _

theorem decodeLine_steady (h : TolerantOfDecoding P) (c : ConnectionId) (decoder : Option Decoder)
    (line : List UInt8) : Steady P waits (decodeLine c decoder line) := by
  refine (recordHandedOver_steady h _).bind fun _ => ?_
  split
  · exact Steady.pure _
  · exact (endFrames_steady h.toTolerantOfClosing c).bind fun _ => Steady.fail _

theorem nextFrame_steady (h : TolerantOfConnections P) (hwaits : ∀ w, waits w) (c : ConnectionId)
    (decoder : Option Decoder) : Steady P waits (nextFrame c decoder) := by
  refine Steady.state.bind fun w => ?_
  dsimp only
  split
  · exact Steady.pure none
  · refine (readLine_steady h hwaits c _).attempt.bind fun r => ?_
    split
    · exact (decodeLine_steady h.toTolerantOfDecoding c decoder _).bind fun _ => Steady.pure _
    · exact (endFrames_steady h.toTolerantOfClosing c).bind fun _ => Steady.pure none
    · refine (endFrames_steady h.toTolerantOfClosing c).bind fun _ => ?_
      split
      · exact Steady.pure _
      · exact Steady.fail _

theorem nextItem_steady (h : TolerantOfConnections P) (hwaits : ∀ w, waits w) (c : ConnectionId) :
    Steady P waits (nextItem c) := by
  refine Steady.state.bind fun w => ?_
  dsimp only
  split
  · split
    · exact Steady.pure none
    · exact readItem_steady h hwaits c _
  · refine (nextFrame_steady h hwaits c _).bind fun r => ?_
    split
    · exact Steady.pure _
    · exact (closeResponse_steady h.toTolerantOfClosing c).bind fun _ => Steady.pure none

/-! ### Closing a stream -/

theorem setProgress_steady (h : TolerantOfStreams P) (s : StreamId) (progress : Progress) :
    Steady P waits (setProgress s progress) :=
  Steady.update fun w => h.stream w s _ fun _ => ⟨rfl, rfl, rfl⟩

theorem addStream_steady (h : TolerantOfOpening P) (stream : Stream) :
    Steady P waits (addStream stream) :=
  Steady.state.bind fun _ => (Steady.update fun w => h.added w stream).bind fun _ => Steady.pure _

theorem endObservation_steady (h : TolerantOfStreams P) (s : StreamId) :
    Steady P waits (endObservation s) :=
  (setProgress_steady h s _).bind fun _ => Steady.state.bind fun _ =>
    closeConnection_steady h.toTolerantOfClosing _

theorem closeObservation_steady (h : TolerantOfStreams P) (s : StreamId) :
    Steady P waits (closeObservation s) := by
  refine Steady.state.bind fun w => ?_
  dsimp only
  split
  · exact Steady.fail _
  · split
    · exact setProgress_steady h s _
    · exact endObservation_steady h s
    · exact Steady.pure ()

/-- An observed item is entered with an informer, if with any. -/
theorem noteObserved_meets {owner : Option InformerId} {item : Item} {terms : Terms World}
    {post : World → Except Failure Unit → World → Prop} {w₀ w : World}
    (hsame : post w₀ (.ok ()) w)
    (hnoted : ∀ i,
      let noted := w.changeInformer i fun it => { it with observed := item :: it.observed }
      terms.change w noted ∧ post w₀ (.ok ()) noted) :
    (noteObserved owner item).Meets terms post w₀ w := by
  cases owner with
  | none => exact hsame
  | some i => exact hnoted i

theorem pollEnded_steady (h : Tolerant P) (owner : Option InformerId) :
    Steady P waits (pollEnded owner) := by
  cases owner with
  | none => exact Steady.pure ()
  | some i =>
    refine (Steady.update fun w => h.informer w i _ fun it => ?_).bind fun _ =>
      Steady.state.bind fun _ => log_steady h.toTolerantOfLogs _ _ _ _
    exact ⟨⟨rfl, rfl, rfl⟩, rfl⟩

theorem closeStream_steady (h : TolerantOfStreams P) (s : StreamId) :
    Steady P waits (closeStream s) := by
  refine Steady.state.bind fun w => ?_
  dsimp only
  split
  · exact Steady.pure ()
  · refine Steady.bind (Steady.update fun w => h.stream w s _ fun _ => ⟨rfl, rfl, rfl⟩) fun _ => ?_
    exact Steady.ensure (pollEnded_steady h.toTolerant _) <|
      (closeObservation_steady h s).bind fun _ => closeConnection_steady h.toTolerantOfClosing _

/-! ### Opening a connection -/

theorem meet_steady (answer : Answer) (hwaits : ∀ w, Answer.Awaited answer w → waits w) :
    Steady P waits (meet answer) := by
  unfold meet
  rcases hd : answer.delay with _ | seconds
  all_goals dsimp only
  on_goal 2 => refine (Steady.await (hwaits _ (.inl ⟨seconds, hd, rfl⟩))).bind fun _ => ?_
  -- with or without a delay, the reply is met in the same way
  all_goals
    split
    · exact Steady.fail _
    · exact (Steady.await (hwaits _ (.inr rfl))).bind fun _ => Steady.fail _
    · exact Steady.pure _

/-- The request alone, without the connection that it opens. -/
theorem request_steady (hserver : ∀ w server, P w { w with server })
    (hrequest : ∀ w operation arguments, P w (w.record (.request operation arguments)))
    (hwaits : ∀ w, waits w) (transport : Transport) (query : Query) :
    Steady P waits (request transport query) :=
  Steady.state.bind fun _ => (Steady.update fun w => hserver w _).bind fun _ =>
    (Steady.update fun w => hrequest w _ _).bind fun _ => meet_steady _ fun w _ => hwaits w

theorem openConnection_steady (h : TolerantOfRequests P) (hwaits : ∀ w, waits w)
    (transport : Transport) (query : Query) : Steady P waits (openConnection transport query) := by
  have hrequest := request_steady h.server h.request hwaits transport query
  cases transport with
  | feed => exact hrequest.bind fun _ => addConnection_steady fun w => h.opened w _ rfl
  | http endpoint =>
    exact (hrequest.recover fun _ => Steady.fail _).bind fun _ =>
      (log_steady h.toTolerantOfLogs _ _ _ _).bind fun _ => addConnection_steady fun w => h.opened w _ rfl

end Act

end ResumableWatch
