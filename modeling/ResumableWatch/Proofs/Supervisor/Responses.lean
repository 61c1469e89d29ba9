import ResumableWatch.Proofs.Application.Steady
import ResumableWatch.Proofs.Stream.Closing
/-!
# One response at a time

A supervised informer over HTTP holds at most one response that has not been closed.  Its poll loop
opens one at a time, and closes it before the next request, whatever the request, the body, the
observation, the handler and the closing itself come to, and wherever a cancellation strikes
(`pollRound_closes`).

Since no other loop is at work meanwhile, every request of a whole run finds all responses closed,
and so does the end of every stop (`requests_find_all_closed`).

That a response is closed is what its record says; the journal says it too, since each change closes a
response exactly if it enters a closing (`World.Entered`).  So all responses are closed exactly if
there are as many closings in the journal as there are responses (`inSession_allClosed_iff`).
-/

namespace ResumableWatch

open ResumableWatch.Fiber

/-! ### Closed responses -/

namespace World

variable {w w' : World} {k : ConnectionId}

/-- All responses that were ever obtained have been closed. -/
def AllClosed (w : World) : Prop := ∀ connection ∈ w.connections, connection.closed = true

/-- All responses but one have been closed. -/
def ClosedBut (k : ConnectionId) (w : World) : Prop :=
  ∀ k', k' ≠ k → (w.connection k').closed = true

theorem allClosed_iff : w.AllClosed ↔ ∀ k, (w.connection k).closed = true := by
  constructor
  · intro h k
    rw [connection]
    cases hfound : w.connections[k]? with
    | none => rfl
    | some found => exact h found (List.mem_of_getElem? hfound)
  · intro h found hmem
    obtain ⟨k, hfound⟩ := List.mem_iff_getElem?.mp hmem
    have hclosed := h k
    rw [connection, hfound] at hclosed
    exact hclosed

theorem ClosedBut.all (h : w.ClosedBut k) (hk : (w.connection k).closed = true) : w.AllClosed := by
  refine allClosed_iff.mpr fun k' => ?_
  by_cases heq : k' = k
  · rw [heq]
    exact hk
  · exact h k' heq

/-- The response of a new connection is the only one that may be open. -/
theorem AllClosed.opened (h : w.AllClosed) (connection : Connection) :
    ({ w with connections := w.connections ++ [connection] } : World).ClosedBut
      w.connections.length := by
  intro k hk
  refine allClosed_iff.mp h k ▸ ?_
  show (((w.connections ++ [connection])[k]?).getD default).closed = (w.connection k).closed
  rcases Nat.lt_or_gt_of_ne hk with hlt | hgt
  · rw [List.getElem?_append_left hlt]
    rfl
  · have hnone : (w.connections ++ [connection])[k]? = none := by
      apply List.getElem?_eq_none
      rw [List.length_append, List.length_singleton]
      exact hgt
    rw [hnone, World.connection, List.getElem?_eq_none (Nat.le_of_lt hgt)]

/-! ### Closings that were entered -/

/-- How many responses have been closed. -/
def closedCount (w : World) : Nat := w.connections.countP (·.closed)

/-- A change that closes a response exactly if it enters a closing, and opens none again. -/
structure Entered (w w' : World) : Prop where
  length : w.connections.length ≤ w'.connections.length
  closed : ∀ k < w.connections.length, (w.connection k).closed = true →
    (w'.connection k).closed = true
  entered : w'.closings + w.closedCount = w.closings + w'.closedCount

namespace Entered

/-- Neither the connections nor the closings are touched. -/
theorem of_same (hclosings : w'.closings = w.closings) (hconnections : w'.connections = w.connections) :
    Entered w w' where
  length := Nat.le_of_eq (congrArg List.length hconnections.symm)
  closed k _ h := by
    rw [connection, hconnections]
    exact h
  entered := by rw [hclosings, closedCount, closedCount, hconnections]

theorem changeConnection (w : World) (k : ConnectionId) {f : Connection → Connection}
    (hf : ∀ x, (f x).closed = x.closed) : Entered w (w.changeConnection k f) where
  length := Nat.le_of_eq (List.length_modify ..).symm
  closed k' _ h := (part_changeConnection Connection.closed w k k' hf).trans h
  entered := by
    have hmap : (w.connections.modify k f).map Connection.closed =
        w.connections.map Connection.closed :=
      (map_modify_through (g := id) hf w.connections k).trans (List.modify_id ..)
    have hcount : (w.changeConnection k f).closedCount = w.closedCount := by
      have h := congrArg (List.countP id) hmap
      rw [List.countP_map, List.countP_map] at h
      exact h
    rw [hcount]
    rfl

/-- An open response that is marked as closed is one more, and so is its closing. -/
theorem markClosed (hopen : (w.connection k).closed = false) : Entered w (w.markClosed k) where
  length := Nat.le_of_eq (List.length_modify ..).symm
  closed k' _ h := by
    rcases connection_changeConnection_cases w k k'
      fun connection => { connection with closed := true } with heq | heq
    · exact (congrArg Connection.closed heq).trans h
    · exact congrArg Connection.closed heq
  entered := by
    -- what stands for a connection that is not there counts as closed
    have hk : k < w.connections.length := by
      by_contra hk
      rw [connection, List.getElem?_eq_none (Nat.le_of_not_lt hk)] at hopen
      cases hopen
    rw [connection, List.getElem?_eq_getElem hk] at hopen
    have hcount : (w.markClosed k).closedCount = w.closedCount + 1 := by
      show (w.connections.modify k _).countP _ = _
      rw [List.modify_eq_set, List.countP_set hk]
      simp only [Option.getD_some] at hopen
      simp [hopen, closedCount]
    have hclosings : (w.markClosed k).closings = w.closings + 1 := List.countP_cons_of_pos rfl
    rw [hcount, hclosings, Nat.add_right_comm, Nat.add_assoc]

end Entered

/-- Whatever a poll loop does, it closes responses and enters that, or does neither. -/
theorem entered_polling : TolerantOfPolling Entered where
  log w level component event fields lines :=
    .of_same (closings_log w level component event fields lines)
      (log_connections w level component event fields lines)
  closed _ _ hopen := .markClosed hopen
  handedOver _ _ _ := .of_same (List.countP_cons_of_neg Bool.false_ne_true) rfl
  metrics _ _ := .of_same rfl rfl
  connection w k f hf := .changeConnection w k fun x => (hf x).closed
  keep w k _ := .changeConnection w k fun _ => rfl
  informer _ _ _ _ := .of_same rfl rfl
  stream _ _ _ _ := .of_same rfl rfl
  cursor _ _ _ := .of_same rfl rfl
  reset _ _ := .of_same rfl rfl
  clear _ _ := .of_same rfl rfl
  observed _ _ _ := .of_same rfl rfl
  opened w connection hopen := by
    refine ⟨?_, fun k hk h => ?_, ?_⟩
    · rw [List.length_append]
      exact Nat.le_add_right _ _
    · rw [World.connection, List.getElem?_append_left hk]
      exact h
    · have hcount : (w.connections ++ [connection]).countP (·.closed) = w.closedCount := by
        rw [List.countP_append, List.countP_singleton, hopen]
        rfl
      exact congrArg (w.closings + ·) hcount.symm
  added _ _ := .of_same rfl rfl
  server _ _ := .of_same rfl rfl
  request _ _ _ := .of_same (List.countP_cons_of_neg Bool.false_ne_true) rfl
  handed _ _ _ := .of_same rfl rfl

/-- Nor does an application touch the responses in any other way. -/
theorem entered_running : TolerantOfRunning Entered where
  toTolerantOfReading := entered_polling.toTolerantOfReading
  record _ what hwhat := by
    refine .of_same (List.countP_cons_of_neg ?_) rfl
    cases what with
    | close => cases hwhat
    | _ => exact Bool.false_ne_true
  books _ _ _ _ := .of_same rfl rfl
  supervisor _ _ _ _ := .of_same rfl rfl
  application _ _ _ := .of_same rfl rfl
  rehearsal _ _ := .of_same rfl rfl

/-- As many closings have been entered as responses have been closed. -/
def Balanced (w : World) : Prop := w.closings = w.closedCount

theorem Entered.balanced (h : Entered w w') (hw : w.Balanced) : w'.Balanced := by
  have hentered := h.entered
  rw [hw, Nat.add_comm] at hentered
  exact Nat.add_left_cancel hentered

/-- In a run whose jobs touch the responses in no other way, the closings that have been entered are
those of the responses that have been closed. -/
theorem Balanced.of_reaches {work : Work} {first r : Run} (hfirst : first.world.Balanced)
    (hwork : ∀ job, Steady Entered (fun _ => True) (work job)) (hactive : first.active = none)
    (hwaiting : first.waiting = []) (h : Run.Reaches work first r) : r.world.Balanced := by
  refine (h.keeps_all (fun _ _ hw => hw) (fun job => ?_) ⟨hfirst, ?_, ?_⟩).holds
  · exact (hwork job).mono (fun _ _ hentered => hentered.balanced) fun _ h => h
  · intro fiber hfiber
    rw [hactive] at hfiber
    cases hfiber
  · intro e he
    rw [hwaiting] at he
    cases he

/-- All responses are closed exactly if as many closings have been entered as there are
responses. -/
theorem Balanced.allClosed_iff (h : w.Balanced) :
    w.AllClosed ↔ w.closings = w.connections.length := by
  rw [h, closedCount, List.countP_eq_length]
  rfl

end World

namespace Supervised

variable {S : Supervised} {w w' : World} {s : StreamId} {k : ConnectionId} {g : Gauge}

/-- The supervisor polls its informer, which is there, over HTTP. -/
structure OverHttp (S : Supervised) (w : World) : Prop where
  served : (w.supervisor S.supervisor).informer = S.informer
  there : S.informer < w.informers.length
  http : ∃ endpoint, (w.informer S.informer).transport = .http endpoint

theorem OverHttp.of_same (h : S.OverHttp w) (hsame : S.Same w w') : S.OverHttp w' where
  served := hsame.served.trans h.served
  there := Nat.lt_of_lt_of_le h.there hsame.informers
  http := by
    rw [hsame.informer.transport]
    exact h.http

/-- A change by which no response becomes open. -/
structure Tidy (S : Supervised) (w w' : World) : Prop where
  closed : ∀ k, (w.connection k).closed = true → (w'.connection k).closed = true
  overHttp : S.OverHttp w → S.OverHttp w'

/-- Such a change that issues no request either. -/
structure Reading (S : Supervised) (w w' : World) : Prop extends S.Tidy w w' where
  quiet : World.asked? w w' = none

theorem Tidy.of_parts (hconnections : w'.connections = w.connections)
    (hinformers : w'.informers = w.informers) (hsupervisors : w'.supervisors = w.supervisors) :
    S.Tidy w w' where
  closed k h := by
    rw [World.connection, hconnections]
    exact h
  overHttp h := by
    refine ⟨?_, ?_, ?_⟩
    · rw [World.supervisor, hsupervisors]
      exact h.served
    · rw [hinformers]
      exact h.there
    · rw [World.informer, hinformers]
      exact h.http

theorem Tidy.changeInformer (w : World) (i : InformerId) {f : Informer → Informer}
    (hf : ∀ it : Informer, (f it).transport = it.transport) : S.Tidy w (w.changeInformer i f) where
  closed _ h := h
  overHttp h := by
    refine ⟨h.served, ?_, ?_⟩
    · rw [World.changeInformer, List.length_modify]
      exact h.there
    · rw [World.part_changeInformer Informer.transport w i S.informer hf]
      exact h.http

/-- Reading from a stream opens no response. -/
theorem tolerant_reading : TolerantOfReading S.Reading where
  log w level component event fields lines :=
    ⟨.of_parts (World.log_connections w level component event fields lines)
      (World.log_informers w level component event fields lines)
      (World.log_supervisors w level component event fields lines),
      World.asked?_log w level component event fields lines⟩
  closed w k hopen := by
    refine ⟨⟨fun k' h => ?_, fun h => ⟨h.served, h.there, h.http⟩⟩, World.asked?_of_entry rfl nofun⟩
    rcases World.connection_changeConnection_cases w k k'
      fun connection => { connection with closed := true } with heq | heq
    · exact (congrArg Connection.closed heq).trans h
    · exact congrArg Connection.closed heq
  handedOver _ _ _ := ⟨.of_parts rfl rfl rfl, World.asked?_of_entry rfl nofun⟩
  metrics _ _ := ⟨.of_parts rfl rfl rfl, World.asked?_of_journal rfl⟩
  connection w k f hf := by
    refine ⟨⟨fun k' h => ?_, fun h => ⟨h.served, h.there, h.http⟩⟩, World.asked?_of_journal rfl⟩
    exact (World.part_changeConnection Connection.closed w k k' fun x => (hf x).closed).trans h
  keep w k pending := by
    refine ⟨⟨fun k' h => ?_, fun h => ⟨h.served, h.there, h.http⟩⟩, World.asked?_of_journal rfl⟩
    refine (World.part_changeConnection Connection.closed w k k' ?_).trans h
    exact fun _ => rfl
  informer w i f hf := ⟨.changeInformer w i fun it => (hf it).transport, World.asked?_of_journal rfl⟩
  stream _ _ _ _ := ⟨.of_parts rfl rfl rfl, World.asked?_of_journal rfl⟩
  cursor _ _ _ := ⟨.of_parts rfl rfl rfl, World.asked?_of_journal rfl⟩
  observed w i _ := ⟨.changeInformer w i fun _ => rfl, World.asked?_of_journal rfl⟩

/-- No response is open. -/
structure AtRest (S : Supervised) (w : World) : Prop where
  overHttp : S.OverHttp w
  closed : w.AllClosed

theorem AtRest.of_tidy (h : S.AtRest w) (htidy : S.Tidy w w') : S.AtRest w' where
  overHttp := htidy.overHttp h.overHttp
  closed := World.allClosed_iff.mpr fun k => htidy.closed k (World.allClosed_iff.mp h.closed k)

theorem AtRest.of_same (h : S.AtRest w) (hsame : S.Same w w') : S.AtRest w' where
  overHttp := h.overHttp.of_same hsame
  closed := by
    rw [World.AllClosed, hsame.connections]
    exact h.closed

/-- The response of a stream is the only one that may be open; the gauge tells whether it is. -/
structure Sole (S : Supervised) (s : StreamId) (k : ConnectionId) (g : Gauge) (w : World) :
    Prop where
  overHttp : S.OverHttp w
  others : w.ClosedBut k
  stage : Stage s k S.informer g w

theorem Sole.of_lookup (h : S.Sole s k g w) (hhttp : S.OverHttp w')
    (hstreams : w'.streams = w.streams) (hconnections : w'.connections = w.connections)
    (hinformers : w.informers.length ≤ w'.informers.length) : S.Sole s k g w' where
  overHttp := hhttp
  others k' hk' := by
    rw [World.connection, hconnections]
    exact h.others k' hk'
  stage := h.stage.of_aside ⟨hstreams, hconnections⟩ hinformers

/-- Nobody reads the stream, and if its consumer has closed it its response is closed. -/
def Released (S : Supervised) (s : StreamId) (k : ConnectionId) (w : World) : Prop :=
  ∃ g, g.busy = false ∧ (g.closed = true → g.shut = true) ∧ S.Sole s k g w

theorem Sole.released {ended : Bool} {left : List Element} (h : S.Sole s k (.idle ended left) w) :
    S.Released s k w := ⟨.idle ended left, rfl, nofun, h⟩

theorem Sole.of_same (h : S.Sole s k g w) (hsame : S.Same w w') : S.Sole s k g w' :=
  h.of_lookup (h.overHttp.of_same hsame) hsame.streams hsame.connections hsame.informers

/-- A connection is new. -/
structure Opened (S : Supervised) (k : ConnectionId) (w : World) : Prop where
  overHttp : S.OverHttp w
  others : w.ClosedBut k
  opened : ∃ endpoint pending closeFailure,
    w.connection k = { transport := .http endpoint, pending, closeFailure }

/-- The poll loop sees to it that no response is open when it asks for another one, nor when it has
ended. -/
def closing (S : Supervised) : Duty S where
  Tended := S.OverHttp
  Settled := World.AllClosed
  Asks := World.AllClosed
  tended hsame h := h.of_same hsame
  settled hsame h := by
    rw [World.AllClosed, hsame.connections]
    exact h

end Supervised

open Supervised

/-! ### The parts of a round -/

section Round

variable {S : Supervised} {w₀ w : World} {s : StreamId} {k : ConnectionId} {g : Gauge}
  {α : Type} {waits : Wait → Prop}

/-- What opens no response does not matter while none is open. -/
theorem atRest_of_tidy {m : Act α} (hm : Steady S.Tidy (fun _ => True) m) (h : S.AtRest w) :
    m.Meets S.closing.tending (fun _ _ w => S.AtRest w) w₀ w :=
  Duty.tending_of_steady hm S.AtRest (fun _ _ hw htidy => ⟨fun _ => hw.closed, hw.of_tidy htidy⟩)
    (fun _ _ hsame hw => hw.of_same hsame) (fun _ hw => hw.overHttp) h

theorem atRest_of_reading {m : Act α} (hm : Steady S.Reading (fun _ => True) m) (h : S.AtRest w) :
    m.Meets S.closing.tending (fun _ _ w => S.AtRest w) w₀ w :=
  atRest_of_tidy (hm.mono (fun _ _ hreading => hreading.toTidy) fun _ h => h) h

theorem atRest_of_courteous {m : Act α} (hm : S.Courteous m) (h : S.AtRest w) :
    m.Meets S.closing.tending (fun _ _ w => S.AtRest w) w₀ w :=
  Duty.tending_of_courteous hm S.AtRest (fun _ _ hsame hw => hw.of_same hsame)
    (fun _ hw => hw.overHttp) h

theorem sole_of_courteous {m : Act α} (hm : S.Courteous m) (h : S.Sole s k g w) :
    m.Meets S.closing.tending (fun _ _ w => S.Sole s k g w) w₀ w :=
  Duty.tending_of_courteous hm (S.Sole s k g) (fun _ _ hsame hw => hw.of_same hsame)
    (fun _ hw => hw.overHttp) h

/-- What is known of a call on a stream goes together with what such a call does to the others. -/
theorem sole_of_stage {m : Act α} (hm : Steady S.Reading waits m) (h : S.Sole s k g w)
    {post : World → Except Failure α → World → Prop} {post' : Except Failure α → World → Prop}
    (hstage : m.Meets (attending s k S.informer) post w w)
    (hpost : ∀ u r v, S.OverHttp v → v.ClosedBut k → post u r v → post' r v) :
    m.Meets S.closing.tending (fun _ r v => post' r v) w₀ w := by
  have hothers : m.Meets S.closing.tending (fun _ _ v => S.OverHttp v ∧ v.ClosedBut k) w w := by
    refine Duty.tending_of_steady hm _ (fun v v' hv hreading => ?_) (fun v v' hsame hv => ?_)
      (fun _ hv => hv.1) ⟨h.overHttp, h.others⟩
    · refine ⟨fun hasked => absurd hreading.quiet hasked, hreading.overHttp hv.1, fun k' hk' => ?_⟩
      exact hreading.closed k' (hv.2 k' hk')
    · refine ⟨hv.1.of_same hsame, fun k' hk' => ?_⟩
      rw [World.connection, hsame.connections]
      exact hv.2 k' hk'
  refine (hstage.and hothers).imp (fun _ _ => True) (fun _ _ hchange => hchange.2)
    (fun _ _ _ _ _ hpause => hpause.2) (fun _ _ what v answer v' _ _ _ _ hresume => ?_)
    (fun _ u r v _ hboth => hpost u r v hboth.2.1 hboth.2.2 hboth.1) trivial
  -- others leave the stream and its connection alone
  refine ⟨⟨trivial, trivial⟩, ⟨fun g hg => ?_, trivial⟩, ⟨trivial, hresume⟩, trivial⟩
  exact hg.of_aside ⟨hresume.1.streams, hresume.1.connections⟩ hresume.1.informers

/-- A read of the stream: an item leaves it as it was, and without one all is closed. -/
theorem nextOfStream_sole {ended : Bool} {left : List Element}
    (h : S.Sole s k (.idle ended left) w) :
    (Act.nextOfStream s).Meets S.closing.tending (fun _ r w =>
      match r with
      | .ok (some _) => ∃ ended left, S.Sole s k (.idle ended left) w
      | _ => S.Released s k w) w₀ w := by
  refine sole_of_stage (Act.nextOfStream_steady tolerant_reading (fun _ => trivial) s) h
    (Act.nextOfStream_stage h.stage) fun u r v hhttp hothers hread => ?_
  rcases r with failure | _ | item
  · obtain ⟨left, hstage, -⟩ := hread
    exact ⟨.settled false left, rfl, nofun, hhttp, hothers, hstage⟩
  · obtain ⟨left, hstage, -⟩ := hread
    exact ⟨.settled true left, rfl, fun _ => rfl, hhttp, hothers, hstage⟩
  · obtain ⟨ended, left, hstage, -⟩ := hread
    exact ⟨ended, left, hhttp, hothers, hstage⟩

/-- The handler is given an item. -/
theorem dispatch_sole {handler : Item → Act Unit} (hhandler : ∀ item, S.Courteous (handler item))
    (h : S.Sole s k g w) (item : Item) :
    (Act.dispatch handler S.supervisor item).Meets S.closing.tending
      (fun _ _ w => S.Sole s k g w) w₀ w := by
  have hnoted : S.Sole s k g (w.changeSupervisor S.supervisor fun supervisor =>
      { supervisor with handed := item :: supervisor.handed }) := by
    refine h.of_lookup ⟨?_, h.overHttp.there, h.overHttp.http⟩ rfl rfl (Nat.le_refl _)
    refine (World.part_changeSupervisor Supervisor.informer w _ _ ?_).trans h.overHttp.served
    exact fun _ => rfl
  rw [Act.dispatch, Act.noteHanded, meets_bind, meets_update, byOutcome_ok]
  refine ⟨fun hasked => absurd (World.asked?_of_journal rfl) hasked, ?_⟩
  refine sole_of_courteous ((hhandler item).recover fun failure => ?_) hnoted
  exact Act.answerHandler_steady aloof_logs S.supervisor failure

/-- The items of a stream are handed on. -/
theorem consume_sole {handler : Item → Act Unit} (hhandler : ∀ item, S.Courteous (handler item))
    {bound : Nat} {ended : Bool} {left : List Element} (h : S.Sole s k (.idle ended left) w) :
    (Act.consume handler S.supervisor s bound).Meets S.closing.tending
      (fun _ _ w => S.Released s k w) w₀ w := by
  induction bound generalizing ended left w₀ w with
  | zero => exact h.released
  | succ bound ih =>
    rw [Act.consume, meets_bind]
    refine (nextOfStream_sole h).mono fun w₀ r w hread => ?_
    rcases r with failure | _ | item
    · exact hread
    · exact hread
    · obtain ⟨ended, left, hw⟩ := hread
      rw [byOutcome_ok]
      dsimp only
      rw [Act.supervisor, meets_bind, meets_gets, byOutcome_ok]
      split
      · exact (dispatch_sole hhandler hw item).before (fun _ _ _ hw => ih hw)
          fun _ _ _ hw => hw.released
      · exact hw.released

/-- Closing a stream closes its response, whether or not that fails. -/
theorem closeStream_sole (h : S.Released s k w) :
    (Act.closeStream s).Meets S.closing.tending (fun _ _ w => S.AtRest w) w₀ w := by
  obtain ⟨g, hbusy, hshut, hw⟩ := h
  have hsteady : Steady S.Reading (fun _ => True) (Act.closeStream s) :=
    Act.closeStream_steady tolerant_reading.toTolerantOfStreams s
  cases hclosed : g.closed with
  | true =>
    refine Act.closeStream_stage_of_closed hw.stage hclosed ⟨hw.overHttp, hw.others.all ?_⟩
    rw [hw.stage.shut]
    exact hshut hclosed
  | false =>
    have hdone : (Act.closeStream s).Meets (attending s k S.informer)
        (fun _ _ v => (v.connection k).closed = true) w w :=
      Act.closeStream_stage (fun _ _ => trivial) hw.stage hbusy hclosed
        fun _ _ hv _ _ => hv.shut
    exact sole_of_stage hsteady hw hdone fun _ _ v hhttp hothers hshut =>
      ⟨hhttp, hothers.all hshut⟩

/-! ### Polling -/

theorem openConnection_sole {transport : Transport} {query : Query}
    (hhttp : ∃ endpoint, transport = .http endpoint) (h : S.AtRest w) :
    (Act.openConnection transport query).Meets S.closing.tending
      (byOutcome (fun _ k w => S.Opened k w) fun _ _ w => S.AtRest w) w₀ w := by
  obtain ⟨endpoint, rfl⟩ := hhttp
  have hrequest : Steady S.Tidy (fun _ => True) (Act.request (.http endpoint) query) :=
    Act.request_steady (fun _ _ => .of_parts rfl rfl rfl) (fun _ _ _ => .of_parts rfl rfl rfl)
      (fun _ => trivial) _ query
  refine (atRest_of_tidy (hrequest.recover fun _ => Steady.fail _) h).before
    (fun reply w₀ w hw => ?_) fun _ _ _ hw => hw
  refine (atRest_of_reading (Act.log_steady tolerant_reading.toTolerantOfLogs _ _ _ _) hw).before
    (fun _ w₀ w hw => ?_) fun _ _ _ hw => hw
  rw [Act.addConnection, meets_bind, meets_state, byOutcome_ok, meets_bind, meets_update,
    byOutcome_ok]
  refine ⟨fun hasked => absurd (World.asked?_of_journal rfl) hasked, ⟨hw.overHttp.served,
    hw.overHttp.there, hw.overHttp.http⟩, hw.closed.opened _, endpoint, reply.1, reply.2.1, ?_⟩
  rw [World.connection, List.getElem?_concat_length]
  rfl

theorem addStream_sole (h : S.Opened k w) {cursor : CursorId} {name : String} :
    (Act.addStream { connection := k, cursor, name, owner := some S.informer }).Meets
      S.closing.tending (byOutcome (fun _ s w => ∃ left, S.Sole s k (.idle false left) w)
        fun _ _ _ => False) w₀ w := by
  obtain ⟨hhttp, hothers, endpoint, pending, closeFailure, hopened⟩ := h
  rw [Act.addStream, meets_bind, meets_state, byOutcome_ok, meets_bind, meets_update, byOutcome_ok]
  refine ⟨fun hasked => absurd (World.asked?_of_journal rfl) hasked, pending,
    ⟨hhttp.served, hhttp.there, hhttp.http⟩, hothers, ?_⟩
  let stream : Stream := { connection := k, cursor, name, owner := some S.informer }
  have hadded := w.stream_added stream
  refine ⟨?there, ?connection, ?owner, hhttp.there, ⟨endpoint, ?transport⟩, ?gauge⟩
  case there =>
    rw [List.length_append]
    exact Nat.lt_succ_self _
  case connection => rw [hadded]
  case owner => rw [hadded]
  case transport =>
    show (w.connection k).transport = _
    rw [hopened]
  case gauge =>
    rw [World.gauge, hadded]
    show (⟨_, _, _, (w.connection k).ended, (w.connection k).closed, (w.connection k).pending⟩ :
      Gauge) = _
    rw [hopened]
    rfl

theorem ask_sole {it : Informer} (hhttp : ∃ endpoint, it.transport = .http endpoint)
    (h : S.AtRest w) :
    (Act.ask S.informer it).Meets S.closing.tending
      (byOutcome (fun _ s w => ∃ k left, S.Sole s k (.idle false left) w) fun _ _ w => S.AtRest w)
      w₀ w := by
  rw [Act.ask, meets_bind, Act.cursor, meets_gets, byOutcome_ok]
  -- What is logged and counted before the request touches no connection.
  refine (atRest_of_reading (Act.log_steady tolerant_reading.toTolerantOfLogs _ _ _ _) h).before
    (fun _ w₀ w hw => ?_) fun _ _ _ hw => hw
  refine (atRest_of_reading (Steady.update fun w => tolerant_reading.metrics w _) hw).before
    (fun _ w₀ w hw => ?_) fun _ _ _ hw => hw
  rw [meets_bind, meets_recover]
  refine (openConnection_sole hhttp hw).mono fun w₀ r w hopened => ?_
  cases r with
  | error failure =>
    exact (atRest_of_reading (Act.setPhase_steady tolerant_reading.toTolerant _ _) hopened).before
      (fun _ _ _ hw => hw) fun _ _ _ hw => hw
  | ok k =>
    rw [byOutcome_ok, byOutcome_ok, Act.setPhase, meets_bind, meets_update, byOutcome_ok]
    refine ⟨fun hasked => absurd (World.asked?_of_journal rfl) hasked, ?_⟩
    -- Opened: up to the stream that reads it, only the phase is changed.
    have hphase : S.Tidy w (w.changeInformer S.informer fun it => { it with phase := .watching }) :=
      .changeInformer w _ fun _ => rfl
    refine (addStream_sole ⟨hphase.overHttp hopened.overHttp, hopened.others, hopened.opened⟩).mono
      fun w₀ r w hr => ?_
    cases r with
    | error e => exact hr.elim
    | ok s => exact ⟨k, hr⟩

/-- A poll opens a stream whose response is the only one that is open, or opens none. -/
theorem poll_sole (h : S.AtRest w) :
    (Act.poll S.informer).Meets S.closing.tending
      (byOutcome (fun _ s w => ∃ k left, S.Sole s k (.idle false left) w) fun _ _ w => S.AtRest w)
      w₀ w := by
  rw [Act.poll_eq, meets_bind, Act.informer, meets_gets, byOutcome_ok]
  refine (atRest_of_reading (Act.noteResync_steady tolerant_reading.toTolerant _ _) h).before
    (fun _ w₀ v hv => ?_) fun _ _ _ hv => hv
  refine (atRest_of_reading (Act.resync_steady tolerant_reading.rewinding (fun _ => trivial) _ _ _)
    hv).before
    (fun _ w₀ v hv => ?_) fun _ _ _ hv => hv
  exact ask_sole h.overHttp.http hv

/-- One poll: it begins and ends with all responses closed. -/
theorem pollOnce_closes {handler : Item → Act Unit} (hhandler : ∀ item, S.Courteous (handler item))
    (h : S.AtRest w) :
    (Act.pollOnce handler S.supervisor).Meets S.closing.tending (fun _ _ w => S.AtRest w) w₀ w := by
  rw [Act.meets_pollOnce, h.overHttp.served]
  refine (poll_sole h).mono fun w₀ r w hr => ?_
  cases r with
  | error e => exact hr
  | ok s =>
    obtain ⟨k, left, hw⟩ := hr
    rw [byOutcome_ok, Act.meets_drain]
    refine (consume_sole hhandler hw).mono fun w₀ r w hreleased => ?_
    refine (closeStream_sole hreleased).mono fun w₀ r' w hrest => ?_
    cases r' with
    | error e => exact hrest
    | ok _ => exact hrest

/-- A round of the poll loop begins and ends with all responses closed, and so does each request
that it makes. -/
theorem pollRound_closes {handler : Item → Act Unit}
    (hhandler : ∀ item, S.Courteous (handler item)) :
    S.closing.Tends (Act.pollRound handler S.supervisor) := by
  intro w hhttp hclosed
  have h : S.AtRest w := ⟨hhttp, hclosed⟩
  suffices hround : (Act.pollRound handler S.supervisor).Meets S.closing.tending
      (fun _ _ w => S.AtRest w) w w from
    hround.mono fun _ _ _ hw => ⟨hw.overHttp, hw.closed⟩
  rw [Act.meets_pollRound]
  split
  · refine (pollOnce_closes hhandler h).mono fun w₀ r w hw => ?_
    cases r with
    | ok _ => exact hw
    | error failure =>
      exact atRest_of_courteous
        (Act.answerFailure_steady aloof_logs (fun _ => trivial) S.supervisor failure) hw
  · exact h

end Round

/-! ### Closings in the journal -/

/-- Each change that a round of the poll loop makes closes a response exactly if it enters a closing,
if the handler does no other. -/
theorem Act.pollRound_enters_closings {handler : Item → Act Unit}
    (hhandler : ∀ item, Steady World.Entered (fun _ => True) (handler item)) (s : SupervisorId) :
    Steady World.Entered (fun _ => True) (Act.pollRound handler s) :=
  Act.pollRound_steady World.entered_polling (fun _ => trivial) hhandler s

/-- What a session does touches the responses in no other way. -/
theorem sessionWork_enters_closings (s : SupervisorId) (seconds : Double) (job : Job) :
    Steady World.Entered (fun _ => True) (sessionWork s seconds job) := by
  have hlogs := World.entered_polling.toTolerantOfLogs
  cases job with
  | session path =>
    exact (Act.startSupervisor_steady World.entered_running s).bind fun _ =>
      (Act.sleep_steady (fun _ => trivial) seconds).bind fun _ =>
        (Act.stopSupervisor_steady World.entered_running s).bind fun _ => Steady.pure none
  | pollLoop s' =>
    exact (Act.pollRound_enters_closings (fun item => Act.logItem_steady hlogs item) s').bind
      fun _ => Steady.pure _
  | statusLoop s' =>
    exact (Act.statusRound_steady hlogs (fun _ => trivial) s').bind fun _ => Steady.pure _
  | _ => exact Steady.pure none

/-- **To be closed is to have been entered as closed.**  Wherever a run of a session comes to, all
responses are closed exactly if as many closings have been entered as there are responses. -/
theorem inSession_allClosed_iff {w : World} (hw : w.Balanced) (s : SupervisorId) (seconds : Double)
    {r : Run} (hr : Run.Reaches (sessionWork s seconds) { world := w } r) :
    r.world.AllClosed ↔ r.world.closings = r.world.connections.length :=
  (hw.of_reaches (sessionWork_enters_closings s seconds) rfl rfl hr).allClosed_iff

/-! ### Runs -/

namespace Act

/-- A stop that returns has given up the tasks of the supervisor. -/
theorem stopSupervisor_gives (s : SupervisorId) (w₀ w : World) :
    (stopSupervisor s).Meets {} (fun _ r w => r = .ok () → (w.supervisor s).tasks = []) w₀ w := by
  have hfail (w₀ : World) (e : Failure) (w : World) :
      (Except.error e : Except Failure Unit) = .ok () → (w.supervisor s).tasks = [] := nofun
  rw [stopSupervisor]
  refine Meets.of_last _ (fun _ w₀ w => ?_) hfail
  rw [meets_ensure]
  suffices hbody : Meets {} (fun _ (r : Except Failure Unit) w => r = .ok () →
      (w.supervisor s).tasks = []) (do
        setRunning s false
        cancelAll (← supervisor s).tasks
        joinAll (← supervisor s).tasks
        setTasks s []
        logOf s .info "runner_stopped" []) w₀ w by
    refine hbody.mono fun w₀ r w hr => ⟨trivial, fun hok => ?_⟩
    -- that the stop has come to its end is noted without a word about the tasks
    refine (World.part_changeSupervisor Supervisor.tasks w s s ?_).trans (hr hok)
    exact fun _ => rfl
  refine Meets.of_last _ (fun _ w₀ w => ?_) hfail
  refine Meets.of_last _ (fun _ w₀ w => ?_) hfail
  refine Meets.of_last _ (fun _ w₀ w => ?_) hfail
  refine Meets.of_last _ (fun _ w₀ w => ?_) hfail
  refine Meets.of_last _ (fun _ w₀ w => ?_) hfail
  rw [setTasks, meets_bind, meets_update, byOutcome_ok]
  have hgiven : ((w.changeSupervisor s fun supervisor =>
      { supervisor with tasks := [] }).supervisor s).tasks = [] := by
    rw [World.supervisor, World.changeSupervisor, List.getElem?_modify_eq]
    cases w.supervisors[s]? with
    | none => rfl
    | some found => rfl
  have hlogs : TolerantOfLogs fun v v' => v'.supervisors = v.supervisors :=
    ⟨World.log_supervisors⟩
  refine ⟨trivial, (logOf_steady hlogs s .info _ _).meets_at_once
    (fun v => (v.supervisor s).tasks = []) (fun v v' hv hsame => ⟨trivial, ?_⟩)
    (fun _ _ hv _ => hv) hgiven⟩
  rw [World.supervisor, hsame]
  exact hv

end Act

/-- **One response at a time.**  A supervisor polls an informer over HTTP, with any handler that
leaves it and what it works on alone; other tasks start and stop it as often as they like, at any
moment, and no start comes while a stop is under way.  Whatever the requests, the bodies, the
observations, the handler and the closings come to, and wherever cancellations strike:

* each watch request finds all responses closed that were obtained before;
* at the end of each stop the poll loop has ended, and all responses are closed;
* the tasks of the supervisor are given up only when all of them have ended, and a stop that returns
  has given them up. -/
theorem requests_find_all_closed {S : Supervised} {handler : Item → Act Unit} {work : Work}
    {w : World} (h : S.Serves handler work) (hfirst : S.Outset w) (hhttp : S.OverHttp w)
    (hclosed : w.AllClosed) {r : Run} (hr : Run.Reaches work { world := w } r) :
    (∀ c ∈ r.changes, S.InTurn c.2 →
      (World.asked? c.1 c.2 ≠ none → c.1.AllClosed) ∧
      ((c.2.supervisor S.supervisor).stoppers.length <
          (c.1.supervisor S.supervisor).stoppers.length → S.Idle c.2 ∧ c.2.AllClosed) ∧
      ((c.1.supervisor S.supervisor).tasks ≠ [] → (c.2.supervisor S.supervisor).tasks = [] →
        ∀ t ∈ (c.1.supervisor S.supervisor).tasks, c.2.tasks.Ended t)) ∧
    ∀ v, (Act.stopSupervisor S.supervisor).Meets {}
      (fun _ r v => r = .ok () → (v.supervisor S.supervisor).tasks = []) v v := by
  have hsound := h.sound (pollRound_closes h.handler) hfirst hhttp hclosed hr
  refine ⟨fun c hc hturn => ?_, fun v => Act.stopSupervisor_gives S.supervisor v v⟩
  have hchange := hsound.change c hc
  exact ⟨hchange.asks hturn, hchange.ends hturn, hchange.gives hturn⟩

/-- The server sends an empty body, and then one that does not end. -/
def endlessSecondBody : World where
  server := {
    script := [{ reply := .stream [] none true }]
    afterwards := { reply := .stream [.block] none true } }
  informers := [{ transport := .http { name := "kubernetes" } }]
  supervisors := [{ informer := 0, handler := .logging }]

/-- A session has polled for a second, and is about to come to the end of its stop. -/
def stopAboutToEnd : Run :=
  Run.go (sessionWork 0 (.ofInt 1)) (fun _ => false) 21
    { world := endlessSecondBody.spawn (.session []) none }

/-- The end of the stop finds both responses closed. -/
theorem stopAboutToEnd_closes_both :
    ∃ c ∈ stopAboutToEnd.changes, c.2.connections.length = 2 ∧
      (c.2.supervisor 0).stoppers.length < (c.1.supervisor 0).stoppers.length ∧
      (inSession 0 0 0).Idle c.2 ∧ c.2.AllClosed := by
  have hends : (stopAboutToEnd.changes.any fun c => c.2.connections.length == 2 &&
      decide ((c.2.supervisor 0).stoppers.length < (c.1.supervisor 0).stoppers.length) &&
      !(c.2.supervisor 0).overlapped) = true := by decide +kernel
  obtain ⟨c, hc, hends⟩ := List.any_eq_true.mp hends
  simp only [Bool.and_eq_true, beq_iff_eq, decide_eq_true_eq, Bool.not_eq_true'] at hends
  obtain ⟨⟨hlength, hless⟩, hturn⟩ := hends
  have hfirst : (inSession 0 0 0).Outset (endlessSecondBody.spawn (.session []) none) :=
    inSession_outset (w := endlessSecondBody) rfl Nat.one_pos rfl 0 0
  have hhttp : (inSession 0 0 0).OverHttp (endlessSecondBody.spawn (.session []) none) :=
    ⟨rfl, Nat.one_pos, _, rfl⟩
  have hdone := (requests_find_all_closed (inSession_serves 0 0 0 (.ofInt 1)) hfirst hhttp
    (fun _ hmem => nomatch hmem) (Run.Reaches.start.go (fun _ => false) 21)).1 c hc hturn
  exact ⟨c, hc, hlength, hless, hdone.2.1 hless⟩

end ResumableWatch
