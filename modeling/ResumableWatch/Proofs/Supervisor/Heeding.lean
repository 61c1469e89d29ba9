import ResumableWatch.Proofs.Supervisor.Loop
/-!
# Heeding a stop

When a supervisor is stopped, a cancellation strikes its poll loop where that one waits.  A fiber
heeds the stop if it does not swallow the cancellation (`Supervised.Heeds`): at its end the supervisor
runs still, or the fiber fails, and not by an ordinary failure.

A poll heeds a stop (`poll_heeds`), and so does a read (`nextItem_heeds`): who is stopped while he
waits for a stream or for an item comes to none.
-/

namespace ResumableWatch

open ResumableWatch.Fiber

/-- The end of a fiber that was struck by what is no ordinary failure. -/
def BrokenOff {α : Type} (r : Except Failure α) : Prop := ∃ e, r = .error e ∧ e.isOrdinary = false

theorem BrokenOff.error {α : Type} {e : Failure} (he : e.isOrdinary = false) :
    BrokenOff (.error e : Except Failure α) := ⟨e, rfl, he⟩

theorem BrokenOff.not_ok {α : Type} (a : α) : ¬ BrokenOff (.ok a) := by
  rintro ⟨_, ⟨⟩, -⟩

theorem BrokenOff.not_ordinary {α : Type} {e : Failure}
    (h : BrokenOff (.error e : Except Failure α)) : e.isOrdinary = false := by
  obtain ⟨_, ⟨⟩, he⟩ := h
  exact he

/-- What interrupts a stream is ordinary. -/
theorem Failure.interruptsStream_of_broken {e : Failure} (he : e.isOrdinary = false) :
    e.interruptsStream = false := by
  cases e <;> first | rfl | cases he

/-- A request that was not refused by an ordinary failure is reported as it was. -/
theorem Connection.requestFailure_of_broken {e : Failure} (he : e.isOrdinary = false) :
    Connection.requestFailure e = e := by
  cases e <;> first | rfl | cases he

/-- Without terms, nothing is to be feared from what others do. -/
theorem Fiber.Meets.whatever {σ α : Type} {post : σ → Except Failure α → σ → Prop}
    {m : Fiber σ α} {s₀ s : σ} (h : m.Meets {} post s₀ s)
    (resume : σ → Wait → Wakeup → σ → Prop) : m.Meets { resume } post s₀ s := by
  refine h.imp (fun s₀ s₁ => s₁ = s₀) (fun _ _ _ => trivial) (fun _ _ _ _ _ _ => trivial)
    (fun _ _ _ _ _ _ _ _ _ _ _ => ⟨trivial, trivial, trivial, rfl⟩) ?_ rfl
  rintro s₀ _ r s rfl h
  exact h

namespace Supervised

variable {S : Supervised} {α β : Type} {m : Act α} {w w' : World}

/-! ### Whoever heeds a stop -/

/-- The supervisor is to run. -/
def Runs (S : Supervised) (w : World) : Prop := (w.supervisor S.supervisor).running = true

/-- Whoever, when the supervisor is stopped meanwhile and a cancellation strikes, does not swallow
it. -/
def Heeds (S : Supervised) (m : Act α) : Prop :=
  ∀ w₀ w, S.Runs w → m.Meets { resume := S.Heeded } (fun _ r w => S.Runs w ∨ BrokenOff r) w₀ w

/-- A change that does not stop the supervisor. -/
def RunsOn (S : Supervised) (w w' : World) : Prop := S.Runs w → S.Runs w'

namespace Heeds

/-- What neither waits nor stops the supervisor. -/
theorem of_steady (hm : Steady S.RunsOn (fun _ => False) m) : S.Heeds m :=
  fun _ _ hruns => hm.meets_at_once S.Runs (fun _ _ hw hon => ⟨trivial, hon hw⟩)
    (fun _ _ hw => .inl hw) hruns

theorem pure (a : α) : S.Heeds (pure a : Act α) := .of_steady (Steady.pure a)

theorem fail (e : Failure) : S.Heeds (Fiber.fail e : Act α) := .of_steady (Steady.fail e)

theorem bind {f : α → Act β} (hm : S.Heeds m) (hf : ∀ a, S.Heeds (f a)) : S.Heeds (m >>= f) := by
  intro w₀ w hruns
  rw [meets_bind]
  refine (hm w₀ w hruns).mono fun w₀ r w hr => ?_
  cases r with
  | error e => exact hr.imp_right fun hbroken => .error hbroken.not_ordinary
  | ok a => exact hf a w₀ w (hr.resolve_right (BrokenOff.not_ok a))

/-- A failure may be answered, if not one that strikes. -/
theorem attempt_bind {f : Except Failure α → Act β} (hm : S.Heeds m) (hf : ∀ r, S.Heeds (f r))
    (hbroken : ∀ e : Failure, e.isOrdinary = false → ∀ w₀ w,
      (f (.error e)).Meets {} (fun _ r _ => BrokenOff r) w₀ w) : S.Heeds (m.attempt >>= f) := by
  intro w₀ w hruns
  rw [meets_bind, meets_attempt]
  refine (hm w₀ w hruns).mono fun w₀ r w hr => ?_
  rw [byOutcome_ok]
  rcases hr with hruns | ⟨e, rfl, he⟩
  · exact hf r w₀ w hruns
  · exact ((hbroken e he w₀ w).whatever S.Heeded).mono fun _ _ _ h => .inr h

theorem recover {handler : Failure → Act α} (hm : S.Heeds m) (hhandler : ∀ e, S.Heeds (handler e))
    (hbroken : ∀ e : Failure, e.isOrdinary = false → ∀ w₀ w,
      (handler e).Meets {} (fun _ r _ => BrokenOff r) w₀ w) : S.Heeds (m.recover handler) := by
  refine hm.attempt_bind (fun r => ?_) hbroken
  cases r with
  | ok a => exact .pure a
  | error e => exact hhandler e

/-- A wait for something else than another task: a stop strikes it. -/
theorem await {what : Wait} (hwhat : ∀ u, what ≠ .join u) :
    S.Heeds (Fiber.await what : Act Unit) := by
  intro w₀ w hruns
  rw [meets_await]
  refine ⟨trivial, fun answer w' _ _ hheeded => ?_⟩
  rcases hheeded hwhat hruns with hruns' | hstruck
  · exact .inl hruns'
  · rw [hstruck]
    exact .inr (.error rfl)

theorem sleep (seconds : Double) : S.Heeds (Act.sleep seconds) := .await nofun

theorem forever : S.Heeds (Fiber.await .forever : Act Unit) := .await nofun

end Heeds

/-! ### The poll loop heeds -/

theorem RunsOn.of_supervisors (h : w'.supervisors = w.supervisors) : S.RunsOn w w' := by
  intro hruns
  rw [Runs, World.supervisor, h]
  exact hruns

theorem runsOn_polling : TolerantOfPolling S.RunsOn where
  log w level component event fields lines :=
    .of_supervisors (World.log_supervisors w level component event fields lines)
  closed _ _ _ := .of_supervisors rfl
  metrics _ _ := .of_supervisors rfl
  connection _ _ _ _ := .of_supervisors rfl
  keep _ _ _ := .of_supervisors rfl
  handedOver _ _ _ := .of_supervisors rfl
  informer _ _ _ _ := .of_supervisors rfl
  stream _ _ _ _ := .of_supervisors rfl
  cursor _ _ _ := .of_supervisors rfl
  reset _ _ := .of_supervisors rfl
  clear _ _ := .of_supervisors rfl
  observed _ _ _ := .of_supervisors rfl
  opened _ _ _ := .of_supervisors rfl
  added _ _ := .of_supervisors rfl
  server _ _ := .of_supervisors rfl
  request _ _ _ := .of_supervisors rfl
  handed w s item hruns := by
    refine (World.part_changeSupervisor Supervisor.running w s S.supervisor ?_).trans hruns
    exact fun _ => rfl

theorem heeds_state {f : World → Act α} (hf : ∀ w, S.Heeds (f w)) :
    S.Heeds (Fiber.state >>= f) := .bind (.of_steady Steady.state) hf

theorem heeds_gets {f : World → β} {g : β → Act α} (hg : ∀ b, S.Heeds (g b)) :
    S.Heeds (Fiber.gets f >>= g) := .bind (.of_steady (Steady.gets f)) hg

theorem heeds_log {f : Unit → Act α} (level : Log.Level) (component event : String)
    (fields : List (String × Json)) (hf : ∀ u, S.Heeds (f u)) :
    S.Heeds (Act.log level component event fields >>= f) :=
  .bind (.of_steady (Act.log_steady runsOn_polling.toTolerantOfLogs _ _ _ _)) hf

theorem heeds_metrics {f : Unit → Act α} (change : Metrics → Metrics) (hf : ∀ u, S.Heeds (f u)) :
    S.Heeds (Fiber.update (·.changeMetrics change) >>= f) :=
  .bind (.of_steady (Steady.update fun w => runsOn_polling.metrics w _)) hf

theorem heeds_keep {f : Unit → Act α} (k : ConnectionId) (pending : List Element)
    (hf : ∀ u, S.Heeds (f u)) : S.Heeds (Act.keep k pending >>= f) :=
  .bind (.of_steady (Act.keep_steady runsOn_polling.toTolerantOfConnections k pending)) hf

theorem readItem_heeds (k : ConnectionId) (elements : List Element) :
    S.Heeds (Act.readItem k elements) := by
  induction elements with
  | nil => exact .pure none
  | cons element rest ih =>
    cases element with
    | delay seconds => exact heeds_keep k rest fun _ => (Heeds.sleep seconds).bind fun _ => ih
    | block => exact heeds_keep k rest fun _ => Heeds.forever.bind fun _ => ih
    | raise failure => exact heeds_keep k rest fun _ => .fail failure
    | line bytes => exact heeds_keep k rest fun _ => ih
    | item handedOver made =>
      refine heeds_keep k rest fun _ => .of_steady ?_
      exact (Act.recordHandedOver_steady runsOn_polling.toTolerantOfDecoding handedOver).bind fun _ =>
        (Steady.ofExcept made).bind fun _ => Steady.pure _

theorem readLine_heeds (k : ConnectionId) (elements : List Element) :
    S.Heeds (Act.readLine k elements) := by
  induction elements with
  | nil => exact .pure none
  | cons element rest ih =>
    cases element with
    | delay seconds => exact heeds_keep k rest fun _ => (Heeds.sleep seconds).bind fun _ => ih
    | block => exact heeds_keep k rest fun _ => Heeds.forever.bind fun _ => ih
    | raise failure => exact heeds_keep k rest fun _ => .fail failure
    | item handedOver made => exact heeds_keep k rest fun _ => ih
    | line bytes =>
      refine heeds_keep k rest fun _ => ?_
      split
      · exact .pure none
      · split
        · exact ih
        · exact .pure _

theorem nextFrame_heeds (k : ConnectionId) (decoder : Option Decoder) :
    S.Heeds (Act.nextFrame k decoder) := by
  have hends {f : Unit → Act (Option Item)} (hf : ∀ u, S.Heeds (f u)) :
      S.Heeds (Act.endFrames k >>= f) :=
    .bind (.of_steady (Act.endFrames_steady runsOn_polling.toTolerantOfClosing k)) hf
  refine heeds_state fun w => ?_
  dsimp only
  split
  · exact .pure none
  · refine (readLine_heeds k _).attempt_bind (fun r => ?_) fun e he w₀ w => ?_
    · split
      · refine .of_steady ?_
        exact (Act.decodeLine_steady runsOn_polling.toTolerantOfDecoding k decoder _).bind fun _ =>
          Steady.pure _
      · exact hends fun _ => .pure none
      · refine hends fun _ => ?_
        split
        · exact .pure _
        · exact .fail _
    · -- no item is made of what strikes
      refine ⟨trivial, ?_⟩
      rw [if_neg (ne_true_of_eq_false (Failure.interruptsStream_of_broken he))]
      exact .error he

/-- A read of a connection that is stopped while it waits comes to no item. -/
theorem nextItem_heeds (k : ConnectionId) : S.Heeds (Act.nextItem k) := by
  refine heeds_state fun w => ?_
  dsimp only
  split
  · split
    · exact .pure none
    · exact readItem_heeds k _
  · refine (nextFrame_heeds k _).bind fun r => ?_
    split
    · exact .pure _
    · refine .bind (.of_steady ?_) fun _ => .pure none
      exact Act.closeResponse_steady runsOn_polling.toTolerantOfClosing k

theorem meet_heeds (answer : Answer) : S.Heeds (Act.meet answer) := by
  rw [Act.meet]
  split
  on_goal 1 => refine (Heeds.sleep _).bind fun _ => ?_
  -- with or without a delay, the reply is met in the same way
  all_goals
    dsimp only
    split
    · exact .fail _
    · exact Heeds.forever.bind fun _ => .fail _
    · exact .pure _

theorem openConnection_heeds (transport : Transport) (query : Query) :
    S.Heeds (Act.openConnection transport query) := by
  have hrequest : S.Heeds (Act.request transport query) := by
    refine heeds_state fun w => .bind (.of_steady ?_) fun _ => .bind (.of_steady ?_) fun _ =>
      meet_heeds _
    · exact Steady.update fun w => runsOn_polling.server w _
    · exact Steady.update fun w => runsOn_polling.request w _ _
  have hadd (connection : Connection) : S.Heeds (Act.addConnection connection) :=
    .of_steady (Act.addConnection_steady fun _ => .of_supervisors rfl)
  cases transport with
  | feed => exact hrequest.bind fun _ => hadd _
  | http endpoint =>
    refine (hrequest.recover (fun _ => .fail _) fun e he w₀ w => ?_).bind fun _ =>
      heeds_log _ _ _ _ fun _ => hadd _
    rw [Connection.requestFailure_of_broken he]
    exact .error he

theorem resync_heeds (c : CursorId) (name : String) (backoff : Double) :
    S.Heeds (Act.resync c name backoff) := by
  rw [Act.resync_eq]
  refine heeds_gets fun k => ?_
  split
  · exact .pure false
  · exact heeds_log _ _ _ _ fun _ => heeds_metrics _ fun _ => (Heeds.sleep backoff).bind fun _ =>
      .of_steady (Act.settle_steady runsOn_polling.toTolerantOfRewinding c name)

/-- A poll that is stopped while it waits comes to no stream. -/
theorem poll_heeds (i : InformerId) : S.Heeds (Act.poll i) := by
  have hphase (phase : Phase) : S.Heeds (Act.setPhase i phase) :=
    .of_steady (Act.setPhase_steady runsOn_polling.toTolerant i phase)
  rw [Act.poll_eq]
  refine heeds_gets fun it => .bind (.of_steady ?_) fun _ => (resync_heeds _ _ _).bind fun _ => ?_
  · exact Act.noteResync_steady runsOn_polling.toTolerant i it
  · refine heeds_gets fun k => heeds_log _ _ _ _ fun _ => heeds_metrics _ fun _ => ?_
    refine .bind ?_ fun k => (hphase .watching).bind fun _ => .of_steady ?_
    · refine (openConnection_heeds _ _).recover (fun e => (hphase .idle).bind fun _ => .fail e) ?_
      exact fun e he w₀ w => ⟨trivial, .error he⟩
    · exact Act.addStream_steady runsOn_polling.toTolerantOfOpening _

end Supervised

end ResumableWatch
