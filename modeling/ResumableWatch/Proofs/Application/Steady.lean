import ResumableWatch.Application
import ResumableWatch.Proofs.Supervisor.Loop
import ResumableWatch.Session.Applications
/-!
# Running the application is steady

A relation that tolerates what is done to the tasks, to supervisors and to the application, besides
reading from streams, is kept by each change that the parts of an application make
(`TolerantOfRunning`).  Left out are the few that bring something up or ask for something: looking for
the configuration, making an informer or a supervisor, and the requests of a poll.
-/

namespace ResumableWatch

open ResumableWatch.Fiber

/-- A tolerant relation that tolerates all that is done to run an application, but for what brings up
its parts.  Nobody starts the application a second time. -/
structure TolerantOfRunning (P : World → World → Prop) : Prop
    extends TolerantOfReading P, TolerantOfEntries P where
  books : ∀ w logging ts, Tasks.Op (· ≠ Job.launch) w.tasks ts →
    P w { w with logging, tasks := ts }
  supervisor : ∀ w s f, (∀ x : Supervisor, (f x).informer = x.informer) →
    P w (w.changeSupervisor s f)
  application : ∀ w f, (∀ a : Application, (f a).configuration = a.configuration) →
    P w (w.changeApplication f)
  rehearsal : ∀ w f, P w (w.changeRehearsal f)

namespace TolerantOfRunning

variable {P : World → World → Prop}

theorem handing (h : TolerantOfRunning P) : TolerantOfHanding P where
  toTolerantOfReading := h.toTolerantOfReading
  handed w s _ := h.supervisor w s _ fun _ => rfl

theorem tasks (h : TolerantOfRunning P) {w : World} {ts : Tasks Job}
    (hop : Tasks.Op (· ≠ Job.launch) w.tasks ts) : P w (w.withTasks ts) :=
  h.books w w.logging ts hop

end TolerantOfRunning

namespace Act

variable {P : World → World → Prop} {α : Type} (h : TolerantOfRunning P)

/-- Any wait may come. -/
abbrev anyWait : Wait → Prop := fun _ => True

theorem record_steady (hentries : TolerantOfEntries P) {waits : Wait → Prop} {what : Happening}
    (hwhat : what.isExchange = false) : Steady P waits (record what) :=
  Steady.update fun w => hentries.record w what hwhat

/-! ### Tasks -/

include h

theorem spawn_steady {job : Job} (hjob : job ≠ .launch) : Steady P anyWait (spawn job) := by
  refine Steady.state.bind fun _ => Steady.bind (Steady.update fun w => ?_) fun _ => Steady.pure _
  exact h.tasks (.spawn job w.tasks.context hjob)

theorem cancel_steady (t : TaskId) : Steady P anyWait (cancel t) :=
  Steady.update fun _ => h.tasks (.cancel t)

omit h in
theorem join_steady (t : TaskId) : Steady P anyWait (join t) := by
  refine Steady.state.bind fun w => ?_
  split
  · exact Steady.ofExcept _
  · exact Steady.await trivial

theorem cancelAll_steady (l : List TaskId) : Steady P anyWait (cancelAll l) := by
  induction l with
  | nil => exact Steady.pure ()
  | cons t rest ih =>
    refine Steady.state.bind fun w => ?_
    dsimp only
    split
    · exact (cancel_steady h t).bind fun _ => ih
    · exact ih

omit h in
theorem joinAll_steady (l : List TaskId) : Steady P anyWait (joinAll l) := by
  induction l with
  | nil => exact Steady.pure ()
  | cons t rest ih =>
    refine ((join_steady t).recover fun failure => ?_).bind fun _ => ih
    split
    · exact Steady.pure ()
    · exact Steady.fail failure

/-! ### Supervisors -/

theorem startSupervisor_steady (s : SupervisorId) : Steady P anyWait (startSupervisor s) := by
  have hnote : Steady P anyWait (noteStart s) := Steady.update fun w => h.supervisor w s _ fun _ => rfl
  have hrunning : Steady P anyWait (setRunning s true) :=
    Steady.update fun w => h.supervisor w s _ fun _ => rfl
  have hgive (tasks : List TaskId) : Steady P anyWait (giveTasks s tasks) :=
    Steady.update fun w => h.supervisor w s _ fun _ => rfl
  refine (Steady.gets _).bind fun x => ?_
  split
  · exact Steady.pure ()
  · exact hnote.bind fun _ => hrunning.bind fun _ =>
      (spawn_steady h (Job.noConfusion : Job.pollLoop s ≠ .launch)).bind fun _ =>
        (spawn_steady h (Job.noConfusion : Job.statusLoop s ≠ .launch)).bind fun _ =>
          (hgive _).bind fun _ => logOf_steady h.toTolerantOfLogs s _ _ _

theorem stopSupervisor_steady (s : SupervisorId) : Steady P anyWait (stopSupervisor s) := by
  have hstop : Steady P anyWait (noteStop s) := Steady.update fun w => h.supervisor w s _ fun _ => rfl
  have hstopped : Steady P anyWait (noteStopped s) :=
    Steady.update fun w => h.supervisor w s _ fun _ => rfl
  have hrunning : Steady P anyWait (setRunning s false) :=
    Steady.update fun w => h.supervisor w s _ fun _ => rfl
  have htasks : Steady P anyWait (setTasks s []) :=
    Steady.update fun w => h.supervisor w s _ fun _ => rfl
  refine hstop.bind fun _ => hstopped.ensure ?_
  exact hrunning.bind fun _ => (Steady.gets _).bind fun _ => (cancelAll_steady h _).bind fun _ =>
    (Steady.gets _).bind fun _ => (joinAll_steady _).bind fun _ => htasks.bind fun _ =>
      logOf_steady h.toTolerantOfLogs s _ _ _

/-! ### Handlers -/

omit h in
theorem whenAsked_steady {waits : Wait → Prop} {asked : Option α} {act : α → Act Unit}
    (hact : ∀ a, Steady P waits (act a)) : Steady P waits (whenAsked asked act) := by
  cases asked with
  | none => exact Steady.pure ()
  | some a => exact hact a

/-- A planned call waits, stops its own supervisor and moves the cursor,
whatever its plan asks for. -/
theorem follow_steady (s : SupervisorId) (plan : Plan) : Steady P anyWait (follow s plan) := by
  refine (Steady.gets _).bind fun x => ?_
  refine (whenAsked_steady fun seconds => sleep_steady (fun _ => trivial) seconds).bind fun _ => ?_
  have hlog (level : Log.Level) (component event : String) (fields : List (String × Json)) :
      Steady P anyWait (log level component event fields) :=
    log_steady h.toTolerantOfLogs level component event fields
  have hset (version : String) : Steady P anyWait (setVersion x.informer version) :=
    (Steady.gets _).bind fun it => (hlog _ _ _ _).bind fun _ => Steady.update fun w => h.cursor w _ _
  have hreset : Steady P anyWait (resetVersion x.informer) :=
    (Steady.gets _).bind fun it => (hlog _ _ _ _).bind fun _ => Steady.update fun w => h.cursor w _ _
  have hraise : Steady P anyWait (whenAsked plan.raise (Fiber.fail (α := Unit))) :=
    whenAsked_steady fun failure => Steady.fail failure
  -- stopping the supervisor comes last, and then what the plan raises
  have hstop : Steady P anyWait (do
      if plan.stop then stopSupervisor s
      whenAsked plan.raise Fiber.fail) := by
    split
    · exact (stopSupervisor_steady h s).bind fun _ => hraise
    · exact hraise
  refine (whenAsked_steady hset).bind fun _ => ?_
  dsimp only
  split
  · exact hreset.bind fun _ => hstop
  · exact hstop

/-- A handler of either kind does nothing that is not tolerated. -/
theorem handle_steady (s : SupervisorId) (item : Item) : Steady P anyWait (handle s item) := by
  refine (Steady.gets _).bind fun x => ?_
  split
  · exact logItem_steady h.toTolerantOfLogs item
  · have hcount : Steady P anyWait countHandled :=
      Steady.state.bind fun _ => (Steady.update fun w => h.rehearsal w _).bind fun _ => Steady.pure _
    exact hcount.bind fun n => Steady.bind (record_steady h.toTolerantOfEntries rfl) fun _ =>
      Steady.state.bind fun w => whenAsked_steady (follow_steady h s)

/-! ### Starting -/

omit h in
theorem failIf_steady {waits : Wait → Prop} (failure : Option Failure) :
    Steady P waits (failIf failure) := by
  cases failure with
  | none => exact Steady.pure ()
  | some failure => exact Steady.fail failure

omit h in
theorem logApplication_steady (hlogs : TolerantOfLogs P) {waits : Wait → Prop} (level : Log.Level)
    (event : String) (fields : List (String × Json)) :
    Steady P waits (logApplication level event fields) :=
  log_steady hlogs level applicationComponent event fields

omit h in
theorem configureInCluster_steady (hentries : TolerantOfEntries P) {waits : Wait → Prop} :
    Steady P waits configureInCluster :=
  Steady.bind (record_steady hentries rfl) fun _ => Steady.state.bind fun _ =>
    (failIf_steady _).bind fun _ => logApplication_steady hentries.toTolerantOfLogs _ _ _

theorem changeApplication_steady {f : Application → Application}
    (hf : ∀ a, (f a).configuration = a.configuration) :
    Steady P anyWait (changeApplication f) :=
  Steady.update fun w => h.application w f hf

theorem setUpLogging_steady (c : Configuration) : Steady P anyWait (setUpLogging c) :=
  Steady.update fun w => h.books w _ _ (.bindContext _)

/-- The client is configured in one of two ways, with entries and lines and a wait. -/
theorem startClient_steady : Steady P anyWait startClient := by
  have hcluster : Steady P anyWait configureInCluster :=
    configureInCluster_steady h.toTolerantOfEntries
  have huser : Steady P anyWait configureFromUser :=
    Steady.bind (record_steady h.toTolerantOfEntries rfl) fun _ => Steady.state.bind fun _ =>
      (whenAsked_steady fun seconds => sleep_steady (fun _ => trivial) seconds).bind fun _ =>
        Steady.state.bind fun _ => (failIf_steady _).bind fun _ =>
          logApplication_steady h.toTolerantOfLogs _ _ _
  -- only an ordinary failure leads on to the other configuration
  have hotherwise (failure : Failure) : Steady P anyWait (configureOtherwise failure) := by
    rw [configureOtherwise.eq_def]
    split
    · exact huser
    · exact Steady.fail _
  refine Steady.recover (fun failure => Steady.fail _) ?_
  exact (hcluster.recover hotherwise).bind fun _ => Steady.state.bind fun _ =>
    (failIf_steady _).bind fun _ => changeApplication_steady h fun _ => rfl

theorem startMetrics_steady (port : Int) : Steady P anyWait (startMetrics port) := by
  have hexporter : Steady P anyWait (startExporter port) := by
    rw [startExporter]
    split
    · exact Steady.pure _
    · exact Steady.bind (record_steady h.toTolerantOfEntries rfl) fun _ => Steady.state.bind fun _ =>
        (failIf_steady _).bind fun _ => Steady.pure _
  refine hexporter.bind fun started => ?_
  split
  · exact logApplication_steady h.toTolerantOfLogs _ _ _
  · exact Steady.pure ()

/-! ### Stopping -/

theorem stopApplication_steady : Steady P anyWait stopApplication := by
  have hwatching : Steady P anyWait stopWatching := by
    refine (Steady.gets _).bind fun app => ?_
    split
    · exact (stopSupervisor_steady h _).bind fun _ => changeApplication_steady h fun _ => rfl
    · exact Steady.pure ()
  have hask : Steady P anyWait askToClose :=
    Steady.bind (record_steady h.toTolerantOfEntries rfl) fun _ => Steady.state.bind fun _ =>
      (whenAsked_steady fun seconds => sleep_steady (fun _ => trivial) seconds).bind fun _ =>
        Steady.state.bind fun _ => failIf_steady _
  -- the client may take its time to close, and may fail to
  have hclient : Steady P anyWait closeClient := by
    refine (Steady.gets _).bind fun app => ?_
    split
    · refine (hask.recover fun failure => ?_).bind fun _ => changeApplication_steady h fun _ => rfl
      split
      · exact logApplication_steady h.toTolerantOfLogs _ _ _
      · exact Steady.fail failure
    · exact Steady.pure ()
  exact Steady.bind (changeApplication_steady h fun _ => rfl) fun _ => hwatching.bind fun _ =>
    hclient.bind fun _ => logApplication_steady h.toTolerantOfLogs _ _ _

theorem giveUp_steady (failure : Failure) : Steady P anyWait (giveUp failure) := by
  have hstop : Steady P anyWait stopIfRunning := by
    refine (Steady.gets _).bind fun app => ?_
    split
    · exact stopApplication_steady h
    · exact Steady.pure ()
  refine hstop.ensure ?_
  split
  · refine (logApplication_steady h.toTolerantOfLogs _ _ _).bind fun _ => ?_
    exact (stopApplication_steady h).bind fun _ =>
      Steady.fail _
  · exact Steady.fail _

theorem attend_steady : Steady P anyWait attend := by
  refine (Steady.gets _).bind fun app => ?_
  split
  · refine (sleep_steady (fun _ => trivial) _).attempt.bind fun r => ?_
    split
    · exact Steady.pure true
    · exact (giveUp_steady h _).bind fun _ => Steady.pure false
  · exact Steady.pure false

theorem requestShutdown_steady : Steady P anyWait requestShutdown := by
  refine (Steady.gets _).bind fun app => ?_
  split
  · exact Steady.pure ()
  · exact Steady.bind (changeApplication_steady h fun _ => rfl) fun _ =>
      (spawn_steady h (Job.noConfusion : Job.shutdown ≠ .launch)).bind fun _ =>
        changeApplication_steady h fun _ => rfl

theorem interruptions_steady (path : List Nat) :
    Steady P anyWait (Session.interruptions path) := by
  rw [Session.interruptions.eq_def]
  split
  · exact Steady.bind (record_steady h.toTolerantOfEntries rfl) fun _ => requestShutdown_steady h
  · exact Steady.bind (record_steady h.toTolerantOfEntries rfl) fun _ => cancel_steady h 0
  · exact Steady.pure ()

end Act

end ResumableWatch
