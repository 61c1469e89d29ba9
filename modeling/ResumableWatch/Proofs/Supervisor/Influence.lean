import ResumableWatch.Handler
import ResumableWatch.Proofs.Fiber.Tandem
import ResumableWatch.Proofs.Informer.Seclusion
import ResumableWatch.Proofs.Supervisor.Delivery
import ResumableWatch.Proofs.Supervisor.Records
import ResumableWatch.Proofs.Tasks.Occasions
/-!
# What does not influence a watch

A poll loop logs a failure of its handler and goes on as if there had been none (`dispatch_agree`), so
its rounds agree with those of a loop whose handler does the same and raises for other items
(`pollRound_agree`).  The status reporter changes nothing that a watch goes by
(`statusRound_unseen`).

`watch_undisturbed` puts both together: two runs over the same script have the same requests, sleeps,
items and versions, although different calls of the handler raise and the status is reported at
other times.  It speaks of the occasions on which the two loops go on; `Supervised.Serves.watching`
says that every run of the scheduler is such a list of occasions.

The handlers of a session are such handlers when their plans differ only in the ordinary failures
that they raise (`handle_agree`), even if they stop the supervisor that calls them.
-/

namespace ResumableWatch

open ResumableWatch.Fiber

/-! ### Handlers that raise for other items -/

/-- An end that is no more than a failure of the handler. -/
def Harmless (r : Wakeup) : Prop := ∀ e, r = .error e → e.isOrdinary = true

/-- How two calls may end that differ in nothing but whether they raise. -/
def SameButRaising (r r' : Wakeup) : Prop := r = r' ∨ (Harmless r ∧ Harmless r')

theorem SameButRaising.refl (r : Wakeup) : SameButRaising r r := .inl rfl

namespace Act

variable {κ : Type} {aside : Tasks Job → Rehearsal → κ} {handler handler' : Item → Act Unit}

/-! ### Supervisors -/

theorem changeSupervisor_secluded (s : SupervisorId) {f : Supervisor → Supervisor}
    (hf : ∀ supervisor, (f supervisor).unscheduled = f supervisor.unscheduled) :
    Secluded aside (Fiber.update (·.changeSupervisor s f)) :=
  Agree.update_through (fun v : Watch κ => { v with supervisors := v.supervisors.modify s f })
    fun w => w.watch_changeSupervisor s hf

/-- What is looked up of a supervisor leads on alike when its interval does not matter. -/
theorem supervisor_look {α β : Type} {post : Except Failure α → Except Failure β → Prop}
    {s : SupervisorId} {g : Supervisor → Act α} {g' : Supervisor → Act β}
    (h : ∀ (it : Supervisor) (statusInterval : Double),
      Agree (World.watch aside) post (g it) (g' { it with statusInterval })) :
    Agree (World.watch aside) post (supervisor s >>= g) (supervisor s >>= g') := by
  refine Agree.look fun w w' hw => ?_
  have heq : w'.supervisor s
      = { w.supervisor s with statusInterval := (w'.supervisor s).statusInterval } := by
    -- all fields but this one are seen
    have hsame := World.unscheduled_of_watch hw s
    generalize w.supervisor s = it at hsame ⊢
    generalize w'.supervisor s = it' at hsame ⊢
    cases it
    cases it'
    simp_all [Supervisor.unscheduled]
  rw [heq]
  exact h _ _

theorem informerName_secluded (s : SupervisorId) : Secluded aside (informerName s) := by
  refine supervisor_look fun it seconds => ?_
  exact (informer_secluded _).bind fun _ => Agree.pure _

theorem logOf_secluded (s : SupervisorId) (level : Log.Level) (event : String)
    (fields : List (String × Json)) : Secluded aside (logOf s level event fields) :=
  (informerName_secluded s).bind fun _ => log_secluded _ _ _ _

theorem noteHanded_secluded (s : SupervisorId) (item : Item) : Secluded aside (noteHanded s item) :=
  changeSupervisor_secluded s fun _ => rfl

/-! ### One item -/

/-- After a call that did no harm the loop goes on, and it is not seen whether the call failed. -/
theorem answerHandler_goes (aside : Tasks Job → Rehearsal → κ) {r : Wakeup} (hr : Harmless r)
    (s : SupervisorId) (w : World) :
    ∃ made w', Goes ((Fiber.ofExcept r).recover (answerHandler s)) w made (.done ()) w' ∧
      ∀ c ∈ made, c.2.watch aside = c.1.watch aside := by
  cases r with
  | ok a => exact ⟨[], w, .here, List.forall_mem_nil _⟩
  | error e =>
    rw [Fiber.recover, Course.attempt_ofExcept]
    show ∃ made w', Goes (answerHandler s e) w made (.done ()) w' ∧ _
    rw [answerHandler, if_pos (hr e rfl)]
    refine ⟨_, _, .read (.read (.read (.write .here))), List.forall_mem_singleton.mpr ?_⟩
    exact World.watch_log w _ _ _ _ _

/-- What a loop does with an item is the same for handlers that do the same and raise for other
items. -/
theorem dispatch_agree {item : Item}
    (h : Agree (World.watch aside) SameButRaising (handler item) (handler' item)) (s : SupervisorId) :
    Agree (World.watch aside) Eq (dispatch handler s item) (dispatch handler' s item) := by
  refine (noteHanded_secluded s item).bind fun _ => h.recover fun r r' hr => ?_
  rcases hr with rfl | ⟨hr, hr'⟩
  · cases r with
    | ok a => exact Agree.pure a
    | error e =>
      show Secluded aside (answerHandler s e)
      rw [answerHandler]
      split
      · exact (informerName_secluded s).bind fun _ =>
          Agree.update_through id fun w => w.watch_log _ _ _ _ _
      · exact Agree.fail e
  · -- the two ends may differ, but either one is answered without being seen
    exact .of_unseen (r := .ok ()) (answerHandler_goes aside hr s) (answerHandler_goes aside hr' s)

/-! ### One round -/

theorem consume_agree
    (h : ∀ item, Agree (World.watch aside) SameButRaising (handler item) (handler' item))
    (s : SupervisorId) (stream : StreamId) (bound : Nat) :
    Agree (World.watch aside) Eq (consume handler s stream bound)
      (consume handler' s stream bound) := by
  induction bound with
  | zero => exact Agree.pure ()
  | succ bound ih =>
    refine (nextOfStream_secluded stream).bind fun r => ?_
    cases r with
    | none => exact Agree.pure ()
    | some item =>
      refine supervisor_look fun it seconds => ?_
      split
      · exact (dispatch_agree (h item) s).bind fun _ => ih
      · exact Agree.pure ()

theorem readsLeft_secluded (stream : StreamId) : Secluded aside (readsLeft stream) := by
  refine Agree.state fun w w' hw => ?_
  rw [World.stream_of_watch hw, World.connection_of_watch hw]
  exact Agree.pure _

theorem pollOnce_agree
    (h : ∀ item, Agree (World.watch aside) SameButRaising (handler item) (handler' item))
    (s : SupervisorId) :
    Agree (World.watch aside) Eq (pollOnce handler s) (pollOnce handler' s) := by
  refine supervisor_look fun it seconds => ?_
  exact (poll_secluded _).bind fun stream => (readsLeft_secluded stream).bind fun bound =>
    (closeStream_secluded stream).ensure (consume_agree h s stream bound)

theorem retryAfter_secluded (s : SupervisorId) (failure : Failure) :
    Secluded aside (retryAfter s failure) := by
  cases failure
  all_goals
    exact supervisor_look fun it seconds => (logOf_secluded s _ _ _).bind fun _ => Agree.await _

theorem answerFailure_secluded (s : SupervisorId) (failure : Failure) :
    Secluded aside (answerFailure s failure) := by
  unfold answerFailure
  split
  · exact Agree.fail failure
  · split
    · exact (retryAfter_secluded s _).bind fun _ => Agree.pure true
    · refine supervisor_look fun it seconds => ?_
      split
      · exact (retryAfter_secluded s _).bind fun _ => Agree.pure true
      · exact Agree.pure false

/-- **One round.**  It is the same for handlers that do the same and raise for other items. -/
theorem pollRound_agree
    (h : ∀ item, Agree (World.watch aside) SameButRaising (handler item) (handler' item))
    (s : SupervisorId) :
    Agree (World.watch aside) Eq (pollRound handler s) (pollRound handler' s) := by
  refine supervisor_look fun it seconds => ?_
  split
  · refine (pollOnce_agree h s).attempt.bind fun r => ?_
    cases r with
    | ok _ => exact Agree.pure true
    | error failure => exact answerFailure_secluded s failure
  · exact Agree.pure false

/-- The status reporter does nothing that a watch goes by. -/
theorem statusRound_unseen (s : SupervisorId) : Unseen (World.watch aside) (statusRound s) :=
  statusRound_steady ⟨fun w level component event fields lines =>
    w.watch_log level component event fields lines⟩ (fun _ => trivial) s

end Act

/-! ### Planned handlers -/

/-- The plan, but for an ordinary failure that it raises. -/
def Plan.lenient (plan : Plan) : Plan :=
  { plan with raise := plan.raise.filter (!·.isOrdinary) }

/-- What planned handlers go by besides the watch: their plans but for the ordinary failures, how many
items were handled, and what tasks have come to. -/
structure Planned where
  plans : List (Nat × Plan)
  handled : Nat
  current : TaskId
  outcome? : TaskId → Option Wakeup

/-- What planned handlers go by in the books of the tasks and in a session. -/
def planned (tasks : Tasks Job) (kept : Rehearsal) : Planned where
  plans := kept.plans.map (Prod.map id Plan.lenient)
  handled := kept.handled
  current := tasks.current
  outcome? := tasks.outcome?

/-- A cancellation finishes nobody. -/
theorem Tasks.outcome?_cancel {J : Type} (ts : Tasks J) (t u : TaskId) :
    (ts.cancel t).outcome? u = ts.outcome? u := by
  have hlength := length_cancel ts t
  -- `CameTo` speaks of tasks in the table only; of all others nothing is known before and after
  by_cases hu : u < ts.table.length
  · refine Option.ext fun r => ?_
    have hcame := cameTo_cancel ts t u r
    rw [CameTo, CameTo, hlength] at hcame
    exact ⟨fun h => (hcame.mp ⟨hu, h⟩).2, fun h => (hcame.mpr ⟨hu, h⟩).2⟩
  · have hle := Nat.le_of_not_lt hu
    rw [outcome?, outcome?, task_of_le hle, task_of_le (hlength ▸ hle)]

theorem World.planned_cancel (w : World) (t : TaskId) :
    (w.changeTasks (·.cancel t)).watch planned = w.watch planned := by
  have hcurrent : (w.tasks.cancel t).current = w.tasks.current :=
    (.cancel t : Tasks.Op (fun _ => True) w.tasks (w.tasks.cancel t)).current
  have houtcome : (w.tasks.cancel t).outcome? = w.tasks.outcome? :=
    funext fun u => Tasks.outcome?_cancel w.tasks t u
  rw [World.watch, World.changeTasks, planned, hcurrent, houtcome]
  rfl

namespace Act

variable (s : SupervisorId)

/-! #### Stopping the supervisor -/

theorem join_secluded (t : TaskId) : Secluded planned (join t) := by
  refine Agree.state fun w w' hw => ?_
  rw [show w.tasks.outcome? = w'.tasks.outcome? from congrArg (·.aside.outcome?) hw]
  split
  · exact Agree.ofExcept _
  · exact Agree.await _

theorem joinAll_secluded (tasks : List TaskId) : Secluded planned (joinAll tasks) := by
  induction tasks with
  | nil => exact Agree.pure ()
  | cons t rest ih =>
    refine Agree.bind ?_ fun _ => ih
    refine (join_secluded t).recover_of_eq fun e => ?_
    split
    · exact Agree.pure ()
    · exact Agree.fail _

theorem cancelAll_secluded (tasks : List TaskId) : Secluded planned (cancelAll tasks) := by
  induction tasks with
  | nil => exact Agree.pure ()
  | cons t rest ih =>
    refine Agree.state fun w w' hw => ?_
    rw [Tasks.isFinished, Tasks.isFinished,
      show w.tasks.outcome? = w'.tasks.outcome? from congrArg (·.aside.outcome?) hw]
    split
    · exact (Agree.update_through id fun v => v.planned_cancel t).bind fun _ => ih
    · exact ih

/-- The task whose step it is may be noted with a supervisor. -/
theorem noteCurrent_secluded (f : TaskId → Supervisor → Supervisor)
    (hf : ∀ t supervisor, (f t supervisor).unscheduled = f t supervisor.unscheduled) :
    Secluded planned (Fiber.update fun w => w.changeSupervisor s (f w.tasks.current)) := by
  refine Agree.update fun w w' hw => ?_
  rw [World.watch_changeSupervisor w s (hf _), World.watch_changeSupervisor w' s (hf _), hw,
    show w.tasks.current = w'.tasks.current from congrArg (·.aside.current) hw]

theorem stopSupervisor_secluded : Secluded planned (stopSupervisor s) := by
  have hnote : Secluded planned (noteStop s) :=
    noteCurrent_secluded s (fun t it => { it with stoppers := t :: it.stoppers }) fun _ _ => rfl
  have hnoted : Secluded planned (noteStopped s) :=
    noteCurrent_secluded s (fun t it => { it with stoppers := it.stoppers.erase t }) fun _ _ => rfl
  have hrunning : Secluded planned (setRunning s false) := changeSupervisor_secluded s fun _ => rfl
  have hset : Secluded planned (setTasks s []) := changeSupervisor_secluded s fun _ => rfl
  refine hnote.bind fun _ => hnoted.ensure <| hrunning.bind fun _ =>
    supervisor_look fun it seconds => ?_
  refine (cancelAll_secluded _).bind fun _ => supervisor_look fun it seconds => ?_
  exact (joinAll_secluded _).bind fun _ => hset.bind fun _ => logOf_secluded s _ _ _

/-! #### Following a plan -/

/-- What raising a failure comes to, if one is raised. -/
def raised : Option Failure → Wakeup
  | some e => .error e
  | none => .ok ()

theorem whenAsked_fail (raise : Option Failure) :
    whenAsked raise Fiber.fail = (Fiber.ofExcept (raised raise) : Act Unit) := by
  cases raise <;> rfl

theorem harmless_of_filter {raise : Option Failure} (h : raise.filter (!·.isOrdinary) = none) :
    Harmless (raised raise) := by
  intro e he
  cases raise with
  | none => cases he
  | some e' =>
    cases he
    simpa using h

theorem logItem_secluded (item : Item) : Secluded aside (logItem item) := by
  cases item with
  | failure failure =>
    rw [logItem]
    split
    · exact log_secluded _ _ _ _
    · exact Agree.fail _
  | event event =>
    rw [logItem]
    split
    · exact log_secluded _ _ _ _
    · exact (Agree.ofExcept _).bind fun _ => (Agree.ofExcept _).bind fun _ =>
        log_secluded _ _ _ _

theorem whenAsked_secluded {α : Type} {act : α → Act Unit} (h : ∀ a, Secluded aside (act a))
    (asked : Option α) : Secluded aside (whenAsked asked act) := by
  cases asked with
  | none => exact Agree.pure ()
  | some a => exact h a

/-- What raises nothing but ordinary failures ends alike, but for these. -/
theorem raise_agree {raise raise' : Option Failure}
    (h : raise.filter (!·.isOrdinary) = raise'.filter (!·.isOrdinary)) :
    Agree (World.watch aside) SameButRaising (whenAsked raise Fiber.fail)
      (whenAsked raise' Fiber.fail) := by
  intro w w' hw
  rw [whenAsked_fail, whenAsked_fail]
  refine .ended hw ?_
  cases hraise : raise.filter (!·.isOrdinary) with
  | none =>
    rw [hraise] at h
    exact .inr ⟨harmless_of_filter hraise, harmless_of_filter h.symm⟩
  | some e =>
    rw [hraise] at h
    refine .inl ?_
    rw [(Option.filter_eq_some_iff.mp hraise).1, (Option.filter_eq_some_iff.mp h.symm).1]

theorem follow_agree {plan plan' : Plan} (h : plan.lenient = plan'.lenient) :
    Agree (World.watch planned) SameButRaising (follow s plan) (follow s plan') := by
  obtain ⟨delay, version, reset, stop, raise⟩ := plan
  obtain ⟨delay', version', reset', stop', raise'⟩ := plan'
  obtain ⟨rfl, rfl, rfl, rfl, hraise⟩ : delay = delay' ∧ version = version' ∧ reset = reset' ∧
      stop = stop' ∧ raise.filter (!·.isOrdinary) = raise'.filter (!·.isOrdinary) := by
    simpa [Plan.lenient] using h
  -- what is left to differ is the failure at the very end, so all before it is the same on both sides
  have hrefl (e : Failure) : SameButRaising (.error e) (.error e) := .refl _
  refine supervisor_look fun it seconds => ?_
  refine (whenAsked_secluded (fun seconds => Agree.await (.sleep seconds)) delay).before (fun _ => ?_)
    hrefl
  refine (whenAsked_secluded (setVersion_secluded _) version).before (fun _ => ?_) hrefl
  have hend : Agree (World.watch planned) SameButRaising (whenAsked raise Fiber.fail)
      (whenAsked raise' Fiber.fail) := raise_agree hraise
  have hstop : Agree (World.watch planned) SameButRaising
      (if stop = true then do
        stopSupervisor s
        whenAsked raise Fiber.fail
      else whenAsked raise Fiber.fail)
      (if stop = true then do
        stopSupervisor s
        whenAsked raise' Fiber.fail
      else whenAsked raise' Fiber.fail) := by
    split
    · exact (stopSupervisor_secluded s).before (fun _ => hend) hrefl
    · exact hend
  dsimp only
  split
  · exact (resetVersion_secluded _).before (fun _ => hstop) hrefl
  · exact hstop

/-! #### Handling an item -/

theorem countHandled_secluded : Secluded planned countHandled := by
  refine Agree.state fun w w' hw => ?_
  rw [show w.rehearsal.handled = w'.rehearsal.handled from congrArg (·.aside.handled) hw]
  exact (Agree.update_through
    (fun v : Watch Planned => { v with aside := { v.aside with handled := _ } }) fun _ => rfl).bind
      fun _ => Agree.pure _

theorem lookup_lenient (plans : List (Nat × Plan)) (n : Nat) :
    (plans.map (Prod.map id Plan.lenient)).lookup n = (plans.lookup n).map Plan.lenient := by
  induction plans with
  | nil => rfl
  | cons entry rest ih =>
    obtain ⟨m, plan⟩ := entry
    rw [List.map_cons, List.lookup_cons, List.lookup_cons]
    dsimp only [Prod.map, id]
    split
    · rfl
    · exact ih

/-- **Planned handlers.**  They do the same, and raise for other items, when their plans differ only in
the ordinary failures that they raise. -/
theorem handle_agree (item : Item) :
    Agree (World.watch planned) SameButRaising (handle s item) (handle s item) := by
  refine supervisor_look fun it seconds => ?_
  dsimp only
  split
  · exact fun w w' hw => (logItem_secluded item w w' hw).mono fun _ _ => .inl
  · have hrefl (e : Failure) : SameButRaising (.error e) (.error e) := .refl _
    refine countHandled_secluded.before (fun n => ?_) hrefl
    refine (record_secluded _).before (fun _ => Agree.state fun w w' hw => ?_) hrefl
    -- plans that are the same but for what they raise are found at the same places
    have hplans := congrArg (·.aside.plans.lookup n) hw
    replace hplans : (w.rehearsal.plans.lookup n).map Plan.lenient
        = (w'.rehearsal.plans.lookup n).map Plan.lenient := by
      rw [← lookup_lenient, ← lookup_lenient]
      exact hplans
    cases hfound : w.rehearsal.plans.lookup n with
    | none =>
      rw [hfound] at hplans
      rw [Option.map_eq_none_iff.mp hplans.symm]
      exact fun v v' hv => .done hv (.refl _)
    | some plan =>
      rw [hfound] at hplans
      obtain ⟨plan', hfound', hlenient⟩ := Option.map_eq_some_iff.mp hplans.symm
      rw [hfound']
      exact follow_agree s hlenient.symm

end Act

/-! ### Two runs -/

/-- The poll loop of a supervisor, in the company of the status reporter. -/
def Tandem.watching (handler : Item → Act Unit) (s : SupervisorId) (w : World)
    (occasions : List (Occasion World)) : Tandem World :=
  .run (Act.pollRound handler s) (Act.statusRound s) w occasions

/-- The poll loop of a supervisor, as a task. -/
def Supervised.polling (S : Supervised) (handler : Item → Act Unit) (t : TaskId) : Strand :=
  ⟨t, .pollLoop S.supervisor, Act.pollRound handler S.supervisor⟩

/-- Its status reporter, as a task. -/
def Supervised.reporting (S : Supervised) (t : TaskId) : Strand :=
  ⟨t, .statusLoop S.supervisor, Act.statusRound S.supervisor⟩

/-- **The scheduler lets them take turns.**  From where the poll loop and the status reporter of a
supervisor have not begun, whatever a run comes to they come to in tandem, on occasions that the run
brings. -/
theorem Supervised.Serves.watching {S : Supervised} {handler : Item → Act Unit} {work : Work}
    {D : Discipline} {first r : Run} {t u : TaskId} (h : S.Serves handler work)
    (hr : Run.Reaches work first r) (hwork : D.Binds work) (hfirst : D.Sound first) (hne : t ≠ u)
    (hpolling : first.Pursues (S.polling handler t) (some fun _ => (S.polling handler t).round))
    (hreporting : first.Pursues (S.reporting u) (some fun _ => (S.reporting u).round)) :
    ∃ occasions,
      (∀ o ∈ occasions, Run.Brings work first (S.polling handler t) (S.reporting u) o) ∧
      (Tandem.watching handler S.supervisor first.world occasions).Mirrors (S.polling handler t)
        (S.reporting u) r :=
  hr.occasions hwork hfirst hne h.polls h.reports hpolling hreporting

/-- A session has started its supervisor and sleeps; neither of the two loops has begun. -/
def loopsStarted : Run :=
  Run.go (sessionWork 0 (.ofInt 1)) (fun _ => false) 3
    { world := silentServer.spawn (.session []) none }

/-- All that can come of the session comes of the two loops in tandem. -/
theorem loopsStarted_watching {r : Run}
    (hr : Run.Reaches (sessionWork 0 (.ofInt 1)) loopsStarted r) :
    ∃ occasions,
      (∀ o ∈ occasions, Run.Brings (sessionWork 0 (.ofInt 1)) loopsStarted
        ((inSession 0 0 0).polling Act.logItem 1) ((inSession 0 0 0).reporting 2) o) ∧
      (Tandem.watching Act.logItem 0 loopsStarted.world occasions).state = r.world := by
  have hserves := inSession_serves 0 0 0 (.ofInt 1)
  have hfirst : (inSession 0 0 0).Outset (silentServer.spawn (.session []) none) :=
    inSession_outset (w := silentServer) rfl Nat.one_pos rfl 0 0
  have hsound : (inSession 0 0 0).recording.Sound loopsStarted :=
    (Run.Reaches.start.go (fun _ => false) 3).sound hserves.records (hfirst.records rfl)
  obtain ⟨occasions, hbrings, hmirrors⟩ := hserves.watching hr hserves.records hsound
    (Nat.ne_of_lt Nat.one_lt_two) (.of_unbegun (by decide +kernel)) (.of_unbegun (by decide +kernel))
  exact ⟨occasions, hbrings, hmirrors.state⟩

/-- What is written into the books does not come between two runs. -/
theorem World.planned_withTasks (ts : Tasks Job) {w w' : World}
    (h : w.watch planned = w'.watch planned) :
    (w.withTasks ts).watch planned = (w'.withTasks ts).watch planned := by
  have hbooks (v : World) : (v.withTasks ts).watch planned =
      { v.watch planned with
        aside := { (v.watch planned).aside with current := ts.current, outcome? := ts.outcome? } } :=
    rfl
  rw [hbooks, hbooks, h]

/-- Nor does anything else that a run brings, if the other tasks go by nothing more than what is
seen. -/
theorem Run.Brings.planned_eq {work : Work} {first : Run} {a b : Strand} {act : World → World}
    (h : Run.Brings work first a b (.elsewhere act))
    (hothers : ∀ r fiber, Run.Reaches work first r → r.active = some fiber →
      r.world.tasks.current ≠ a.task → r.world.tasks.current ≠ b.task →
      Agree (World.watch planned) Eq fiber fiber)
    (w w' : World) (hw : w.watch planned = w'.watch planned) :
    (act w).watch planned = (act w').watch planned := by
  cases h with
  | books tasks => exact World.planned_withTasks tasks hw
  | other hr hactive ha hb => exact (hothers _ _ hr hactive ha hb w w' hw).advance.2.1

/-- How long a wait sleeps, if it does. -/
def Wait.seconds? : Wait → Option Double
  | .sleep seconds => some seconds
  | _ => none

/-- The sleeps among some steps. -/
def sleeps (steps : List (Step World)) : List Double := (Step.waits steps).filterMap Wait.seconds?

/-- **Handlers and status reporters do not disturb a watch.**  In two runs that begin alike but for the
interval of the status reporter, with handlers that do the same and raise for other items, the watch
requests are the same, with their versions, and so are the sleeps of the poll loop, the items that it
hands on and the values that the cursors take on, whenever the two status reporters have their turns,
as long as the poll loops find their waits answered alike and the same done by others. -/
theorem watch_undisturbed {κ : Type} {aside : Tasks Job → Rehearsal → κ}
    {handler handler' : Item → Act Unit} {s : SupervisorId} {w w' : World}
    {occasions occasions' : List (Occasion World)}
    (hhandlers : ∀ item,
      Agree (World.watch aside) SameButRaising (handler item) (handler' item))
    (hw : w.watch aside = w'.watch aside)
    (hacts : ∀ act, .elsewhere act ∈ occasions →
      ∀ v v', v.watch aside = v'.watch aside → (act v).watch aside = (act v').watch aside)
    (hsame : occasions.filter (!·.isCompanion) = occasions'.filter (!·.isCompanion)) :
    let p := Tandem.watching handler s w occasions
    let p' := Tandem.watching handler' s w' occasions'
    p.state.requests = p'.state.requests ∧ sleeps p.past = sleeps p'.past ∧
      (p.state.supervisor s).handed = (p'.state.supervisor s).handed ∧
      (∀ c, cursorValues c p.past = cursorValues c p'.past) ∧
      p.loop.isSome = p'.loop.isSome := by
  have halike := Tandem.run_agree (Act.pollRound_agree hhandlers s) (Act.statusRound_unseen s)
    (Act.statusRound_unseen s) hw hacts hsame
  refine ⟨congrArg Watch.requests halike.state, ?_, ?_, fun c => ?_, halike.loop.isSome_eq⟩
  · exact congrArg (List.filterMap Wait.seconds?) halike.past.waits_eq
  · exact congrArg (·.handed) (World.unscheduled_of_watch halike.state s)
  · exact halike.past.cursorValues_eq fun v v' hv => World.cursor_of_watch hv c

/-- A running supervisor, to which the server sends two items, the first of which takes its handler a
second, before it refuses the next request.  The first call of the handler may raise. -/
def twoItems (statusInterval : Double) (raise : Option Failure) : World where
  server := {
    script := [
      { reply := .stream [.item none (.ok (addedAt "7")), .item none (.ok (addedAt "8"))] none true },
      { reply := .raise (.transport "refused" none) }]
    afterwards := { reply := .block } }
  informers := [{ transport := .feed }]
  supervisors := [{ informer := 0, handler := .planned, statusInterval, running := true }]
  rehearsal := { plans := [(0, { delay := some (.ofInt 1), raise })] }

theorem watch_twoItems (statusInterval : Double) {raise : Option Failure}
    (h : raise.filter (!·.isOrdinary) = none) :
    (twoItems statusInterval raise).watch planned = (twoItems .nan none).watch planned := by
  simp [World.watch, twoItems, planned, Plan.lenient, h, World.requests, Supervisor.unscheduled]

/-- The run in which the status reporter does not come to its turn, and nothing is raised. -/
def undisturbed : Tandem World :=
  Tandem.watching (Act.handle 0) 0 (twoItems (.ofInt 30) none) (List.replicate 5 (.loop (.ok ())))

/-- The run in which the status is reported every second, and the first call of the handler raises. -/
def disturbed : Tandem World :=
  Tandem.watching (Act.handle 0) 0 (twoItems (.ofInt 1) (some (.badValue "ValueError" "no")))
    (List.replicate 5 [.companion (.ok ()), .loop (.ok ())]).flatten

/-- It is the same watch. -/
theorem disturbed_eq_undisturbed :
    undisturbed.state.requests = disturbed.state.requests ∧
      disturbed.state.requests.map (·.version?)
        = [some (.text "8"), some (.text "8"), some (.text "0")] ∧
      sleeps undisturbed.past = sleeps disturbed.past ∧
      sleeps disturbed.past = [.ofInt 1, .ofInt 5] ∧
      (undisturbed.state.supervisor 0).handed = (disturbed.state.supervisor 0).handed ∧
      (disturbed.state.supervisor 0).handed.length = 2 ∧
      cursorValues 0 undisturbed.past = cursorValues 0 disturbed.past ∧
      cursorValues 0 disturbed.past = [{ version := "7" }, { version := "8" }] ∧
      disturbed.loop.isSome = true := by
  have hw : (twoItems (.ofInt 30) none).watch planned
      = (twoItems (.ofInt 1) (some (.badValue "ValueError" "no"))).watch planned :=
    (watch_twoItems _ rfl).trans (watch_twoItems _ rfl).symm
  have hsame : (List.replicate 5 (Occasion.loop (.ok ()))).filter (!·.isCompanion)
      = (List.replicate 5 [Occasion.companion (.ok ()), Occasion.loop (.ok ())]).flatten.filter
        ((!·.isCompanion) : Occasion World → Bool) := rfl
  have hacts : ∀ act, .elsewhere act ∈ List.replicate 5 (Occasion.loop (.ok ())) →
      ∀ v v' : World, v.watch planned = v'.watch planned →
        (act v).watch planned = (act v').watch planned :=
    fun act hact => by simp at hact
  obtain ⟨hrequests, hsleeps, hhanded, hcursors, -⟩ :=
    watch_undisturbed (Act.handle_agree 0) hw hacts hsame
  exact ⟨hrequests, rfl, hsleeps, by decide +kernel, hhanded, by decide +kernel,
    hcursors 0, by decide +kernel, by decide +kernel⟩

end ResumableWatch
