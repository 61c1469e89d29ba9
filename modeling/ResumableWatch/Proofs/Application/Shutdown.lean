import ResumableWatch.Proofs.Application.Ending
/-!
# Shutting down

All tasks of a run of the main task keep to its discipline (`main_binds`), whatever the surroundings,
the server, the configuration and the signals are, and at the beginning of the run it holds
(`Opening.sound`).  So two things follow for whatever such a run can come to.

A shutdown that has come to its end has stopped the application, unless the start was not over when
it was requested (`shutdown_leaves_nothing`).  The exception is real: a signal that comes while the
configuration is looked for is lost, and nobody can stop the application any more.

A main task that has come to its end has left the application to a shutdown, or, if the start has
failed, has closed the API client (`main_cleans_up`).  Here the exception is a failure that is not one
of a component, which the main task passes on as it is.
-/

namespace ResumableWatch

open ResumableWatch.Fiber World

variable {t u : TaskId} {job : Job} {w₀ w w' : World}

/-! ### All tasks together -/

namespace Act

/-- A part of a session on the main task: a signal, or a cancellation from outside. -/
theorem interruption_meets {path : List Nat} (h : Apart t (.session path) w₀ w) :
    (Session.interruptions path).Meets (mainDiscipline.terms t)
      (fun w₀ _ w => Apart t (.session path) w₀ w) w₀ w := by
  rw [Session.interruptions.eq_def]
  split
  · rw [meets_bind]
    refine (h.meets (record_bystands .signal rfl)).mono fun w₀ r w hr => ?_
    cases r with
    | ok _ => exact requestShutdown_meets hr
    | error e => exact hr
  · refine h.meets ((record_bystands .interrupt rfl).bind fun _ => ?_)
    exact Steady.update fun w => .cancel w 0
  · exact h

end Act

/-- Every task of a run of the main task keeps to the discipline of that run. -/
theorem main_binds : mainDiscipline.Binds (Job.body Session.interruptions) := by
  intro t job w hinv hplays hcurrent horderly
  cases hplays with
  | launch hmain hfresh =>
    subst hmain
    exact Act.launch_meets (.begin hinv hfresh hcurrent horderly) hfresh
  | attend hmain hsome hsteered hapart =>
    subst hmain
    exact Act.attend_meets (.begin hinv hcurrent horderly) (.attend rfl hsome hsteered hapart)
  | shutdown hmain hshutdown hapart =>
    exact Act.shutdown_meets (.begin hinv hcurrent horderly) ⟨.inr hshutdown, rfl, hapart⟩ hmain
  | other hmain hshutdown hadmits =>
    have h : Apart t job w w := ⟨.begin hinv hcurrent horderly, hmain, hshutdown, hadmits⟩
    -- a task apart is a loop or a part of the session; nothing else is admitted
    cases job with
    | pollLoop s => exact Apart.goes_on (Act.pollRound_apart h)
    | statusLoop s =>
      refine Apart.goes_on (h.meets ?_)
      exact Act.statusRound_steady bystands_polling.toTolerantOfLogs (fun _ => trivial) s
    | session path => exact Apart.ends (Act.interruption_meets h)
    | closeAbandoned s => exact hadmits.elim
    | launch => exact hadmits.elim
    | attend => exact hadmits.elim
    | shutdown => exact hadmits.elim
    | cancellation u => exact hadmits.elim

/-! ### The beginning -/

/-- The main task is to begin, and signals and cancellations may be on their way. -/
structure Opening (w : World) : Prop where
  orderly : w.tasks.Orderly none
  unended : ∀ u, ¬ w.tasks.Ended u
  begun : 0 < w.tasks.table.length
  starts : ∀ u job, .start u job ∈ w.tasks.dues →
    (u = 0 ∧ job = .launch) ∨ (u ≠ 0 ∧ ∃ path, job = .session path)
  supervisors : w.supervisors = []
  fresh : ∃ configuration, w.application = { configuration }

namespace Opening

theorem standing (h : Opening w) : w.Standing := by
  have hnone (s : SupervisorId) : (w.supervisor s).launched = [] :=
    Standing.launched_of_no_supervisors h.supervisors s
  have hwatched (s : SupervisorId) : (w.supervisor s).tasks = [] := by
    rw [World.supervisor, h.supervisors]
    rfl
  obtain ⟨configuration, happlication⟩ := h.fresh
  have hshutdown (t : TaskId) : w.application.shutdown ≠ some t := by
    rw [happlication]
    exact (Option.some_ne_none t).symm
  -- there are no supervisors, no launched tasks and no shutdown that anything could be asked of
  exact {
    logging := fun s hs => by
      rw [h.supervisors] at hs
      cases hs
    known := fun s u hu => by
      rw [hnone] at hu
      cases hu
    given := fun s u hu => by
      rw [hwatched] at hu
      cases hu
    watched := fun s u hu => by
      rw [hnone] at hu
      cases hu
    owned := fun s _ u hu => by
      rw [hnone] at hu
      cases hu
    fresh := fun _ => ⟨h.supervisors, by rw [happlication]⟩
    bare := fun _ => by
      rw [happlication]
      exact ⟨rfl, rfl⟩
    requested := fun t ht => absurd ht (hshutdown t)
    carried := fun t ht _ => absurd ht (hshutdown t)
    quits := fun hok => absurd hok.ended (h.unended 0)
    failed := fun _ hout => absurd hout.ended (h.unended 0) }

/-- The discipline holds when the main task is to begin. -/
theorem sound (h : Opening w) : mainDiscipline.Sound { world := w } := by
  refine .of_idle rfl ⟨h.orderly, h.standing, (fun _ hmem => nomatch hmem), fun u job hmem => ?_⟩
  obtain ⟨configuration, happlication⟩ := h.fresh
  rcases h.starts u job hmem with ⟨hmain, rfl⟩ | ⟨hother, path, rfl⟩
  · refine .launch hmain ?_
    rw [happlication]
  · refine .other hother ?_ trivial
    rw [happlication]
    exact (Option.some_ne_none u).symm

/-- Something more is scheduled to come from outside. -/
theorem schedule (h : Opening w) (seconds : Double) (path : List Nat) :
    Opening (w.schedule seconds (.session path) none) := by
  have hop : Tasks.Op (· = Job.session path) w.tasks
      (w.schedule seconds (.session path) none).tasks := .schedule seconds _ none rfl
  refine ⟨hop.orderly h.orderly, fun u hended => h.unended u ((hop.within.ended u).mp hended),
    Nat.lt_of_lt_of_le h.begun hop.length, fun u job hmem => ?_, h.supervisors, h.fresh⟩
  rcases hop.starts hmem with hold | ⟨rfl, rfl⟩
  · exact h.starts u job hold
  · exact .inr ⟨Nat.ne_of_gt h.begun, path, rfl⟩

end Opening

/-- The world of a run of the main task, before it begins. -/
def mainWorld (i : Session.Interruptions) (surroundings : Surroundings) (server : Server)
    (configuration : Option Configuration) : World :=
  i.schedule ((Session.applicationWorld surroundings server configuration).spawn .launch none)

variable {i : Session.Interruptions} {surroundings : Surroundings} {server : Server}
  {configuration : Option Configuration}

/-- Before a run nothing has been done but to schedule what is to come. -/
theorem mainWorld_eq (i : Session.Interruptions) (surroundings : Surroundings) (server : Server)
    (configuration : Option Configuration)  :
    ∃ ts, mainWorld i surroundings server configuration
      = (Session.applicationWorld surroundings server configuration).withTasks ts := by
  have hsignals (signals : List Double) (ts : Tasks Job) : ∃ ts',
      signals.foldl (fun w seconds => w.schedule seconds (.session [0]) none)
          ((Session.applicationWorld surroundings server configuration).withTasks ts)
        = (Session.applicationWorld surroundings server configuration).withTasks ts' := by
    induction signals generalizing ts with
    | nil => exact ⟨ts, rfl⟩
    | cons seconds rest ih => exact ih _
  obtain ⟨ts, hts⟩ := hsignals i.signals
    ((Session.applicationWorld surroundings server configuration).spawn .launch none).tasks
  rw [mainWorld, Session.Interruptions.schedule]
  cases i.cancelled with
  | none => exact ⟨ts, hts⟩
  | some seconds =>
    refine ⟨(ts.schedule seconds (.session [1]) none).2, ?_⟩
    exact congrArg (·.schedule seconds (.session [1]) none) hts

theorem surroundings_mainWorld :
    (mainWorld i surroundings server configuration).surroundings = surroundings := by
  obtain ⟨ts, hts⟩ := mainWorld_eq i surroundings server configuration
  rw [hts]
  rfl

theorem opening_mainWorld : Opening (mainWorld i surroundings server configuration) := by
  have hlaunch : Opening
      ((Session.applicationWorld surroundings server configuration).spawn .launch none) := by
    have hop : Tasks.Op (· = Job.launch) (J := Job) {}
        ((Session.applicationWorld surroundings server configuration).spawn .launch none).tasks :=
      .spawn Job.launch none rfl
    refine ⟨hop.orderly .empty, fun u hended => ?_, Nat.one_pos, fun u job hmem => ?_, rfl,
      configuration, rfl⟩
    · exact absurd ((hop.within.ended u).mp hended).1 (Nat.not_lt_zero u)
    · rcases hop.starts hmem with hold | ⟨rfl, rfl⟩
      · cases hold
      · exact .inl ⟨rfl, rfl⟩
  have hsignals (signals : List Double) {w : World} (h : Opening w) :
      Opening (signals.foldl (fun w seconds => w.schedule seconds (.session [0]) none) w) := by
    induction signals generalizing w with
    | nil => exact h
    | cons seconds rest ih => exact ih (h.schedule seconds [0])
  rw [mainWorld, Session.Interruptions.schedule]
  cases i.cancelled with
  | none => exact hsignals _ hlaunch
  | some seconds => exact (hsignals _ hlaunch).schedule seconds [1]

/-! ### What a run of the main task can come to -/

/-- The states that a run of the main task can come to.  Other tasks may be cancelled at any time. -/
abbrev MainReaches (i : Session.Interruptions) (surroundings : Surroundings) (server : Server)
    (configuration : Option Configuration) : Run → Prop :=
  Run.Reaches (Job.body Session.interruptions)
    { world := mainWorld i surroundings server configuration }

theorem MainReaches.sound {r : Run} (h : MainReaches i surroundings server configuration r) :
    mainDiscipline.Sound r :=
  Run.Reaches.sound h main_binds opening_mainWorld.sound

/-- There is one shutdown: whatever is requested later, it is the same one. -/
theorem shutdown_lasts {r r' : Run} (h : mainDiscipline.Sound r)
    (hr' : Run.Reaches (Job.body Session.interruptions) r r')
    (ht : r.world.application.shutdown = some t) : r'.world.application.shutdown = some t := by
  refine Run.Reaches.lasts (K := fun w => w.application.shutdown = some t) hr' main_binds h
    (fun _ _ hw => hw) (fun u w w' hyields hw => ?_) ht
  -- a task that does not exist yet is spared by everybody
  have hne : u + 1 + w'.tasks.table.length ≠ u :=
    Nat.ne_of_gt (Nat.lt_of_lt_of_le (Nat.lt_succ_self u) (Nat.le_add_right _ _))
  refine (hyields.spares _ hne fun hended => ?_).2.shutdown t hw
  exact absurd hended.1 (Nat.not_lt_of_le (Nat.le_add_left _ _))

/-- **No signal is lost once the application has been started.**  A shutdown has been requested, and
has come to its end; signals may have come since then.  Then the application does not run, and no
poll loop and no status reporter is alive; or else all of them were started after the shutdown had
been requested. -/
theorem shutdown_leaves_nothing {r r' : Run} (hr : MainReaches i surroundings server configuration r)
    (ht : r.world.application.shutdown = some t)
    (hr' : Run.Reaches (Job.body Session.interruptions) r r')
    (hdone : r'.world.tasks.CameTo t (.ok ())) :
    (r'.world.application.running = false ∧ r'.world.AtRest) ∨
      (r'.world.supervisors ≠ [] ∧ r'.world.Late t) := by
  have hinv : r'.world.Standing := (hr'.sound main_binds hr.sound).kept.inv
  rcases hinv.carried t (shutdown_lasts hr.sound hr' ht) hdone with hstopped | hlate
  · exact .inl ⟨hstopped.running, hstopped.atRest⟩
  · by_cases hnone : r'.world.supervisors = []
    · exact .inl ⟨(hinv.bare hnone).1, Standing.atRest_of_no_supervisors hnone⟩
    · exact .inr ⟨hnone, hlate⟩

/-- The server sends nothing, and does not end its body. -/
def endlessBody : Server := { afterwards := { reply := .stream [.block] none true } }

/-- Whether a task has come to a good end. -/
def Tasks.hasReturned (t : TaskId) (ts : Tasks Job) : Bool :=
  match ts.outcome? t with
  | some (.ok _) => decide (t < ts.table.length)
  | _ => false

theorem Tasks.cameTo_of_hasReturned {ts : Tasks Job} (h : ts.hasReturned t = true) :
    ts.CameTo t (.ok ()) := by
  rw [hasReturned] at h
  split at h
  · rename_i hout
    exact ⟨of_decide_eq_true h, hout⟩
  · cases h

/-- After two seconds the shutdown has been requested. -/
def signalled : Run :=
  Run.go (Job.body Session.interruptions) (fun _ => false) 18
    { world := mainWorld { signals := [.ofInt 2] } {} endlessBody (some {}) }

/-- The shutdown, which is task 4, has come to its end. -/
def shutDown : Run := signalled.go (Job.body Session.interruptions) (fun _ => false) 15

theorem signalled_reached :
    MainReaches { signals := [.ofInt 2] } {} endlessBody (some {}) signalled :=
  Run.Reaches.start.go (fun _ => false) 18

theorem shutDown_reached :
    Run.Reaches (Job.body Session.interruptions) signalled shutDown :=
  Run.Reaches.start.go (fun _ => false) 15

/-- Both tasks of the supervisor have ended by then. -/
theorem shutDown_leaves_nothing :
    (shutDown.world.supervisor 0).launched = [2, 3] ∧
      shutDown.world.application.running = false ∧ shutDown.world.AtRest := by
  have hlaunched : (shutDown.world.supervisor 0).launched = [2, 3] := by decide +kernel
  refine ⟨hlaunched, ?_⟩
  have hrequested : signalled.world.application.shutdown = some 4 := by decide +kernel
  have hreturned : shutDown.world.tasks.hasReturned 4 = true := by decide +kernel
  rcases shutdown_leaves_nothing signalled_reached hrequested shutDown_reached
    (Tasks.cameTo_of_hasReturned hreturned) with hdone | ⟨-, hlate⟩
  · exact hdone
  · have hmem : 2 ∈ (shutDown.world.supervisor 0).launched := by
      rw [hlaunched]
      exact List.mem_cons_self
    exact absurd (hlate 0 2 hmem) (by decide)

/-- The configuration of a user is looked for, which takes five seconds, and a signal arrives after
two. -/
def signalledEarly : Run :=
  Run.go (Job.body Session.interruptions) (fun _ => false) 6
    { world := mainWorld { signals := [.ofInt 2] }
        { inclusterFailure := some (.unconfigured "no cluster"), userDelay := some (.ofInt 5) }
        endlessBody (some {}) }

/-- The configuration has been found. -/
def startedLate : Run := signalledEarly.go (Job.body Session.interruptions) (fun _ => false) 14

/-- The shutdown, which is task 2, has come to its end, and after that the application runs, with a
poll loop that is alive. -/
theorem startedLate_runs_on :
    signalledEarly.world.application.shutdown = some 2 ∧
      startedLate.world.tasks.CameTo 2 (.ok ()) ∧
      startedLate.world.application.running = true ∧ ¬ startedLate.world.AtRest := by
  have hreturned : startedLate.world.tasks.hasReturned 2 = true := by decide +kernel
  have hmem : 3 ∈ (startedLate.world.supervisor 0).launched := by decide +kernel
  have halive : startedLate.world.tasks.isFinished 3 = false := by decide +kernel
  refine ⟨by decide +kernel, Tasks.cameTo_of_hasReturned hreturned, by decide +kernel,
    fun hrest => ?_⟩
  rw [(hrest 0 3 hmem).2] at halive
  cases halive

/-! ### The end of the main task -/

theorem MainReaches.surroundings_eq {r : Run}
    (h : MainReaches i surroundings server configuration r) :
    r.world.surroundings = surroundings := by
  rw [Run.Reaches.keeps (K := World.surroundings) h main_binds opening_mainWorld.sound
    (fun _ _ => rfl) fun _ _ heq => heq]
  exact surroundings_mainWorld

/-- A look at the application fails only if the main task is struck. -/
theorem Act.attend_goes_well (w : World) :
    Act.attend.Meets { answers := (· = .ok ()) } (fun _ r _ => ∃ goesOn, r = .ok goesOn) w w := by
  rw [attend, meets_bind, application, meets_gets, byOutcome_ok]
  split
  · rw [proceed, meets_bind, meets_attempt, sleep, meets_await]
    refine ⟨trivial, ?_⟩
    rintro _ w' rfl - -
    exact ⟨true, rfl⟩
  · exact ⟨false, rfl⟩

/-- **What the main task leaves behind.**  The main task has come to its end.

* If it has returned, it has left the application to a shutdown, and once that has come to its end
  nothing runs any more and the API client has been closed.
* If the start of the application has failed, nothing was started, and the API client has been
  closed, or was not made.  For this the exporter of metrics has to start, if it is to be started,
  and the client may only be closed or fail to by an ordinary failure.
* An application that has been started does not make the main task fail, unless that is struck. -/
theorem main_cleans_up {r : Run} {outcome : Wakeup}
    (hr : MainReaches i surroundings server configuration r)
    (hdone : r.world.tasks.CameTo 0 outcome) :
    (outcome = .ok () → ∃ t, r.world.application.shutdown = some t ∧
      (r.world.tasks.CameTo t (.ok ()) → r.world.Stopped)) ∧
    (outcome ≠ .error .cancelled → r.world.supervisors = [] → surroundings.Mild →
      r.world.application.hasClient = false ∧ r.world.AtRest) ∧
    ∀ w, Act.attend.Meets { answers := (· = .ok ()) } (fun _ r _ => ∃ goesOn, r = .ok goesOn)
      w w := by
  have hinv : r.world.Standing := hr.sound.kept.inv
  refine ⟨?_, fun hnot hnone hmild => ?_, Act.attend_goes_well⟩
  · rintro rfl
    exact hinv.quits hdone
  · rw [← hr.surroundings_eq] at hmild
    exact ⟨hinv.failed outcome hdone hnot hnone hmild, Standing.atRest_of_no_supervisors hnone⟩

/-- Whether a task has come to an end with an exit. -/
def Tasks.hasExited (t : TaskId) (ts : Tasks Job) : Bool :=
  match ts.outcome? t with
  | some (.error (.exit 1)) => decide (t < ts.table.length)
  | _ => false

theorem Tasks.cameTo_of_hasExited {ts : Tasks Job} (h : ts.hasExited t = true) :
    ts.CameTo t (.error (.exit 1)) := by
  rw [hasExited] at h
  split at h
  · rename_i hout
    exact ⟨of_decide_eq_true h, hout⟩
  · cases h

/-- A run of the main task in which it watches for pods that nobody knows how to list. -/
def unlistable : Run :=
  Run.go (Job.body Session.interruptions) (fun _ => false) 3
    { world := mainWorld {} {} endlessBody (some { watch := { kind := "unknown" } }) }

theorem unlistable_reached :
    MainReaches {} {} endlessBody (some { watch := { kind := "unknown" } }) unlistable :=
  Run.Reaches.start.go (fun _ => false) 3

/-- A main task that has returned has closed the client when the shutdown has ended, and one whose
informer could not be made has closed it at once. -/
theorem main_closes_client :
    shutDown.world.application.hasClient = false ∧
      unlistable.world.application.hadClient = true ∧
      unlistable.world.application.hasClient = false := by
  have hreturned : shutDown.world.tasks.hasReturned 0 = true := by decide +kernel
  have hstopped : shutDown.world.tasks.hasReturned 4 = true := by decide +kernel
  have hexited : unlistable.world.tasks.hasExited 0 = true := by decide +kernel
  have hreaches : MainReaches { signals := [.ofInt 2] } {} endlessBody (some {}) shutDown :=
    Run.Reaches.go signalled_reached (fun _ => false) 15
  obtain ⟨t, ht, hquits⟩ :=
    (main_cleans_up hreaches (Tasks.cameTo_of_hasReturned hreturned)).1 rfl
  obtain rfl : t = 4 := by
    have h4 : shutDown.world.application.shutdown = some 4 := by decide +kernel
    exact Option.some.inj (ht.symm.trans h4)
  refine ⟨(hquits (Tasks.cameTo_of_hasReturned hstopped)).client, by decide +kernel, ?_⟩
  have hnone : unlistable.world.supervisors.length = 0 := by decide +kernel
  exact ((main_cleans_up unlistable_reached (Tasks.cameTo_of_hasExited hexited)).2.1 nofun
    (List.length_eq_zero_iff.mp hnone) ⟨rfl, nofun⟩).1

/-- The exporter of metrics cannot start. -/
def portInUse : Run :=
  Run.go (Job.body Session.interruptions) (fun _ => false) 3
    { world := mainWorld {} { exporterFailure := some (.foreign "OSError" "address in use") }
        endlessBody (some { metricsPort := 9100 }) }

/-- The main task has failed by then, and the client that it made is still open. -/
theorem portInUse_leaves_client :
    portInUse.world.tasks.Ended 0 ∧ portInUse.world.application.hasClient = true :=
  ⟨⟨by decide +kernel, by decide +kernel⟩, by decide +kernel⟩

end ResumableWatch
