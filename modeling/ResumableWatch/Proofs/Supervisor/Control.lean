import ResumableWatch.Proofs.Supervisor.Polling
import ResumableWatch.Proofs.Supervisor.Supervision
/-!
# Starting and stopping

What the tasks may do that are none of the two loops of a supervisor: they start and stop it as often
as they like, and otherwise leave it and what its loop works on alone (`Supervised.Controls`).  They
keep to the discipline of the supervisor, whatever its duty is (`Controls.meets`).

`Duty.Amid` is what such a task knows in the midst of a turn.  A stop is the longest of these turns:
`Duty.Stopping` is what it knows while it waits for the tasks that it has cancelled.
-/

namespace ResumableWatch

open ResumableWatch.Fiber Supervised

namespace Supervised

/-- A change that reaches neither the supervisor nor what its loop works on. -/
structure Aloof (S : Supervised) (w w' : World) : Prop where
  same : S.Same w w'
  tasks : Tasks.Op S.Other w.tasks w'.tasks
  supervisor : w'.supervisor S.supervisor = w.supervisor S.supervisor
  quiet : World.asked? w w' = none

/-- Whoever leaves the supervisor and what its loop works on alone. -/
def Courteous (S : Supervised) {α : Type} (m : Act α) : Prop := Steady S.Aloof (fun _ => True) m

/-- Whoever starts and stops the supervisor, and leaves it alone otherwise. -/
inductive Controls (S : Supervised) : {α : Type} → Act α → Prop
  | courteous {α : Type} {m : Act α} : S.Courteous m → Controls S m
  | start : Controls S (Act.startSupervisor S.supervisor)
  | stop : Controls S (Act.stopSupervisor S.supervisor)
  | bind {α β : Type} {m : Act α} {f : α → Act β} :
    Controls S m → (∀ a, Controls S (f a)) → Controls S (m >>= f)
  | attempt {α : Type} {m : Act α} : Controls S m → Controls S m.attempt

variable {S : Supervised} {w w' : World} {t u : TaskId}

/-- A line that is logged changes nothing but the journal and the console. -/
theorem aloof_logs : TolerantOfLogs S.Aloof where
  log w level component event fields lines := by
    have hquiet := World.asked?_log w level component event fields lines
    obtain ⟨entries, heq, -⟩ := World.log_eq w level component event fields lines
    rw [heq] at hquiet ⊢
    refine ⟨?_, .same, rfl, hquiet⟩
    exact ⟨rfl, rfl, Nat.le_refl _, ⟨rfl, rfl, rfl⟩, Nat.le_refl _, .inl rfl, Nat.le_refl _, rfl, rfl⟩

/-- The status reporter leaves all alone. -/
theorem statusRound_courteous : S.Courteous (Act.statusRound S.supervisor) :=
  Act.statusRound_steady aloof_logs (fun _ => trivial) S.supervisor

/-- Whether a loop is at work shows in the tasks on record and in who has ended. -/
theorem idle_iff (htasks : (w'.supervisor S.supervisor).tasks = (w.supervisor S.supervisor).tasks)
    (hended : ∀ u, w'.tasks.Ended u ↔ w.tasks.Ended u) : S.Idle w' ↔ S.Idle w := by
  refine forall_congr' fun u => ?_
  rw [Polls, Polls, htasks, hended]

/-- A change that is aloof spares every task, the loop included. -/
theorem Aloof.spares (h : S.Aloof w w') (u : TaskId) : Duty.Spares S u w w' := by
  -- the record of the supervisor is the same one, so all that is read off it is the same
  refine .of_tasks ?tasks (fun hturn => ?inTurn) (h.tasks.spares u) h.tasks.length h.same ?count
    fun _ _ _ _ hrunning => .inl ?running
  case tasks => rw [h.supervisor]
  case inTurn =>
    rw [InTurn, ← h.supervisor]
    exact hturn
  case count => rw [h.supervisor]
  case running =>
    rw [h.supervisor]
    exact hrunning

end Supervised

/-- What the courteous preserve, and starts and stops as well, all do that start and stop the
supervisor. -/
theorem Supervised.Controls.meets {S : Supervised} {α : Type} {m : Act α} (hm : S.Controls m)
    {terms : Terms World} {K : World → World → Prop}
    (hcourteous : ∀ {β : Type} {m : Act β}, S.Courteous m → ∀ w₀ w, K w₀ w →
      m.Meets terms (fun w₀ _ w => K w₀ w) w₀ w)
    (hstart : ∀ w₀ w, K w₀ w →
      (Act.startSupervisor S.supervisor).Meets terms (fun w₀ _ w => K w₀ w) w₀ w)
    (hstop : ∀ w₀ w, K w₀ w →
      (Act.stopSupervisor S.supervisor).Meets terms (fun w₀ _ w => K w₀ w) w₀ w)
    {w₀ w : World} (h : K w₀ w) : m.Meets terms (fun w₀ _ w => K w₀ w) w₀ w := by
  induction hm generalizing w₀ w with
  | courteous hm => exact hcourteous hm w₀ w h
  | start => exact hstart w₀ w h
  | stop => exact hstop w₀ w h
  | bind _ _ ihm ihf =>
    -- after a failure nothing more is done, and the rest starts from where a result was reached
    rw [meets_bind]
    refine (ihm h).mono fun w₀ r w hw => ?_
    cases r with
    | error e => exact hw
    | ok a => exact ihf a hw
  | attempt _ ih =>
    rw [meets_attempt]
    exact ih h

/-- Tasks are waited for one after the other, so long as none of them fails otherwise than by a
cancellation; `K` is what is known when these have been waited for. -/
theorem Act.joinAll_meets {terms : Terms World} {K : List TaskId → World → World → Prop}
    {rest before : List TaskId} {w₀ w : World}
    (hjoin : ∀ u ∈ rest, ∀ before w₀ w, K before w₀ w →
      (Act.join u).Meets terms (fun w₀ _ w => K (u :: before) w₀ w) w₀ w) (h : K before w₀ w) :
    (Act.joinAll rest).Meets terms (byOutcome (fun w₀ _ w => K (rest.reverse ++ before) w₀ w)
      fun w₀ _ w => ∃ joined, (∀ u ∈ before, u ∈ joined) ∧
        (∀ u, rest.head? = some u → u ∈ joined) ∧ K joined w₀ w) w₀ w := by
  -- what has been waited for is gathered up in `before`
  induction rest generalizing before w₀ w with
  | nil => exact h
  | cons v rest ih =>
    rw [Act.joinAll, meets_bind, Act.throughCancellation, Fiber.recover, meets_bind, meets_attempt]
    refine (hjoin v List.mem_cons_self before w₀ w h).mono fun w₀ r w hjoined => ?_
    rw [byOutcome_ok]
    -- after this one, whatever it came to, the others are waited for with it among those joined
    have hnext : (Act.joinAll rest).Meets terms (byOutcome
        (fun w₀ _ w => K ((v :: rest).reverse ++ before) w₀ w)
        fun w₀ _ w => ∃ joined, (∀ u ∈ before, u ∈ joined) ∧
          (∀ u, (v :: rest).head? = some u → u ∈ joined) ∧ K joined w₀ w) w₀ w := by
      refine (ih (fun u hu => hjoin u (List.mem_cons_of_mem v hu)) hjoined).mono
        fun w₀ r w hr => ?_
      rcases r with failure | _
      · obtain ⟨joined, hbefore, -, hw⟩ := hr
        refine ⟨joined, fun u hu => hbefore u (List.mem_cons_of_mem v hu), fun u hu => ?_, hw⟩
        rw [← Option.some.inj hu]
        exact hbefore v List.mem_cons_self
      · rw [byOutcome_ok, List.reverse_cons, List.append_assoc, List.singleton_append]
        exact hr
    rcases r with failure | _
    · dsimp only
      -- the end of a task that was cancelled is swallowed; a cancellation of the stop itself is not
      split
      · exact hnext
      · refine ⟨v :: before, fun u hu => List.mem_cons_of_mem v hu, fun u hu => ?_, hjoined⟩
        rw [← Option.some.inj hu]
        exact List.mem_cons_self
    · exact hnext

namespace Duty

variable {S : Supervised} {d : Duty S} {t u : TaskId} {job : Job} {w₀ w w' : World}

/-! ### In the midst of a turn -/

/-- What holds between two turns goes on holding while the tasks on record are the same and the same
ones have ended. -/
theorem Holds.of_tasks (h : d.Holds w)
    (htasks : (w'.supervisor S.supervisor).tasks = (w.supervisor S.supervisor).tasks)
    (hlength : w.tasks.table.length ≤ w'.tasks.table.length)
    (hended : ∀ u, w'.tasks.Ended u ↔ w.tasks.Ended u) (hsame : S.Same w w')
    (hfree : (w'.supervisor S.supervisor).stoppers = [] →
      (w'.supervisor S.supervisor).running = true ∨ S.Idle w') : d.Holds w' where
  known u hu := by
    rw [htasks] at hu
    exact Nat.lt_of_lt_of_le (h.known u hu) hlength
  tended := d.tended hsame h.tended
  settled hidle := d.settled hsame (h.settled ((idle_iff htasks hended).mp hidle))
  free := hfree

/-- A change that asks for nothing, gives up no tasks and ends no stop is one that any duty
allows. -/
theorem Change.of_tasks (hquiet : World.asked? w w' = none)
    (htasks : (w'.supervisor S.supervisor).tasks = [] → (w.supervisor S.supervisor).tasks = [])
    (hstoppers : (w.supervisor S.supervisor).stoppers.length ≤
      (w'.supervisor S.supervisor).stoppers.length) : d.Change w w' where
  asks _ hasked := absurd hquiet hasked
  gives _ hsome hnone := absurd (htasks hnone) hsome
  ends _ hless := absurd hless (Nat.not_lt_of_le hstoppers)

/-- What a task that takes on a job knows in the midst of a turn that it began in `w₀`. -/
structure Amid (d : Duty S) (t : TaskId) (job : Job) (w₀ w : World) : Prop where
  yields : d.discipline.Yields t w₀ w
  current : w.tasks.current = t
  orderly : w.tasks.Orderly (some t)
  plays : d.Plays t w job

namespace Amid

/-- A turn keeps what holds between two turns, so this holds in its midst as well. -/
theorem inv (h : d.Amid t job w₀ w) :
    S.supervisor < w.supervisors.length ∧ (S.InTurn w → d.Holds w) := h.yields.inv

/-- The turn goes on. -/
theorem step (h : d.Amid t job w₀ w) (hwithin : w.tasks.Within w'.tasks)
    (hyields : d.discipline.Yields t w w') (hplays : d.Plays t w' job) : d.Amid t job w₀ w' where
  yields := h.yields.trans hyields h.orderly hwithin
  current := hwithin.current.trans h.current
  orderly := hwithin.orderly _ h.orderly
  plays := hplays

/-- A new turn begins. -/
theorem answered (h : d.Amid t job w₀ w) {what : Wait} {answer : Wakeup}
    (hresumed : d.discipline.Resumed t w what answer w') : d.Amid t job w' w' where
  yields := .refl hresumed.inv t
  current := hresumed.current
  orderly := hresumed.orderly
  plays := (Duty.answered hresumed h.orderly).plays job h.plays

/-- The task is in its turn, so it has not ended. -/
theorem unended (h : d.Amid t job w₀ w) : ¬ w.tasks.Ended t :=
  fun hended => h.orderly.not_parked hended.parked

/-- A change that reaches nothing of the supervisor. -/
theorem aloof (h : d.Amid t job w₀ w) (haloof : S.Aloof w w') : d.Amid t job w₀ w' := by
  have hwithin := haloof.tasks.within
  have hended (hended : w'.tasks.Ended t) : False := h.unended ((hwithin.ended t).mp hended)
  -- the supervisor is the same one, so neither its turn nor its tasks change
  have hturn (hturn : S.InTurn w') : S.InTurn w := (haloof.spares t).inTurn hturn
  refine h.step hwithin ⟨⟨?_, fun hturn' => ?_⟩, fun u _ _ => haloof.spares u, fun u job hmem => ?_⟩
    (h.plays.spared (haloof.spares t) h.orderly.lt_of_active hended)
  · exact Nat.lt_of_lt_of_le h.inv.1 haloof.same.supervisors
  · have hholds := h.inv.2 (hturn hturn')
    refine hholds.of_tasks ?_ hwithin.length hwithin.ended haloof.same fun hnone => ?_
    · rw [haloof.supervisor]
    · rw [haloof.supervisor] at hnone ⊢
      refine (hholds.free hnone).imp_right (idle_iff ?_ hwithin.ended).mpr
      rw [haloof.supervisor]
  · rcases haloof.tasks.starts hmem with hold | ⟨hother, hnew⟩
    · exact .inl hold
    · -- a new task is not one that the supervisor watches over
      refine .inr (.other hother fun hturn' hwatched => ?_)
      rw [haloof.supervisor] at hwatched
      exact absurd hnew (Nat.ne_of_lt ((h.inv.2 (hturn hturn')).known u hwatched))

theorem change_of_aloof (haloof : S.Aloof w w') :
    (d.discipline.terms t).change w w' :=
  ⟨haloof.tasks.within, .of_tasks haloof.quiet (by rw [haloof.supervisor]; exact id)
    (Nat.le_of_eq (by rw [haloof.supervisor]))⟩

/-- Whoever is courteous keeps to the discipline. -/
theorem courteous {α : Type} {m : Act α} (h : d.Amid t job w₀ w) (hm : S.Courteous m) :
    m.Meets (d.discipline.terms t) (fun w₀ _ w => d.Amid t job w₀ w) w₀ w :=
  Steady.meets hm (d.Amid t job) (fun _ _ _ _ _ h _ hresumed => h.answered hresumed)
    (fun _ _ _ h haloof => ⟨change_of_aloof haloof, h.aloof haloof⟩) (fun _ _ _ h _ => h.yields)
    (fun _ _ _ h => h) h

end Amid

/-! ### Changes of the supervisor -/

section Control

variable {f : Supervisor → Supervisor} {ts : Tasks Job}

/-- The supervisor is changed, but neither its informer nor what was handed on. -/
theorem same_of_control (hs : S.supervisor < w.supervisors.length)
    (hserved : (f (w.supervisor S.supervisor)).informer = (w.supervisor S.supervisor).informer)
    (hhanded : (f (w.supervisor S.supervisor)).handed = (w.supervisor S.supervisor).handed)
    (ts : Tasks Job) : S.Same w ((w.changeSupervisor S.supervisor f).withTasks ts) := by
  have hsupervisor := World.supervisor_changeSupervisor hs f
  refine ⟨rfl, rfl, Nat.le_refl _, ⟨rfl, rfl, rfl⟩, Nat.le_refl _, .inl rfl, ?_, ?_, ?_⟩
  · exact Nat.le_of_eq (World.length_changeSupervisor w S.supervisor f).symm
  · exact (congrArg Supervisor.informer hsupervisor).trans hserved
  · exact (congrArg Supervisor.handed hsupervisor).trans hhanded

/-- The supervisor is changed, but keeps its tasks; those may be cancelled. -/
theorem Amid.control (h : d.Amid t job w₀ w) (hother : S.Other job)
    (hserved : (f (w.supervisor S.supervisor)).informer = (w.supervisor S.supervisor).informer)
    (hhanded : (f (w.supervisor S.supervisor)).handed = (w.supervisor S.supervisor).handed)
    (hturn : (f (w.supervisor S.supervisor)).overlapped = (w.supervisor S.supervisor).overlapped)
    (htasks : (f (w.supervisor S.supervisor)).tasks = (w.supervisor S.supervisor).tasks)
    (hcount : ∀ u, u ≠ t → (f (w.supervisor S.supervisor)).stoppers.count u
      = (w.supervisor S.supervisor).stoppers.count u)
    (hfree : S.InTurn w → (f (w.supervisor S.supervisor)).stoppers = [] → S.Idle w)
    (hwithin : w.tasks.Within ts) (hclerical : Tasks.Clerical none w.tasks ts)
    (hstruck : S.InTurn w → ∀ u, ¬ ts.Ended u → S.Polls u w →
      (∀ v, (w.tasks.task u).status ≠ .waiting (.join v)) →
      (w.supervisor S.supervisor).running = true →
      (f (w.supervisor S.supervisor)).running = true ∨ ts.Stricken u) :
    d.Amid t job w₀ ((w.changeSupervisor S.supervisor f).withTasks ts) := by
  have hsupervisor : ((w.changeSupervisor S.supervisor f).withTasks ts).supervisor S.supervisor
      = f (w.supervisor S.supervisor) := World.supervisor_changeSupervisor h.inv.1 f
  have hsame := same_of_control h.inv.1 hserved hhanded ts
  -- `f` does not touch the note of overlapping starts, so whoever is in turn was so before
  have hback (hturn' : S.InTurn ((w.changeSupervisor S.supervisor f).withTasks ts)) :
      S.InTurn w := by
    rw [InTurn, hsupervisor, hturn] at hturn'
    exact hturn'
  rw [← hsupervisor] at htasks
  refine h.step hwithin ⟨⟨?there, fun hturn' => ?holds⟩, fun u hu _ => ?spares,
    fun u job hmem => ?starts⟩ (.other hother fun hturn' => ?plays)
  case there =>
    rw [World.length_changeSupervisor]
    exact h.inv.1
  case holds =>
    -- the tasks on record are the same and nobody has ended; only who is stopping may have changed,
    -- and when nobody is left no loop is at work
    refine (h.inv.2 (hback hturn')).of_tasks htasks hwithin.length hwithin.ended hsame
      fun hnone => .inr ((idle_iff htasks hwithin.ended).mpr (hfree (hback hturn') ?_))
    rw [← hsupervisor]
    exact hnone
  case spares =>
    -- no other task is counted among the stopping more or less often, and the loop is struck if the
    -- supervisor stops running
    refine .of_tasks htasks hback (hwithin.spares u) hwithin.length hsame ?_
      fun hturn' hunended hpolls hjoin hrunning => ?_
    · rw [hsupervisor]
      exact hcount u hu
    · rw [hsupervisor]
      exact hstruck (hback hturn') u hunended hpolls hjoin hrunning
  -- cancelling starts no task
  case starts => exact .inl (hclerical.starts u job hmem)
  case plays =>
    rw [htasks]
    exact h.plays.not_watched hother (hback hturn')

end Control

/-! ### Starting -/

/-- The world once the supervisor has been started, but for the log line. -/
def started (s : SupervisorId) (w : World) : World :=
  let noted := w.changeSupervisor s fun supervisor =>
    { supervisor with overlapped := supervisor.overlapped || !supervisor.stoppers.isEmpty }
  let running := noted.changeSupervisor s fun supervisor => { supervisor with running := true }
  let polling := running.spawn (.pollLoop s) running.tasks.context
  let reporting := polling.spawn (.statusLoop s) polling.tasks.context
  let tasks := [running.tasks.table.length, polling.tasks.table.length]
  reporting.changeSupervisor s fun supervisor =>
    { supervisor with tasks, launched := tasks ++ supervisor.launched }

/-- A start sets the supervisor running with two new tasks, and notes whether a stop was under
way. -/
theorem supervisor_started {s : SupervisorId} (hs : s < w.supervisors.length) :
    (started s w).supervisor s = { w.supervisor s with
      overlapped := (w.supervisor s).overlapped || !(w.supervisor s).stoppers.isEmpty
      running := true
      tasks := [w.tasks.table.length, w.tasks.table.length + 1]
      launched := [w.tasks.table.length, w.tasks.table.length + 1] ++ (w.supervisor s).launched } := by
  simp [started, World.supervisor, World.changeSupervisor, World.spawn, Tasks.spawn, Tasks.enqueue,
    List.getElem?_modify_eq, List.getElem?_eq_getElem hs]

theorem length_started (s : SupervisorId) (w : World) :
    (started s w).tasks.table.length = w.tasks.table.length + 2 := by
  simp [started, World.spawn, Tasks.spawn, Tasks.enqueue, World.changeSupervisor]

/-- The poll loop and the status reporter are two new tasks. -/
theorem tasks_started (s : SupervisorId) (w : World) :
    w.tasks.Within (started s w).tasks ∧
      ∀ u job, .start u job ∈ (started s w).tasks.dues → .start u job ∈ w.tasks.dues ∨
        (u = w.tasks.table.length ∧ job = .pollLoop s) ∨
        (u = w.tasks.table.length + 1 ∧ job = .statusLoop s) := by
  let ts := (w.tasks.spawn (.pollLoop s) w.tasks.context).2
  have hpoll : Tasks.Op (· = Job.pollLoop s) w.tasks ts :=
    .spawn (Job.pollLoop s) w.tasks.context rfl
  have hreport : Tasks.Op (· = Job.statusLoop s) ts (started s w).tasks :=
    .spawn (Job.statusLoop s) ts.context rfl
  have hlength : ts.table.length = w.tasks.table.length + 1 := List.length_append
  refine ⟨hpoll.within.trans hreport.within, fun u job hmem => ?_⟩
  rcases hreport.starts hmem with hmem | ⟨hjob, hnew⟩
  · exact (hpoll.starts hmem).imp_right fun ⟨hjob, hnew⟩ => .inl ⟨hnew, hjob⟩
  · exact .inr (.inr ⟨hnew.trans hlength, hjob⟩)

/-- A start leaves all that a poll loop works on as it was. -/
theorem same_started (hs : S.supervisor < w.supervisors.length) :
    S.Same w (started S.supervisor w) := by
  have hsupervisor := supervisor_started hs
  refine ⟨rfl, rfl, Nat.le_refl _, ⟨rfl, rfl, rfl⟩, Nat.le_refl _, .inl rfl, ?_, ?_, ?_⟩
  · simp [started, World.spawn]
  · rw [hsupervisor]
  · rw [hsupervisor]

/-- A start makes a few changes of the supervisor, all of which keep its stops and none of which takes
its tasks, and spawns two tasks; what is left then is a line to log. -/
theorem startSupervisor_meets {terms : Terms World} {s : SupervisorId}
    {post : World → Except Failure Unit → World → Prop} (hs : s < w.supervisors.length)
    (hchange : ∀ (v : World) (f : Supervisor → Supervisor), s < v.supervisors.length →
      (∀ x, (f x).stoppers = x.stoppers) → (∀ x, (f x).tasks = [] → x.tasks = []) →
        terms.change v (v.changeSupervisor s f))
    (hspawn : ∀ (v : World) job context, terms.change v (v.spawn job context))
    (hruns : (w.supervisor s).running = true → post w₀ (.ok ()) w)
    (hstarts : (w.supervisor s).running = false →
      (Act.logOf s .info "runner_started" []).Meets terms post w₀ (Duty.started s w)) :
    (Act.startSupervisor s).Meets terms post w₀ w := by
  rw [Act.startSupervisor, meets_bind, Act.supervisor, meets_gets, byOutcome_ok]
  split
  · -- a supervisor that runs already is left alone
    exact hruns ‹_›
  · rename_i hstopped
    have hnoted := World.length_changeSupervisor w s fun supervisor =>
      { supervisor with overlapped := supervisor.overlapped || !supervisor.stoppers.isEmpty }
    -- five steps: the note, the flag, the two tasks, and their record
    refine ⟨?_, ?_, hspawn _ _ _, hspawn _ _ _, ?_, hstarts (Bool.not_eq_true _ ▸ hstopped)⟩
    · exact hchange _ _ hs (fun _ => rfl) fun _ => id
    · exact hchange _ _ (hnoted ▸ hs) (fun _ => rfl) fun _ => id
    · refine hchange _ _ ?_ (fun _ => rfl) fun _ hnone => absurd hnone (List.cons_ne_nil _ _)
      exact ((World.length_changeSupervisor _ s _).trans hnoted) ▸ hs

/-- If a start has come in turn, so has all before it, and no stop is under way. -/
theorem inTurn_of_started (hs : S.supervisor < w.supervisors.length)
    (hturn : S.InTurn (started S.supervisor w)) :
    S.InTurn w ∧ (w.supervisor S.supervisor).stoppers = [] := by
  rw [InTurn, supervisor_started hs] at hturn
  obtain ⟨hturn, hnone⟩ := Bool.or_eq_false_iff.mp hturn
  exact ⟨hturn, List.isEmpty_iff.mp (by simpa using hnone)⟩

/-- The new tasks are numbered on. -/
theorem not_mem_tasks_started (hs : S.supervisor < w.supervisors.length) {u : TaskId}
    (hlt : u < w.tasks.table.length) :
    u ∉ ((started S.supervisor w).supervisor S.supervisor).tasks := by
  rw [supervisor_started hs]
  simp only [List.mem_cons, List.not_mem_nil, or_false, not_or]
  exact ⟨Nat.ne_of_lt hlt, Nat.ne_of_lt (Nat.lt_succ_of_lt hlt)⟩

/-- While no poll loop is at work a start spares everybody: the tasks that it puts on record are
new. -/
theorem spares_started (hs : S.supervisor < w.supervisors.length)
    (hidle : S.InTurn (started S.supervisor w) → S.Idle w) (u : TaskId) :
    Spares S u w (started S.supervisor w) where
  inTurn hturn := (inTurn_of_started hs hturn).1
  tasks := (tasks_started S.supervisor w).1.spares u
  length := (tasks_started S.supervisor w).1.length
  count := by rw [supervisor_started hs]
  watched _ hlt hmem := absurd hmem (not_mem_tasks_started hs hlt)
  polls _ hlt hpolls := absurd hpolls.mem (not_mem_tasks_started hs hlt)
  polling hturn hunended hpolls :=
    absurd (((tasks_started S.supervisor w).1.ended u).mpr (hidle hturn u hpolls)) hunended
  struck _ _ _ _ _ := .inl (by rw [supervisor_started hs])
  stopping hturn hmem := by
    rw [(inTurn_of_started hs hturn).2] at hmem
    cases hmem

/-- When no loop was at work, what holds between two turns holds after a start: the new loop has not
begun. -/
theorem Holds.started (h : d.Holds w) (hs : S.supervisor < w.supervisors.length)
    (hidle : S.Idle w) : d.Holds (Duty.started S.supervisor w) where
  known u hu := by
    rw [supervisor_started hs] at hu
    rw [length_started]
    rcases List.mem_cons.mp hu with rfl | hu
    · exact Nat.lt_succ_of_lt (Nat.lt_succ_self _)
    · rw [List.mem_singleton.mp hu]
      exact Nat.lt_succ_self _
  tended := d.tended (same_started hs) h.tended
  settled _ := d.settled (same_started hs) (h.settled hidle)
  free _ := .inl (by rw [supervisor_started hs])

/-- A supervisor that does not run is started.  In turn, no stop is under way then, so that the loop
that was started before has ended. -/
theorem Amid.started (h : d.Amid t job w₀ w) (hother : S.Other job)
    (hstopped : (w.supervisor S.supervisor).running = false) :
    d.Amid t job w₀ (Duty.started S.supervisor w) := by
  have hs := h.inv.1
  obtain ⟨hwithin, hstarts⟩ := tasks_started S.supervisor w
  have hholds (hturn : S.InTurn (Duty.started S.supervisor w)) : d.Holds w :=
    h.inv.2 (inTurn_of_started hs hturn).1
  -- a supervisor that neither runs nor is being stopped has no loop at work
  have hidle (hturn : S.InTurn (Duty.started S.supervisor w)) : S.Idle w := by
    refine ((hholds hturn).free (inTurn_of_started hs hturn).2).resolve_left ?_
    rw [hstopped]
    exact Bool.false_ne_true
  refine h.step hwithin
    ⟨⟨Nat.lt_of_lt_of_le hs (same_started hs).supervisors,
      fun hturn => (hholds hturn).started hs (hidle hturn)⟩,
    fun u _ _ => spares_started hs hidle u, fun u job hmem => ?starts⟩
    (.other hother fun _ => not_mem_tasks_started hs h.orderly.lt_of_active)
  case starts =>
    rcases hstarts u job hmem with hold | ⟨rfl, rfl⟩ | ⟨rfl, rfl⟩
    · exact .inl hold
    · refine .inr (.poll fun hturn =>
        ⟨?_, d.settled (same_started hs) ((hholds hturn).settled (hidle hturn))⟩)
      rw [Polls, supervisor_started hs]
      rfl
    · -- the status reporter is the second one on record, and the first one polls
      refine .inr (.report fun _ hpolls => ?_)
      rw [Polls, supervisor_started hs] at hpolls
      exact absurd (Option.some.inj hpolls) (Nat.ne_of_lt (Nat.lt_succ_self _))

/-- A change of the supervisor that does not take its tasks from it. -/
theorem change_of_control {f : Supervisor → Supervisor} (hs : S.supervisor < w.supervisors.length)
    (htasks : (f (w.supervisor S.supervisor)).tasks = [] → (w.supervisor S.supervisor).tasks = [])
    (hstoppers : (w.supervisor S.supervisor).stoppers.length ≤
      (f (w.supervisor S.supervisor)).stoppers.length) :
    (d.discipline.terms t).change w (w.changeSupervisor S.supervisor f) := by
  refine ⟨.refl _, .of_tasks (World.asked?_of_journal rfl) ?_ ?_⟩
  · rw [World.supervisor_changeSupervisor hs]
    exact htasks
  · rw [World.supervisor_changeSupervisor hs]
    exact hstoppers

theorem change_of_spawn (new : Job) (context : Option Log.Context) :
    (d.discipline.terms t).change w (w.spawn new context) := by
  have hspawn : Tasks.Op (fun _ => True) w.tasks (w.spawn new context).tasks :=
    .spawn new context trivial
  exact ⟨hspawn.within, .of_tasks (World.asked?_of_journal rfl) id (Nat.le_refl _)⟩

/-- **A start** keeps to the discipline of the supervisor, whoever makes it. -/
theorem start_meets (h : d.Amid t job w₀ w) (hother : S.Other job) :
    (Act.startSupervisor S.supervisor).Meets (d.discipline.terms t)
      (fun w₀ _ w => d.Amid t job w₀ w) w₀ w := by
  refine startSupervisor_meets h.inv.1 (fun v f hs hstoppers htasks => ?_)
    (fun _ new context => change_of_spawn new context) (fun _ => h) fun hstopped => ?_
  · exact change_of_control hs (htasks _) (Nat.le_of_eq (congrArg List.length (hstoppers _)).symm)
  · exact (h.started hother hstopped).courteous
      (Act.logOf_steady aloof_logs S.supervisor .info "runner_started" [])

/-! ### Stopping -/

/-- Those of the tasks that have not finished are cancelled: each is struck, unless it waits for
another task. -/
theorem cancelAll_meets {terms : Terms World} {post : World → Except Failure Unit → World → Prop}
    {l : List TaskId}
    (hchange : ∀ (v : World) ts, v.tasks.Within ts → terms.change v (v.withTasks ts))
    (hpost : ∀ ts, w.tasks.Within ts → Tasks.Clerical none w.tasks ts →
      (∀ u ∈ l, u < w.tasks.table.length → ¬ ts.Ended u →
        (∀ v, (w.tasks.task u).status ≠ .waiting (.join v)) → ts.Stricken u) →
      post w₀ (.ok ()) (w.withTasks ts)) : (Act.cancelAll l).Meets terms post w₀ w := by
  -- a task that is struck stays so while the others are cancelled
  induction l generalizing w with
  | nil =>
    exact hpost w.tasks (.refl _) (.refl none _) fun _ h => nomatch h
  | cons u rest ih =>
    rw [Act.cancelAll, meets_bind, meets_state, byOutcome_ok]
    cases hfinished : w.tasks.isFinished u with
    | true =>
      -- a task that has finished is passed over, and nothing is said about it
      refine ih fun ts hwithin hclerical hrest => hpost ts hwithin hclerical
        fun v hv hlt hunended hjoin => ?_
      rcases List.mem_cons.mp hv with rfl | hv
      · exact absurd ((hwithin.ended v).mpr ⟨hlt, hfinished⟩) hunended
      · exact hrest v hv hlt hunended hjoin
    | false =>
      -- it is struck now, unless it waits for another; the strike outlasts the other cancellations
      have hcancel := (Tasks.Op.cancel u : Tasks.Op (fun _ => False) w.tasks _).within
      refine ⟨hchange w _ hcancel, ih fun ts hwithin hclerical hrest => ?_⟩
      refine hpost ts (hcancel.trans hwithin) ((Tasks.Clerical.cancel none _ u).trans hclerical)
        fun v hv hlt hunended hjoin => ?_
      rcases List.mem_cons.mp hv with rfl | hv
      · exact (hwithin.spares v).stricken (Tasks.stricken_cancel hlt hfinished hjoin)
      · exact hrest v hv (Nat.lt_of_lt_of_le hlt hcancel.length) hunended
          fun x hx => hjoin x ((hcancel.spares v).joins x hx)

/-- The world once the supervisor has given up its tasks. -/
def givenUp (s : SupervisorId) (w : World) : World :=
  w.changeSupervisor s fun supervisor => { supervisor with tasks := [] }

section GivenUp

variable (hs : S.supervisor < w.supervisors.length)

include hs

theorem supervisor_givenUp : (givenUp S.supervisor w).supervisor S.supervisor
    = { w.supervisor S.supervisor with tasks := [] } :=
  World.supervisor_changeSupervisor hs fun supervisor => { supervisor with tasks := [] }

theorem tasks_givenUp : ((givenUp S.supervisor w).supervisor S.supervisor).tasks = [] := by
  rw [supervisor_givenUp hs]

theorem inTurn_givenUp : S.InTurn (givenUp S.supervisor w) ↔ S.InTurn w := by
  rw [InTurn, supervisor_givenUp hs, InTurn]

/-- A supervisor without tasks has no loop at work. -/
theorem idle_givenUp : S.Idle (givenUp S.supervisor w) := by
  intro u hpolls
  rw [Polls, tasks_givenUp hs] at hpolls
  cases hpolls

theorem same_givenUp : S.Same w (givenUp S.supervisor w) :=
  same_of_control hs rfl rfl w.tasks

/-- While no poll loop is at work nobody loses anything when the tasks are given up. -/
theorem spares_givenUp (hidle : S.InTurn w → S.Idle w) (u : TaskId) :
    Spares S u w (givenUp S.supervisor w) where
  inTurn := (inTurn_givenUp hs).mp
  tasks := .refl u _
  length := Nat.le_refl _
  count := by rw [supervisor_givenUp hs]
  watched _ _ hmem := by
    rw [tasks_givenUp hs] at hmem
    cases hmem
  polls _ _ hpolls := by
    rw [Polls, tasks_givenUp hs] at hpolls
    cases hpolls
  polling hturn hunended hpolls := absurd (hidle ((inTurn_givenUp hs).mp hturn) u hpolls) hunended
  struck _ _ _ _ hrunning := by
    rw [supervisor_givenUp hs]
    exact .inl hrunning
  stopping _ _ := .inr (tasks_givenUp hs)

theorem Holds.givenUp (h : d.Holds w) (hidle : S.Idle w) : d.Holds (Duty.givenUp S.supervisor w) where
  known u hu := by
    rw [tasks_givenUp hs] at hu
    cases hu
  tended := d.tended (same_givenUp hs) h.tended
  settled _ := d.settled (same_givenUp hs) (h.settled hidle)
  free _ := .inr (idle_givenUp hs)

end GivenUp

/-- What is known while the supervisor is being stopped: `l` are the tasks that were cancelled, and
those in `before` have ended. -/
structure Stopping (d : Duty S) (t : TaskId) (job : Job) (l before : List TaskId) (w₀ w : World) :
    Prop extends d.Amid t job w₀ w where
  stops : t ∈ (w.supervisor S.supervisor).stoppers
  apart : S.InTurn w → t ∉ l
  known : S.InTurn w → ∀ u ∈ l, u < w.tasks.table.length
  tasks : S.InTurn w → (w.supervisor S.supervisor).tasks = l ∨
    (w.supervisor S.supervisor).tasks = []
  ended : S.InTurn w → ∀ u ∈ before, w.tasks.Ended u

namespace Stopping

variable {l before rest : List TaskId}

/-- One of the tasks is waited for, and has ended then, whatever it came to. -/
theorem join_meets (h : d.Stopping t job l before w₀ w) (hu : u ∈ l) :
    (Act.join u).Meets (d.discipline.terms t) (fun w₀ _ w => d.Stopping t job l (u :: before) w₀ w)
      w₀ w := by
  rw [Act.join, meets_bind, meets_state, byOutcome_ok]
  split
  · -- the task has finished already, and its outcome is read off at once
    rename_i outcome houtcome
    rw [meets_ofExcept]
    refine { h with ended := fun hturn v hv => ?_ }
    rcases List.mem_cons.mp hv with rfl | hv
    · refine ⟨h.known hturn v hu, ?_⟩
      rw [Tasks.isFinished, houtcome]
      rfl
    · exact h.ended hturn v hv
  · -- it is waited for, and the others take their turns meanwhile
    rw [meets_await]
    refine ⟨h.yields, fun answer w' _ _ hresumed => ?_⟩
    have hanswered := Duty.answered hresumed h.orderly
    refine { h.toAmid.answered hresumed with
      stops := hanswered.stops h.stops
      apart := fun hturn => h.apart (hanswered.inTurn hturn)
      known := fun hturn v hv =>
        Nat.lt_of_lt_of_le (h.known (hanswered.inTurn hturn) v hv) hanswered.length
      tasks := fun hturn => ?_
      ended := fun hturn v hv => ?_ }
    · rcases hanswered.stopping hturn h.stops with hsame | hnone
      · rw [hsame]
        exact h.tasks (hanswered.inTurn hturn)
      · exact .inr hnone
    · rcases List.mem_cons.mp hv with rfl | hv
      · -- the task that stops does not wait for itself, so the one waited for has ended
        refine hanswered.joined v rfl ?_
        rintro rfl
        exact h.apart (hanswered.inTurn hturn) hu
      · exact hanswered.ended v (h.ended (hanswered.inTurn hturn) v hv)

/-- The tasks are waited for, the poll loop first; a failure of one of them ends that. -/
theorem joinAll_meets (h : d.Stopping t job l [] w₀ w) :
    (Act.joinAll l).Meets (d.discipline.terms t) (byOutcome
      (fun w₀ _ w => d.Stopping t job l l w₀ w)
      fun w₀ _ w => d.Stopping t job l l.head?.toList w₀ w) w₀ w := by
  refine (Act.joinAll_meets (K := d.Stopping t job l) (fun u hu _ _ _ hw => hw.join_meets hu)
    h).mono fun w₀ r w hjoined => ?_
  rcases r with failure | _
  · obtain ⟨joined, -, hhead, hw⟩ := hjoined
    refine { hw with ended := fun hturn u hu => hw.ended hturn u ?_ }
    exact hhead u (Option.mem_toList.mp hu)
  · refine { hjoined with ended := fun hturn u hu => hjoined.ended hturn u ?_ }
    rw [List.append_nil, List.mem_reverse]
    exact hu

/-- Once the poll loop has ended, none is at work. -/
theorem idle (h : d.Stopping t job l before w₀ w) (hhead : ∀ u, l.head? = some u → u ∈ before)
    (hturn : S.InTurn w) : S.Idle w := by
  intro u hpolls
  rcases h.tasks hturn with hsame | hnone
  · rw [Polls, hsame] at hpolls
    exact h.ended hturn u (hhead u hpolls)
  · rw [Polls, hnone] at hpolls
    cases hpolls

/-- The tasks are given up when all of them have ended. -/
theorem given (h : d.Stopping t job l l w₀ w) (hother : S.Other job) :
    (d.discipline.terms t).change w (givenUp S.supervisor w) ∧
      d.Amid t job w₀ (givenUp S.supervisor w) ∧ S.Idle (givenUp S.supervisor w) := by
  have hs := h.inv.1
  -- the first task on record polls, and it has been waited for
  have hidle (hturn : S.InTurn w) : S.Idle w := h.idle (fun u hu => List.mem_of_head? hu) hturn
  refine ⟨⟨.refl _, ?asks, ?gives, ?ends⟩, ?amid, idle_givenUp hs⟩
  case asks => exact fun _ hasked => absurd (World.asked?_of_journal rfl) hasked
  case gives =>
    -- the tasks are given up only now that all of them have ended
    intro hturn hsome _ u hu
    rw [(h.tasks ((inTurn_givenUp hs).mp hturn)).resolve_right hsome] at hu
    exact h.ended ((inTurn_givenUp hs).mp hturn) u hu
  case ends =>
    -- who is stopping does not change here
    intro _ hless
    rw [supervisor_givenUp hs] at hless
    exact absurd hless (Nat.lt_irrefl _)
  case amid =>
    refine h.step (.refl _) ⟨⟨Nat.lt_of_lt_of_le hs (same_givenUp hs).supervisors, fun hturn => ?_⟩,
      fun u _ _ => spares_givenUp hs hidle u, fun _ _ hmem => .inl hmem⟩
      (.other hother fun _ hmem => ?_)
    · have hturn' := (inTurn_givenUp hs).mp hturn
      exact Holds.givenUp hs (h.inv.2 hturn') (hidle hturn')
    · rw [tasks_givenUp hs] at hmem
      cases hmem

end Stopping

/-- What is known at the end of a stop, before it is noted. -/
def Halted (d : Duty S) (t : TaskId) (job : Job) (w₀ w : World) : Prop :=
  d.Amid t job w₀ w ∧ (S.InTurn w → S.Idle w)

/-- What is aloof does not set a halted supervisor going. -/
theorem Halted.aloof (h : d.Halted t job w₀ w) (haloof : S.Aloof w w') : d.Halted t job w₀ w' := by
  refine ⟨h.1.aloof haloof, fun hturn => ?_⟩
  refine (idle_iff ?_ haloof.tasks.within.ended).mpr (h.2 ((haloof.spares t).inTurn hturn))
  rw [haloof.supervisor]

/-- The rest of a stop, once both tasks have been cancelled. -/
theorem halt_meets {l : List TaskId} (h : d.Stopping t job l [] w₀ w) (hother : S.Other job) :
    (do
      Act.joinAll l
      Act.setTasks S.supervisor []
      Act.logOf S.supervisor .info "runner_stopped" []).Meets (d.discipline.terms t)
        (fun w₀ _ w => d.Halted t job w₀ w) w₀ w := by
  rw [meets_bind]
  refine h.joinAll_meets.mono fun w₀ r w hjoined => ?_
  rcases r with failure | _
  · exact ⟨hjoined.toAmid, hjoined.idle fun u hu => Option.mem_toList.mpr hu⟩
  · obtain ⟨hchange, hamid, hidle⟩ := Stopping.given hjoined hother
    rw [byOutcome_ok, Act.setTasks, meets_bind, meets_update, byOutcome_ok]
    refine ⟨hchange, ?_⟩
    refine (Act.logOf_steady aloof_logs S.supervisor .info _ _).meets_at_once (d.Halted t job w₀)
      (fun v v' hv haloof => ⟨Amid.change_of_aloof haloof, hv.aloof haloof⟩) (fun _ _ hv => hv)
      ⟨hamid, fun _ => hidle⟩

/-- The world once the supervisor is to run no more. -/
def halting (s : SupervisorId) (w : World) : World :=
  w.changeSupervisor s fun supervisor => { supervisor with running := false }

theorem supervisor_halting (hs : S.supervisor < w.supervisors.length) :
    (halting S.supervisor w).supervisor S.supervisor
      = { w.supervisor S.supervisor with running := false } :=
  World.supervisor_changeSupervisor hs fun supervisor => { supervisor with running := false }

/-- The body of a stop: the supervisor runs no more, its tasks are cancelled, and waited for. -/
theorem stopping_meets (h : d.Amid t job w₀ w) (hother : S.Other job)
    (hstops : t ∈ (w.supervisor S.supervisor).stoppers) :
    (do
      Act.setRunning S.supervisor false
      Act.cancelAll (← Act.supervisor S.supervisor).tasks
      Act.joinAll (← Act.supervisor S.supervisor).tasks
      Act.setTasks S.supervisor []
      Act.logOf S.supervisor .info "runner_stopped" []).Meets (d.discipline.terms t)
        (fun w₀ _ w => d.Halted t job w₀ w) w₀ w := by
  rw [Act.setRunning, meets_bind, meets_update, byOutcome_ok, Act.supervisor, meets_bind, meets_gets,
    byOutcome_ok, meets_bind, ← halting, supervisor_halting h.inv.1]
  refine ⟨change_of_control h.inv.1 id (Nat.le_refl _), cancelAll_meets (fun v ts hwithin =>
    ⟨hwithin, .of_tasks (World.asked?_of_journal rfl) id (Nat.le_refl _)⟩)
      fun ts hwithin hclerical hstricken => ?_⟩
  -- the supervisor is stopped and its poll loop struck at once
  have hcancelled : d.Amid t job w₀ ((halting S.supervisor w).withTasks ts) := by
    refine h.control hother rfl rfl rfl rfl (fun _ _ => rfl) (fun _ hnone => ?_) hwithin hclerical
      fun hturn u hunended hpolls hjoin _ => .inr ?_
    · exact absurd hstops (hnone ▸ List.not_mem_nil)
    · exact hstricken u hpolls.mem ((h.inv.2 hturn).known u hpolls.mem) hunended hjoin
  rw [byOutcome_ok, meets_bind, meets_gets, byOutcome_ok]
  refine halt_meets ⟨hcancelled, ?_, fun hturn => hcancelled.plays.not_watched hother hturn,
    fun hturn => (hcancelled.inv.2 hturn).known, fun _ => .inl rfl,
    fun _ _ hu => absurd hu List.not_mem_nil⟩ hother
  show t ∈ ((halting S.supervisor w).supervisor S.supervisor).stoppers
  rw [supervisor_halting h.inv.1]
  exact hstops

/-- **A stop** keeps to the discipline of the supervisor, whoever makes it and whatever becomes of
its waits. -/
theorem stop_meets (h : d.Amid t job w₀ w) (hother : S.Other job) :
    (Act.stopSupervisor S.supervisor).Meets (d.discipline.terms t)
      (fun w₀ _ w => d.Amid t job w₀ w) w₀ w := by
  -- first the task is noted among those that stop the supervisor
  have hnoted : d.Amid t job w₀ (w.changeSupervisor S.supervisor fun supervisor =>
      { supervisor with stoppers := w.tasks.current :: supervisor.stoppers }) := by
    refine h.control hother rfl rfl rfl rfl (fun u hu => ?_) (fun _ hnone => nomatch hnone) (.refl _)
      (.refl none _) fun _ _ _ _ _ hrunning => .inl hrunning
    rw [h.current]
    exact List.count_cons_of_ne (Ne.symm hu)
  rw [Act.stopSupervisor, meets_bind, Act.noteStop, meets_update, byOutcome_ok, meets_ensure]
  refine ⟨change_of_control h.inv.1 id (Nat.le_succ _), (stopping_meets hnoted hother ?_).mono
    fun w₀ r w hhalted => ?_⟩
  · rw [World.supervisor_changeSupervisor h.inv.1, h.current]
    exact List.mem_cons_self
  · -- at the end it is struck off, by when no loop is at work however the stop went
    obtain ⟨hamid, hidle⟩ := hhalted
    -- striking it off changes nothing that a loop at work would go by
    have hstopped : d.Amid t job w₀ (w.changeSupervisor S.supervisor fun supervisor =>
        { supervisor with stoppers := supervisor.stoppers.erase w.tasks.current }) := by
      refine hamid.control hother rfl rfl rfl rfl (fun u hu => ?_) (fun hturn _ => hidle hturn)
        (.refl _) (.refl none _) fun _ _ _ _ _ hrunning => .inl hrunning
      rw [hamid.current]
      exact List.count_erase_of_ne hu
    have hsupervisor := World.supervisor_changeSupervisor hamid.inv.1 fun supervisor =>
      { supervisor with stoppers := supervisor.stoppers.erase w.tasks.current }
    rw [Act.noteStopped, meets_update]
    refine ⟨⟨.refl _, fun _ hasked => absurd (World.asked?_of_journal rfl) hasked,
      fun _ hsome hnone => ?_, fun hturn _ => ?_⟩, hstopped⟩
    · rw [hsupervisor] at hnone
      exact absurd hnone hsome
    · have hback : S.InTurn w := by
        rw [InTurn, hsupervisor] at hturn
        exact hturn
      have hhalted : S.Idle (w.changeSupervisor S.supervisor fun supervisor =>
          { supervisor with stoppers := supervisor.stoppers.erase w.tasks.current }) := by
        refine (idle_iff ?_ ?_).mpr (hidle hback)
        · rw [hsupervisor]
        · exact fun _ => Iff.rfl
      exact ⟨hhalted, (hstopped.inv.2 hturn).settled hhalted⟩

/-- Whoever starts and stops the supervisor keeps to its discipline. -/
theorem controls_meets {α : Type} {m : Act α} (hm : S.Controls m) (hother : S.Other job)
    (h : d.Amid t job w₀ w) :
    m.Meets (d.discipline.terms t) (fun w₀ _ w => d.Amid t job w₀ w) w₀ w :=
  hm.meets (fun hm _ _ h => h.courteous hm) (fun _ _ h => start_meets h hother)
    (fun _ _ h => stop_meets h hother) h

end Duty

end ResumableWatch
