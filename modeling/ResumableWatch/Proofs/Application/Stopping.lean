import ResumableWatch.Application
import ResumableWatch.Proofs.Application.Standing
import ResumableWatch.Proofs.Supervisor.Control
/-!
# Stopping the application

A stop takes down one thing after the other, and waits twice: for the tasks of the supervisor, and
while the API client is closed.  Another stop may be under way meanwhile, and what that one takes down
is gone as well; so all that a stop knows of itself lasts while others act (`Lasting`), and at its end
the application has been stopped (`stopApplication_meets`).

The rest of what is done in a run of the main task leaves all of this alone (`World.Bystands`).
-/

namespace ResumableWatch

open ResumableWatch.Fiber World

/-! ### Leaving the application alone -/

/-- The same application, but for its configuration and its informer. -/
structure Application.Alike (a a' : Application) : Prop where
  running : a'.running = a.running
  hasClient : a'.hasClient = a.hasClient
  hadClient : a'.hadClient = a.hadClient
  supervisor : a'.supervisor = a.supervisor
  shutdownRequested : a'.shutdownRequested = a.shutdownRequested
  shutdown : a'.shutdown = a.shutdown

/-- The same supervisor, but for what it does with its tasks. -/
structure Supervisor.Alike (x x' : Supervisor) : Prop where
  handler : x'.handler = x.handler
  tasks : x'.tasks = x.tasks
  launched : x'.launched = x.launched

/-- A change that leaves the application and its supervisors alone, and starts nothing. -/
structure World.Bystands (w w' : World) : Prop where
  tasks : Tasks.Op (fun _ => False) w.tasks w'.tasks
  surroundings : w'.surroundings = w.surroundings
  count : w'.supervisors.length = w.supervisors.length
  supervisor : ∀ s, (w.supervisor s).Alike (w'.supervisor s)
  application : w.application.Alike w'.application

variable {α : Type} {t u : TaskId} {n : Nat} {s : SupervisorId} {l before : List TaskId}
  {w₀ w w' : World}

namespace World.Bystands

theorem of_same (htasks : Tasks.Op (fun _ => False) w.tasks w'.tasks)
    (hsurroundings : w'.surroundings = w.surroundings) (hsupervisors : w'.supervisors = w.supervisors)
    (happlication : w.application.Alike w'.application) : Bystands w w' where
  tasks := htasks
  surroundings := hsurroundings
  count := by rw [hsupervisors]
  supervisor s := by
    rw [World.supervisor, World.supervisor, hsupervisors]
    exact ⟨rfl, rfl, rfl⟩
  application := happlication

/-- The tasks, the supervisors and the application are as they were. -/
theorem untouched (htasks : w'.tasks = w.tasks) (hsurroundings : w'.surroundings = w.surroundings)
    (hsupervisors : w'.supervisors = w.supervisors)
    (happlication : w'.application = w.application) : Bystands w w' := by
  refine of_same ?_ hsurroundings hsupervisors ?_
  · rw [htasks]
    exact .same
  · rw [happlication]
    exact ⟨rfl, rfl, rfl, rfl, rfl, rfl⟩

theorem changeSupervisor (w : World) (s : SupervisorId) {f : Supervisor → Supervisor}
    (hf : ∀ x : Supervisor, x.Alike (f x)) : Bystands w (w.changeSupervisor s f) where
  tasks := .same
  surroundings := rfl
  count := World.length_changeSupervisor w s f
  supervisor s' := by
    rcases World.supervisor_changeSupervisor_cases w s s' f with heq | heq
    · rw [heq]
      exact ⟨rfl, rfl, rfl⟩
    · rw [heq]
      exact hf _
  application := ⟨rfl, rfl, rfl, rfl, rfl, rfl⟩

theorem cancel (w : World) (t : TaskId) : Bystands w (w.changeTasks (·.cancel t)) :=
  .of_same (.cancel t) rfl rfl ⟨rfl, rfl, rfl, rfl, rfl, rfl⟩

/-- A bystander takes down nothing, and so it does no harm to what is being taken down. -/
theorem lowers (h : Bystands w w') : Lowers w w' where
  length := h.tasks.length
  ended u := (h.tasks.within.ended u).mpr
  surroundings := h.surroundings
  count := h.count
  handler s := (h.supervisor s).handler
  launched s := (h.supervisor s).launched
  tasks s := .inl (h.supervisor s).tasks
  supervisor := .inl h.application.supervisor
  hadClient := h.application.hadClient
  client hclient := h.application.hasClient ▸ hclient
  running hrunning := h.application.running ▸ hrunning
  shutdown _ ht := h.application.shutdown.trans ht

/-- A bystander leaves the application standing. -/
theorem standing (h : Bystands w w') (hinv : w.Standing) : w'.Standing := by
  refine hinv.follows_of_same ⟨h.lowers, fun u hu => ?_, fun s => .inl (h.supervisor s).tasks,
    .inl h.application.supervisor⟩ (fun u r => (h.tasks.within.cameTo u r).mp) h.application.shutdown
  rw [h.application.shutdown] at hu
  obtain ⟨hrequested, hpos, hlt⟩ := hinv.requested u hu
  exact ⟨h.application.shutdownRequested.trans hrequested, hpos,
    Nat.lt_of_lt_of_le hlt h.lowers.length⟩

end World.Bystands

/-- All that a poll loop does, but for its handler, is done by a bystander. -/
theorem bystands_polling : TolerantOfPolling Bystands where
  log w level component event fields lines := by
    obtain ⟨entries, heq, -⟩ := World.log_eq w level component event fields lines
    rw [heq]
    exact .untouched rfl rfl rfl rfl
  closed _ _ _ := .untouched rfl rfl rfl rfl
  metrics _ _ := .untouched rfl rfl rfl rfl
  connection _ _ _ _ := .untouched rfl rfl rfl rfl
  keep _ _ _ := .untouched rfl rfl rfl rfl
  handedOver _ _ _ := .untouched rfl rfl rfl rfl
  informer _ _ _ _ := .untouched rfl rfl rfl rfl
  stream _ _ _ _ := .untouched rfl rfl rfl rfl
  cursor _ _ _ := .untouched rfl rfl rfl rfl
  reset _ _ := .untouched rfl rfl rfl rfl
  clear _ _ := .untouched rfl rfl rfl rfl
  observed _ _ _ := .untouched rfl rfl rfl rfl
  opened _ _ _ := .untouched rfl rfl rfl rfl
  added _ _ := .untouched rfl rfl rfl rfl
  server _ _ := .untouched rfl rfl rfl rfl
  request _ _ _ := .untouched rfl rfl rfl rfl
  handed w s _ := .changeSupervisor w s fun _ => ⟨rfl, rfl, rfl⟩

/-- So is whatever is only entered into the journal. -/
theorem bystands_entries : TolerantOfEntries Bystands where
  toTolerantOfLogs := bystands_polling.toTolerantOfLogs
  record _ _ _ := .untouched rfl rfl rfl rfl

/-! ### In the midst of a turn -/

/-- What a task knows in the midst of a turn that it began in `w₀`. -/
structure Acting (t : TaskId) (w₀ w : World) : Prop where
  yields : mainDiscipline.Yields t w₀ w
  current : w.tasks.current = t
  orderly : w.tasks.Orderly (some t)

/-- What is known of the world lasts while the application is only taken down. -/
def Lasting (K : World → Prop) : Prop := ∀ w w', Lowers w w' → K w → K w'

/-- Both last. -/
theorem Lasting.and {K K' : World → Prop} (h : Lasting K) (h' : Lasting K') :
    Lasting fun w => K w ∧ K' w := fun w w' hl hw => ⟨h w w' hl hw.1, h' w w' hl hw.2⟩

namespace Acting

theorem inv (h : Acting t w₀ w) : w.Standing := h.yields.inv

theorem unended (h : Acting t w₀ w) : ¬ w.tasks.Ended t :=
  fun hended => h.orderly.not_parked hended.parked

/-- A turn begins. -/
theorem begin (hinv : w.Standing) (hcurrent : w.tasks.current = t)
    (horderly : w.tasks.Orderly (some t)) : Acting t w w :=
  ⟨.refl hinv t, hcurrent, horderly⟩

/-- The turn goes on by taking something down. -/
theorem lowered (h : Acting t w₀ w) (hop : Tasks.Op (fun _ => False) w.tasks w'.tasks)
    (hl : Lowers w w') (hinv : w'.Standing)
    (hshutdown : w'.application.shutdown = w.application.shutdown)
    (hsteered : t ≠ 0 → w.Steered → w'.Steered) : Acting t w₀ w' := by
  have hwithin := hop.within
  refine ⟨h.yields.trans ⟨hinv, fun u hu _ => ⟨hwithin.spares u, ?_⟩, fun u job hmem => ?_⟩
    h.orderly hwithin, hwithin.current.trans h.current, hwithin.orderly _ h.orderly⟩
  · refine ⟨hwithin.length, Nat.le_of_eq hl.count.symm, fun s v hv _ => ?_, hl.shutdown,
      fun v hv => .inl (hshutdown ▸ hv), fun _ => hl, fun hmain => ?_⟩
    · rw [← hl.launched]
      exact hv
    · -- the main task counts on this only while another one acts
      exact hsteered fun ht => hu (hmain.trans ht.symm)
  · rcases hop.starts hmem with hold | hnone
    · exact .inl hold
    · exact hnone.1.elim

/-- The turn goes on by what leaves the application alone. -/
theorem bystands (h : Acting t w₀ w) (hb : Bystands w w') : Acting t w₀ w' := by
  refine h.lowered hb.tasks hb.lowers (hb.standing h.inv) hb.application.shutdown
    fun _ hsteered => ?_
  rcases hsteered with hrunning | hquits
  · exact .inl (hb.application.running.trans hrunning)
  · exact .inr (hb.lowers.quits (fun v => (hb.tasks.within.cameTo v _).mp) hquits)

/-- A single change that leaves the application alone. -/
theorem step (h : Acting t w₀ w) (hb : Bystands w w') :
    (mainDiscipline.terms t).change w w' ∧ Acting t w₀ w' :=
  ⟨⟨hb.tasks.within, hb.surroundings⟩, h.bystands hb⟩

/-- A wait is over: the others have left the application as they have to, and a new turn begins. -/
theorem resumed (h : Acting t w₀ w) {what : Wait} {answer : Wakeup}
    (hresumed : mainDiscipline.Resumed t w what answer w') : Leaves t w w' ∧ Acting t w' w' := by
  obtain ⟨found, hspares, heq, hlength, hcame, -, -⟩ := hresumed.meanwhile
  obtain ⟨-, hclerical, -, -, -⟩ := h.orderly.suspend what
  refine ⟨?_, begin hresumed.inv hresumed.current hresumed.orderly⟩
  have hbefore : Leaves t w (w.withTasks (w.tasks.suspend t what)) :=
    .of_books hclerical.length hclerical.cameTo
  have hafter : Leaves t found w' := by
    rw [heq]
    exact .of_books hlength hcame
  exact (hbefore.trans hspares.2).trans hafter

/-- What lasts is still known after the wait of somebody who may count on that nothing is made. -/
theorem lasts (h : Acting t w₀ w) {what : Wait} {answer : Wakeup}
    (hresumed : mainDiscipline.Resumed t w what answer w')
    (hwho : t = 0 ∨ w.application.hadClient = true) {K : World → Prop} (hK : Lasting K)
    (hw : K w) : K w' :=
  hK w w' ((h.resumed hresumed).1.lowers hwho) hw

/-- Who leaves the application alone and does not wait keeps to the discipline. -/
theorem at_once (h : Acting t w₀ w) {m : Act α} (hm : Steady Bystands (fun _ => False) m)
    {K : World → Prop} (hK : Lasting K) (hw : K w) :
    m.Meets (mainDiscipline.terms t) (fun w₀ _ w => Acting t w₀ w ∧ K w) w₀ w := by
  refine hm.meets_at_once (fun v => Acting t w₀ v ∧ K v) (fun v v' hv hb => ⟨?_, ?_⟩)
    (fun _ _ hv => hv) ⟨h, hw⟩
  · exact ⟨hb.tasks.within, hb.surroundings⟩
  · exact ⟨hv.1.bystands hb, hK v v' hb.lowers hv.2⟩

end Acting

/-- After that it goes on. -/
theorem Acting.and_then {β : Type} (h : Acting t w₀ w) {m : Act α} {f : α → Act β}
    {post : World → Except Failure β → World → Prop} (hm : Steady Bystands (fun _ => False) m)
    {K : World → Prop} (hK : Lasting K) (hw : K w)
    (hnext : ∀ a w₀ w, Acting t w₀ w → K w → (f a).Meets (mainDiscipline.terms t) post w₀ w)
    (hfail : ∀ e w₀ w, Acting t w₀ w → K w → post w₀ (.error e) w) :
    (m >>= f).Meets (mainDiscipline.terms t) post w₀ w := by
  rw [meets_bind]
  refine (h.at_once hm hK hw).mono fun w₀ r w hr => ?_
  cases r with
  | ok a => exact hnext a w₀ w hr.1 hr.2
  | error e => exact hfail e w₀ w hr.1 hr.2

/-! ### Who stops the application -/

/-- What is known of a task that stops the application: it is the main task or the shutdown.  There
are `n` supervisors. -/
structure Stops (t : TaskId) (n : Nat) (w : World) : Prop where
  who : t = 0 ∨ w.application.shutdown = some t
  count : w.supervisors.length = n
  apart : ∀ s, t ∉ (w.supervisor s).launched

/-- A stop that is under way stays so, and what it was started with is still known. -/
theorem lasting_stops (t : TaskId) (n : Nat) : Lasting (Stops t n) := by
  intro w w' hl h
  refine ⟨h.who.imp_right (hl.shutdown t), hl.count.trans h.count, fun s => ?_⟩
  rw [hl.launched]
  exact h.apart s

theorem lasting_not_running : Lasting fun w => w.application.running = false :=
  fun _ _ hl h => hl.not_running h

theorem lasting_atRest : Lasting AtRest := fun _ _ hl h => hl.atRest h

theorem lasting_stopped : Lasting World.Stopped := fun _ _ hl h => hl.stopped h

/-- Somebody who may stop the application takes something down. -/
theorem Acting.takes_down (h : Acting t w₀ w) (hs : Stops t n w) (htasks : w'.tasks = w.tasks)
    (hl : Lowers w w') (hshutdown : w'.application.shutdown = w.application.shutdown)
    (hrequested : w'.application.shutdownRequested = w.application.shutdownRequested)
    (hwatched : ∀ s, (w'.supervisor s).tasks = (w.supervisor s).tasks ∨
      ∀ u ∈ (w.supervisor s).launched, w.tasks.Ended u)
    (howned : w'.application.supervisor = w.application.supervisor ∨
      ∀ s, w.application.supervisor = some s → ∀ u ∈ (w.supervisor s).launched, w.tasks.Ended u) :
    (mainDiscipline.terms t).change w w' ∧ Acting t w₀ w' := by
  have hwithin : w.tasks.Within w'.tasks := .of_eq htasks
  have hop : Tasks.Op (fun _ => False) w.tasks w'.tasks := by
    rw [htasks]
    exact .same
  have hinv : w'.Standing := by
    refine h.inv.follows_of_same ⟨hl, fun u hu => ?_, fun s => ?_, ?_⟩
      (fun u r => (hwithin.cameTo u r).mp) hshutdown
    · rw [hshutdown] at hu
      rw [hrequested, htasks]
      exact h.inv.requested u hu
    · rw [htasks]
      exact hwatched s
    · rw [htasks]
      exact howned
  refine ⟨⟨hwithin, hl.surroundings⟩, h.lowered hop hl hinv hshutdown fun hmain _ => ?_⟩
  · -- a shutdown that is under way has not come to its end
    refine .inr ⟨t, hl.shutdown t (hs.who.resolve_left hmain), fun hok => ?_⟩
    exact absurd ((hwithin.ended t).mp hok.ended) h.unended

/-- The same application, less what has been taken down. -/
structure Application.Lessened (a a' : Application) : Prop where
  running : a'.running = true → a.running = true
  hasClient : a'.hasClient = true → a.hasClient = true
  supervisor : a'.supervisor = a.supervisor ∨ a'.supervisor = none
  hadClient : a'.hadClient = a.hadClient
  shutdownRequested : a'.shutdownRequested = a.shutdownRequested
  shutdown : a'.shutdown = a.shutdown

/-- An application that is lessened is taken down, and not built up. -/
theorem Application.Lessened.lowers {f : Application → Application}
    (hf : w.application.Lessened (f w.application)) : Lowers w (w.changeApplication f) where
  length := Nat.le_refl _
  ended _ := id
  surroundings := rfl
  count := rfl
  handler _ := rfl
  launched _ := rfl
  tasks _ := .inl rfl
  supervisor := hf.supervisor
  hadClient := hf.hadClient
  client := hf.hasClient
  running := hf.running
  shutdown _ ht := hf.shutdown.trans ht

/-! ### Stopping the supervisor -/

/-- What is known of an application that is stopped, and of its supervisor `s`. -/
structure Halts (s : SupervisorId) (w : World) : Prop where
  had : w.application.hadClient = true
  down : w.application.running = false
  only : ∀ s', w.application.supervisor = some s' → s' = s

/-- What is known while the tasks `l` of the supervisor are waited for; those in `before` have
ended. -/
structure Halting (s : SupervisorId) (l before : List TaskId) (w : World) : Prop
    extends Halts s w where
  known : ∀ u ∈ l, u < w.tasks.table.length
  covered : ∀ u ∈ (w.supervisor s).launched, u ∈ l ∨ w.tasks.Ended u
  ended : ∀ u ∈ before, w.tasks.Ended u

theorem lasting_halts (s : SupervisorId) : Lasting (Halts s) := by
  intro w w' hl h
  refine ⟨hl.hadClient.trans h.had, hl.not_running h.down, fun s' hs' => ?_⟩
  rcases hl.supervisor with heq | hnone
  · exact h.only s' (heq.symm.trans hs')
  · rw [hnone] at hs'
    cases hs'

theorem lasting_halting (s : SupervisorId) (l before : List TaskId) :
    Lasting (Halting s l before) := by
  intro w w' hl h
  refine { lasting_halts s w w' hl h.toHalts with
    known := fun u hu => Nat.lt_of_lt_of_le (h.known u hu) hl.length
    covered := fun u hu => ?_
    ended := fun u hu => hl.ended u (h.ended u hu) }
  rw [hl.launched] at hu
  exact (h.covered u hu).imp_right (hl.ended u)

/-- The tasks that the supervisor watches over are all that have not ended. -/
theorem Halts.halting (h : Halts s w) (hinv : w.Standing) :
    Halting s (w.supervisor s).tasks [] w where
  toHalts := h
  known u hu := hinv.known s u (hinv.given s u hu)
  covered := hinv.watched s
  ended _ hu := absurd hu List.not_mem_nil

/-- When all that was to be waited for has ended, nothing of the supervisor is alive. -/
theorem Halting.launched_ended (h : Halting s l l w) :
    ∀ u ∈ (w.supervisor s).launched, w.tasks.Ended u :=
  fun u hu => (h.covered u hu).elim (h.ended u) id

/-- When the tasks of the supervisor of the application have ended, all is at rest. -/
theorem Halting.atRest (h : Halting s l l w) (hinv : w.Standing) : w.AtRest := by
  intro s' u hu
  by_cases hs' : s' = s
  · rw [hs'] at hu
    exact h.launched_ended u hu
  · exact hinv.owned s' (fun hsome => hs' (h.only s' hsome)) u hu

namespace Act

/-- The application is changed in one step. -/
@[simp] theorem meets_changeApplication {terms : Terms World}
    {post : World → Except Failure Unit → World → Prop} (f : Application → Application) :
    (Act.changeApplication f).Meets terms post w₀ w ↔
      terms.change w (w.changeApplication f) ∧ post w₀ (.ok ()) (w.changeApplication f) :=
  meets_update _

/-- Somebody who may stop the application lessens it.  The supervisor goes when all is at rest. -/
theorem lessen_meets (h : Acting t w₀ w) (hs : Stops t n w)
    {f : Application → Application} (hf : w.application.Lessened (f w.application))
    (howned : (f w.application).supervisor = w.application.supervisor ∨ w.AtRest)
    {post : World → Except Failure Unit → World → Prop}
    (hpost : Acting t w₀ (w.changeApplication f) → Stops t n (w.changeApplication f) →
      post w₀ (.ok ()) (w.changeApplication f)) :
    (changeApplication f).Meets (mainDiscipline.terms t) post w₀ w := by
  obtain ⟨hchange, hacting⟩ :
      (mainDiscipline.terms t).change w (w.changeApplication f) ∧
        Acting t w₀ (w.changeApplication f) :=
    h.takes_down hs rfl hf.lowers hf.shutdown hf.shutdownRequested (fun _ => .inl rfl)
      (howned.imp_right fun hrest s _ => hrest s)
  rw [meets_changeApplication]
  exact ⟨hchange, hpost hacting (lasting_stops t n w _ hf.lowers hs)⟩

/-- Cancelling only marks and wakes tasks. -/
theorem cancelAll_bystands (l : List TaskId) {waits : Wait → Prop} :
    Steady Bystands waits (cancelAll l) := by
  induction l with
  | nil => exact Steady.pure ()
  | cons u rest ih =>
    refine Steady.state.bind fun w => ?_
    dsimp only
    split
    · exact (Steady.update fun w => Bystands.cancel w u).bind fun _ => ih
    · exact ih

/-- One of the tasks is waited for, and has ended then. -/
theorem join_meets (h : Acting t w₀ w) (hs : Stops t n w) (hw : Halting s l before w)
    (hapart : t ∉ l) (hu : u ∈ l) :
    (join u).Meets (mainDiscipline.terms t)
      (fun w₀ _ w => Acting t w₀ w ∧ Stops t n w ∧ Halting s l (u :: before) w) w₀ w := by
  rw [join, meets_bind, meets_state, byOutcome_ok]
  split
  · -- it has ended before, and nothing is waited for
    rename_i outcome houtcome
    rw [meets_ofExcept]
    refine ⟨h, hs, { hw with ended := fun v hv => ?_ }⟩
    rcases List.mem_cons.mp hv with rfl | hv
    · exact Tasks.CameTo.ended ⟨hw.known v hu, houtcome⟩
    · exact hw.ended v hv
  · rw [meets_await]
    refine ⟨h.yields, fun answer w' _ _ hresumed => ?_⟩
    have hlasts := h.lasts hresumed (.inr hw.had)
      ((lasting_stops t n).and (lasting_halting s l before)) ⟨hs, hw⟩
    refine ⟨(h.resumed hresumed).2, hlasts.1, { hlasts.2 with ended := fun v hv => ?_ }⟩
    rcases List.mem_cons.mp hv with rfl | hv
    · obtain ⟨found, -, -, -, hcame, -, hjoined⟩ := hresumed.meanwhile
      refine (Tasks.ended_congr (hcame v)).mpr (hjoined v rfl ?_)
      rintro rfl
      exact hapart hu
    · exact hlasts.2.ended v hv

/-- The tasks of the supervisor are given up when all of them have ended. -/
theorem setTasks_meets (h : Acting t w₀ w) (hs : Stops t n w) (hw : Halting s l l w) :
    (setTasks s []).Meets (mainDiscipline.terms t)
      (byOutcome (fun w₀ _ w => Acting t w₀ w ∧ Stops t n w ∧ Halting s l l w)
        fun _ _ _ => False) w₀ w := by
  rw [setTasks, meets_update]
  let given := w.changeSupervisor s fun supervisor => { supervisor with tasks := [] }
  -- of all supervisors the tasks of one are given up, and the others are not touched
  have hgiven (s' : SupervisorId) : given.supervisor s' = w.supervisor s' ∨
      given.supervisor s' = { w.supervisor s' with tasks := [] } :=
    World.supervisor_changeSupervisor_cases w s s' _
  have hl : Lowers w given := by
    refine ⟨Nat.le_refl _, fun _ => id, rfl, World.length_changeSupervisor w s _, fun s' => ?_,
      fun s' => ?_, fun s' => ?_, .inl rfl, rfl, id, id, fun _ => id⟩
    · rcases hgiven s' with heq | heq <;> rw [heq]
    · rcases hgiven s' with heq | heq <;> rw [heq]
    · rcases hgiven s' with heq | heq
      · exact .inl (by rw [heq])
      · exact .inr (by rw [heq])
  -- this takes down the last of it: all that the supervisor launched has ended
  obtain ⟨hchange, hacting⟩ : (mainDiscipline.terms t).change w given ∧ Acting t w₀ given :=
    h.takes_down hs rfl hl rfl rfl (fun s' => .inr (hw.atRest h.inv s')) (.inl rfl)
  exact ⟨hchange, hacting, lasting_stops t n w given hl hs, lasting_halting s l l w given hl hw⟩

/-- The tasks are cancelled and waited for, and given up. -/
theorem halt_meets (h : Acting t w₀ w) (hs : Stops t n w) (hw : Halts s w) :
    (do
      setRunning s false
      cancelAll (← supervisor s).tasks
      joinAll (← supervisor s).tasks
      setTasks s []
      logOf s .info "runner_stopped" []).Meets (mainDiscipline.terms t)
        (byOutcome (fun w₀ _ w => Acting t w₀ w ∧ Stops t n w ∧
            w.application.running = false ∧ w.AtRest)
          fun w₀ _ w => Acting t w₀ w ∧ Stops t n w) w₀ w := by
  have hK := (lasting_stops t n).and (lasting_halts s)
  refine h.and_then (Steady.update fun w => .changeSupervisor w s fun _ => ⟨rfl, rfl, rfl⟩) hK
    ⟨hs, hw⟩ (fun _ w₀ w h hk => ?_) fun _ w₀ w h hk => ⟨h, hk.1⟩
  refine h.and_then (Steady.gets _) hK hk (fun x w₀ w h hk => ?_) fun _ w₀ w h hk => ⟨h, hk.1⟩
  refine h.and_then (cancelAll_bystands x.tasks) hK hk (fun _ w₀ w h hk => ?_)
    fun _ w₀ w h hk => ⟨h, hk.1⟩
  obtain ⟨hs, hw⟩ := hk
  rw [supervisor, meets_bind, meets_gets, byOutcome_ok, meets_bind]
  -- the tasks are read anew; only those found now are waited for
  have hapart : t ∉ (w.supervisor s).tasks := fun hmem => hs.apart s (h.inv.given s t hmem)
  refine (joinAll_meets (K := fun before w₀ v => Acting t w₀ v ∧ Stops t n v ∧
    Halting s (w.supervisor s).tasks before v) (fun u hu before w₀ w hk =>
      join_meets hk.1 hk.2.1 hk.2.2 hapart hu) ⟨h, hs, hw.halting h.inv⟩).mono
    fun w₀ r v hjoined => ?_
  rcases r with failure | _
  · obtain ⟨joined, -, -, hk⟩ := hjoined
    exact ⟨hk.1, hk.2.1⟩
  · obtain ⟨h, hs, hw⟩ := hjoined
    have hall : Halting s (w.supervisor s).tasks (w.supervisor s).tasks v :=
      { hw with ended := fun u hu => hw.ended u (by simpa using hu) }
    rw [byOutcome_ok, meets_bind]
    refine (setTasks_meets h hs hall).mono fun w₀ r w hr => ?_
    rcases r with failure | _
    · exact hr.elim
    · obtain ⟨h, hs, hw⟩ := hr
      have hdone := h.at_once (logOf_steady bystands_polling.toTolerantOfLogs s .info
        "runner_stopped" []) ((lasting_stops t n).and (lasting_not_running.and lasting_atRest))
        ⟨hs, hw.down, hw.atRest h.inv⟩
      refine hdone.mono fun w₀ r w hr => ?_
      cases r with
      | ok _ => exact hr
      | error e => exact ⟨hr.1, hr.2.1⟩

/-- The supervisor of the application is stopped. -/
theorem stopSupervisor_meets (h : Acting t w₀ w) (hs : Stops t n w)
    (hdown : w.application.running = false) (hsupervisor : w.application.supervisor = some s) :
    (stopSupervisor s).Meets (mainDiscipline.terms t)
      (byOutcome (fun w₀ _ w => Acting t w₀ w ∧ Stops t n w ∧
          w.application.running = false ∧ w.AtRest)
        fun w₀ _ w => Acting t w₀ w ∧ Stops t n w) w₀ w := by
  -- nobody else is owned, so this is the one whose tasks are given up
  have hhalts : Halts s w := by
    refine ⟨h.inv.hadClient_of_supervisor hsupervisor, hdown, fun s' hs' => ?_⟩
    rw [hsupervisor] at hs'
    exact (Option.some.inj hs').symm
  have hnoted (v : World) : Bystands v (v.changeSupervisor s fun supervisor =>
      { supervisor with stoppers := v.tasks.current :: supervisor.stoppers }) :=
    .changeSupervisor v s fun _ => ⟨rfl, rfl, rfl⟩
  have hstopped (v : World) : Bystands v (v.changeSupervisor s fun supervisor =>
      { supervisor with stoppers := supervisor.stoppers.erase v.tasks.current }) :=
    .changeSupervisor v s fun _ => ⟨rfl, rfl, rfl⟩
  refine h.and_then (Steady.update hnoted) ((lasting_stops t n).and (lasting_halts s)) ⟨hs, hhalts⟩
    (fun _ w₀ w h hk => ?_) fun _ w₀ w h hk => ⟨h, hk.1⟩
  rw [meets_ensure]
  refine (halt_meets h hk.1 hk.2).mono fun w₀ r w hr => ?_
  cases r with
  | ok _ =>
    -- the tasks have ended, and the stop is struck off
    obtain ⟨h, hk⟩ := hr
    refine (h.at_once (Steady.update hstopped)
      ((lasting_stops t n).and (lasting_not_running.and lasting_atRest)) hk).mono
      fun w₀ r w hr => ?_
    cases r with
    | ok _ => exact hr
    | error e => exact ⟨hr.1, hr.2.1⟩
  | error e =>
    -- a wait was struck or a loop had failed; the stop is struck off all the same
    refine (hr.1.at_once (Steady.update hstopped) (lasting_stops t n) hr.2).mono
      fun w₀ r w hr => ?_
    cases r with
    | ok _ => exact hr
    | error e => exact hr

/-! ### Stopping all -/

/-- A log line changes nothing that anybody counts on. -/
theorem bystands_log (w : World) (level : Log.Level) (component event : String)
    (fields : List (String × Json)) (lines : Nat) :
    Bystands w (w.log level component event fields lines) :=
  bystands_polling.log w level component event fields lines

/-- The supervisor is stopped, if there is one, and everything is at rest then. -/
theorem stopWatching_meets (h : Acting t w₀ w) (hs : Stops t n w)
    (hdown : w.application.running = false) :
    stopWatching.Meets (mainDiscipline.terms t)
      (byOutcome (fun w₀ _ w => Acting t w₀ w ∧ Stops t n w ∧
          w.application.running = false ∧ w.AtRest)
        fun w₀ _ w => Acting t w₀ w ∧ Stops t n w ∧ n ≠ 0) w₀ w := by
  rw [stopWatching, meets_bind, application, meets_gets, byOutcome_ok]
  cases hsupervisor : w.application.supervisor with
  | none =>
    refine ⟨h, hs, hdown, fun s u hu => h.inv.owned s ?_ u hu⟩
    rw [hsupervisor]
    exact (Option.some_ne_none s).symm
  | some s =>
    -- there is a supervisor, and that lasts
    have hsome : n ≠ 0 := by
      rintro rfl
      have hnone := (h.inv.bare (List.length_eq_zero_iff.mp hs.count)).2
      rw [hsupervisor] at hnone
      cases hnone
    dsimp only
    rw [meets_bind]
    refine (stopSupervisor_meets h hs hdown hsupervisor).mono fun w₀ r w hr => ?_
    cases r with
    | error e => exact ⟨hr.1, hr.2, hsome⟩
    | ok _ =>
      obtain ⟨h, hs, hdown, hrest⟩ := hr
      rw [byOutcome_ok]
      exact lessen_meets h hs ⟨id, id, .inr rfl, rfl, rfl, rfl⟩ (.inr hrest)
        fun h hs => ⟨h, hs, hdown, hrest⟩

/-- What is known once everything is at rest. -/
def Resting (t : TaskId) (n : Nat) (w : World) : Prop :=
  Stops t n w ∧ w.application.running = false ∧ w.AtRest

/-- An application whose supervisor is at rest stays so while others act. -/
theorem lasting_resting (t : TaskId) (n : Nat) : Lasting (Resting t n) :=
  (lasting_stops t n).and (lasting_not_running.and lasting_atRest)

/-- The API client closes, or fails to: where the surroundings are mild, by an ordinary failure, if no
cancellation strikes. -/
theorem askToClose_meets (h : Acting t w₀ w) (hw : Resting t n w)
    (hhad : w.application.hadClient = true) :
    askToClose.Meets (mainDiscipline.terms t)
      (byOutcome (fun w₀ _ w => Acting t w₀ w ∧ Resting t n w)
        fun w₀ e w => Acting t w₀ w ∧ Resting t n w ∧
          (w.surroundings.Mild → e.isOrdinary = false → e = .cancelled)) w₀ w := by
  -- with or without a delay, closing ends in the same way
  have hclose {w₀ w : World} (h : Acting t w₀ w) (hw : Resting t n w) :
      (do failIf (← Fiber.state).surroundings.closeFailure : Act Unit).Meets
        (mainDiscipline.terms t)
        (byOutcome (fun w₀ _ w => Acting t w₀ w ∧ Resting t n w)
          fun w₀ e w => Acting t w₀ w ∧ Resting t n w ∧
            (w.surroundings.Mild → e.isOrdinary = false → e = .cancelled)) w₀ w := by
    rw [meets_bind, meets_state, byOutcome_ok]
    cases hfailure : w.surroundings.closeFailure with
    | none => exact ⟨h, hw⟩
    | some failure =>
      refine ⟨h, hw, fun hmild hnot => ?_⟩
      rw [hmild.close failure hfailure] at hnot
      cases hnot
  have hrecord : Bystands w (w.record .clientClose) :=
    bystands_entries.record w .clientClose rfl
  obtain ⟨hchange, hacting⟩ := h.step hrecord
  have hrecorded := lasting_resting t n w _ hrecord.lowers hw
  rw [askToClose, meets_bind, record, meets_update, byOutcome_ok, meets_bind, meets_state,
    byOutcome_ok]
  refine ⟨hchange, ?_⟩
  cases (w.record .clientClose).surroundings.closeDelay with
  | none => exact hclose hacting hrecorded
  | some seconds =>
    rw [meets_bind, whenAsked, sleep, meets_await]
    refine ⟨hacting.yields, fun answer w' _ _ hresumed => ?_⟩
    have hnext := (hacting.resumed hresumed).2
    -- during the delay the others may do what they will, and the supervisor stays at rest
    have hlasts := hacting.lasts hresumed (.inr hhad) (lasting_resting t n) hrecorded
    rcases hresumed.plain fun _ => Wait.noConfusion with rfl | rfl
    · exact hclose hnext hlasts
    · -- the delay was struck
      exact ⟨hnext, hlasts, fun _ _ => rfl⟩

/-- The API client is closed, if it is there. -/
theorem closeClient_meets (h : Acting t w₀ w) (hw : Resting t n w) :
    closeClient.Meets (mainDiscipline.terms t)
      (byOutcome (fun w₀ _ w => Acting t w₀ w ∧ Stops t n w ∧ w.Stopped)
        fun w₀ e w => Acting t w₀ w ∧ Stops t n w ∧ (w.surroundings.Mild → e = .cancelled)) w₀ w := by
  -- once the client is let go of, everything has been taken down
  have hgone {w₀ w : World} (h : Acting t w₀ w) (hw : Resting t n w) :
      (changeApplication fun app => { app with hasClient := false }).Meets
        (mainDiscipline.terms t)
        (byOutcome (fun w₀ _ w => Acting t w₀ w ∧ Stops t n w ∧ w.Stopped)
          fun w₀ e w => Acting t w₀ w ∧ Stops t n w ∧ (w.surroundings.Mild → e = .cancelled))
        w₀ w := by
    refine lessen_meets h hw.1 ⟨id, fun hclosed => ?_, .inl rfl, rfl, rfl, rfl⟩ (.inl rfl)
      fun h hs => ⟨h, hs, hw.2.1, rfl, hw.2.2⟩
    exact absurd hclosed Bool.false_ne_true
  rw [closeClient, meets_bind, application, meets_gets, byOutcome_ok]
  split
  · rename_i hclient
    rw [meets_bind, meets_recover]
    refine (askToClose_meets h hw (h.inv.hadClient_of_client hclient)).mono fun w₀ r w hr => ?_
    cases r with
    | ok _ => exact hgone hr.1 hr.2
    | error e =>
      obtain ⟨h, hw, hcancelled⟩ := hr
      show Meets _ _ (if e.isOrdinary then _ else _) w₀ w
      split
      · -- an ordinary failure is logged, and the client is gone nevertheless
        have hb := bystands_log w .debug applicationComponent "k8s client close raised (non-fatal)"
          [("error", .text e.message)] 0
        obtain ⟨hchange, hacting⟩ := h.step hb
        rw [logApplication, log, meets_update]
        exact ⟨hchange, hgone hacting (lasting_resting t n w _ hb.lowers hw)⟩
      · rename_i hnot
        -- anything else goes through; where the surroundings are mild it is a cancellation
        exact ⟨h, hw.1, fun hmild => hcancelled hmild (Bool.not_eq_true _ ▸ hnot)⟩
  · rename_i hnone
    -- there was no client
    exact ⟨h, hw.1, hw.2.1, Bool.not_eq_true _ ▸ hnone, hw.2.2⟩

/-- **A stop.**  When a stop has come to its end, the application has been stopped.  If there is no
supervisor, and the surroundings are mild, nothing but a cancellation keeps it from its end. -/
theorem stopApplication_meets (h : Acting t w₀ w) (hs : Stops t n w) :
    stopApplication.Meets (mainDiscipline.terms t)
      (byOutcome (fun w₀ _ w => Acting t w₀ w ∧ Stops t n w ∧ w.Stopped)
        fun w₀ e w => Acting t w₀ w ∧ Stops t n w ∧
          (n = 0 → w.surroundings.Mild → e = .cancelled)) w₀ w := by
  rw [stopApplication, meets_bind]
  -- the application is marked as down before anything is waited for
  refine lessen_meets h hs ⟨fun hdown => absurd hdown Bool.false_ne_true, id, .inl rfl, rfl, rfl, rfl⟩
    (.inl rfl) fun h hs => ?_
  rw [byOutcome_ok, meets_bind]
  refine (stopWatching_meets h hs rfl).mono fun w₀ r w hr => ?_
  cases r with
  | error e => exact ⟨hr.1, hr.2.1, fun hnone => absurd hnone hr.2.2⟩
  | ok _ =>
    rw [byOutcome_ok, meets_bind]
    refine (closeClient_meets hr.1 hr.2).mono fun w₀ r w hr => ?_
    cases r with
    | error e => exact ⟨hr.1, hr.2.1, fun _ => hr.2.2⟩
    | ok _ =>
      -- all is down, and a line says so
      obtain ⟨h, hs, hstopped⟩ := hr
      have hb := bystands_log w .info applicationComponent "kubeinformer stopped" [] 0
      obtain ⟨hchange, hacting⟩ := h.step hb
      rw [byOutcome_ok, logApplication, log, meets_update]
      exact ⟨hchange, hacting, lasting_stops t n w _ hb.lowers hs,
        lasting_stopped w _ hb.lowers hstopped⟩

end Act

end ResumableWatch
