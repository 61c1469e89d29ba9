import ResumableWatch.Proofs.Supervisor.Polling
import ResumableWatch.Proofs.Tasks.Discipline
/-!
# How the application stands

The main task starts the application and gives way to a shutdown; the shutdown is a task of its own,
and a main task that fails stops the application itself.  So two stops may be under way at once, and a
stop may find the start unfinished.

What everybody may count on is that only a start brings anything up: once the API client has been
made, nobody does anything but take down (`World.Lowers`).  From this follows what holds between any
two turns (`World.Standing`), in particular of a shutdown that has come to its end: the application
has been stopped, or all that it started was started after the shutdown had been requested
(`World.Standing.carried`).  `mainDiscipline` says what each task has to keep to for this.
-/

namespace ResumableWatch

open ResumableWatch.Fiber

/-- The exporter starts, and if the API client cannot be closed, it is by an ordinary failure. -/
structure Surroundings.Mild (s : Surroundings) : Prop where
  exporter : s.exporterFailure = none
  close : ∀ failure, s.closeFailure = some failure → failure.isOrdinary = true

namespace World

/-- All poll loops and status reporters that were ever started have ended. -/
def AtRest (w : World) : Prop := ∀ s, ∀ u ∈ (w.supervisor s).launched, w.tasks.Ended u

/-- The application has been stopped, or was never started. -/
structure Stopped (w : World) : Prop where
  running : w.application.running = false
  client : w.application.hasClient = false
  atRest : w.AtRest

/-- All poll loops and status reporters that were ever started are younger than this task. -/
def Late (t : TaskId) (w : World) : Prop := ∀ s, ∀ u ∈ (w.supervisor s).launched, t < u

/-- A shutdown was requested, and when it comes to its end the application has been stopped. -/
def Quits (w : World) : Prop :=
  ∃ t, w.application.shutdown = some t ∧ (w.tasks.CameTo t (.ok ()) → w.Stopped)

/-- The application runs, or quits. -/
def Steered (w : World) : Prop := w.application.running = true ∨ w.Quits

/-- What takes down the application, or leaves it as it is; a shutdown may be requested. -/
structure Lowers (w w' : World) : Prop where
  length : w.tasks.table.length ≤ w'.tasks.table.length
  ended : ∀ u, w.tasks.Ended u → w'.tasks.Ended u
  surroundings : w'.surroundings = w.surroundings
  count : w'.supervisors.length = w.supervisors.length
  handler : ∀ s, (w'.supervisor s).handler = (w.supervisor s).handler
  launched : ∀ s, (w'.supervisor s).launched = (w.supervisor s).launched
  tasks : ∀ s, (w'.supervisor s).tasks = (w.supervisor s).tasks ∨ (w'.supervisor s).tasks = []
  supervisor : w'.application.supervisor = w.application.supervisor ∨
    w'.application.supervisor = none
  hadClient : w'.application.hadClient = w.application.hadClient
  client : w'.application.hasClient = true → w.application.hasClient = true
  running : w'.application.running = true → w.application.running = true
  shutdown : ∀ t, w.application.shutdown = some t → w'.application.shutdown = some t

variable {w w' w'' : World} {t u : TaskId} {ts : Tasks Job}

namespace Lowers

theorem withTasks (hlength : ts.table.length = w.tasks.table.length)
    (hended : ∀ u, w.tasks.Ended u → ts.Ended u) : Lowers w (w.withTasks ts) :=
  ⟨Nat.le_of_eq hlength.symm, hended, rfl, rfl, fun _ => rfl, fun _ => rfl, fun _ => .inl rfl,
    .inl rfl, rfl, id, id, fun _ => id⟩

theorem refl (w : World) : Lowers w w := @withTasks w w.tasks rfl fun _ => id

theorem trans (h₁ : Lowers w w') (h₂ : Lowers w' w'') : Lowers w w'' where
  length := Nat.le_trans h₁.length h₂.length
  ended u h := h₂.ended u (h₁.ended u h)
  surroundings := h₂.surroundings.trans h₁.surroundings
  count := h₂.count.trans h₁.count
  handler s := (h₂.handler s).trans (h₁.handler s)
  launched s := (h₂.launched s).trans (h₁.launched s)
  tasks s := by
    rcases h₂.tasks s with h | h
    · rw [h]
      exact h₁.tasks s
    · exact .inr h
  supervisor := by
    rcases h₂.supervisor with h | h
    · rw [h]
      exact h₁.supervisor
    · exact .inr h
  hadClient := h₂.hadClient.trans h₁.hadClient
  client h := h₁.client (h₂.client h)
  running h := h₁.running (h₂.running h)
  shutdown t h := h₂.shutdown t (h₁.shutdown t h)

theorem not_running (h : Lowers w w') (hw : w.application.running = false) :
    w'.application.running = false := by
  rw [← Bool.not_eq_true] at hw ⊢
  exact fun hrunning => hw (h.running hrunning)

theorem no_client (h : Lowers w w') (hw : w.application.hasClient = false) :
    w'.application.hasClient = false := by
  rw [← Bool.not_eq_true] at hw ⊢
  exact fun hclient => hw (h.client hclient)

/-- No supervisor is made or taken away. -/
theorem no_supervisors (h : Lowers w w') : w'.supervisors = [] ↔ w.supervisors = [] := by
  rw [← List.length_eq_zero_iff, h.count, List.length_eq_zero_iff]

theorem atRest (h : Lowers w w') (hw : w.AtRest) : w'.AtRest := by
  intro s u hu
  rw [h.launched] at hu
  exact h.ended u (hw s u hu)

/-- A stopped application stays so. -/
theorem stopped (h : Lowers w w') (hw : w.Stopped) : w'.Stopped :=
  ⟨h.not_running hw.running, h.no_client hw.client, h.atRest hw.atRest⟩

/-- Whoever was started late has been so ever since. -/
theorem late (h : Lowers w w') (hw : w.Late t) : w'.Late t := by
  intro s u hu
  rw [h.launched] at hu
  exact hw s u hu

/-- Who quits goes on to do so as long as no shutdown comes to its end. -/
theorem quits (h : Lowers w w')
    (hcame : ∀ u, w'.tasks.CameTo u (.ok ()) → w.tasks.CameTo u (.ok ())) (hw : w.Quits) :
    w'.Quits := by
  obtain ⟨t, ht, hstopped⟩ := hw
  exact ⟨t, h.shutdown t ht, fun hok => h.stopped (hstopped (hcame t hok))⟩

end Lowers

/-! ### Between two turns -/

/-- What holds between any two turns. -/
structure Standing (w : World) : Prop where
  logging : ∀ s, s < w.supervisors.length → (w.supervisor s).handler = .logging
  known : ∀ s, ∀ u ∈ (w.supervisor s).launched, u < w.tasks.table.length
  given : ∀ s, ∀ u ∈ (w.supervisor s).tasks, u ∈ (w.supervisor s).launched
  /-- A task is watched over until it has ended. -/
  watched : ∀ s, ∀ u ∈ (w.supervisor s).launched, u ∈ (w.supervisor s).tasks ∨ w.tasks.Ended u
  /-- The application keeps a supervisor until the tasks of it have ended. -/
  owned : ∀ s, w.application.supervisor ≠ some s →
    ∀ u ∈ (w.supervisor s).launched, w.tasks.Ended u
  fresh : w.application.hadClient = false →
    w.supervisors = [] ∧ w.application.hasClient = false
  bare : w.supervisors = [] →
    w.application.running = false ∧ w.application.supervisor = none
  requested : ∀ t, w.application.shutdown = some t →
    w.application.shutdownRequested = true ∧ 0 < t ∧ t < w.tasks.table.length
  /-- Only what was started after a shutdown had been requested may outlast it. -/
  carried : ∀ t, w.application.shutdown = some t → w.tasks.CameTo t (.ok ()) →
    w.Stopped ∨ w.Late t
  /-- The main task comes to a good end only when the application quits. -/
  quits : w.tasks.CameTo 0 (.ok ()) → w.Quits
  /-- A main task that has failed to start the application has closed the API client. -/
  failed : ∀ outcome, w.tasks.CameTo 0 outcome → outcome ≠ .error .cancelled →
    w.supervisors = [] → w.surroundings.Mild → w.application.hasClient = false

namespace Standing

/-- A supervisor that was not made has started nothing. -/
theorem launched_of_no_supervisors (h : w.supervisors = []) (s : SupervisorId) :
    (w.supervisor s).launched = [] := by
  rw [supervisor, h]
  rfl

theorem atRest_of_no_supervisors (h : w.supervisors = []) : w.AtRest := by
  intro s u hu
  rw [launched_of_no_supervisors h] at hu
  cases hu

/-- Once a client has been made, it stays known that one was. -/
theorem hadClient_of_client (h : w.Standing) (hclient : w.application.hasClient = true) :
    w.application.hadClient = true := by
  by_contra hnot
  have hnone := (h.fresh (Bool.not_eq_true _ ▸ hnot)).2
  rw [hclient] at hnone
  cases hnone

/-- A supervisor is made only after a client was. -/
theorem hadClient_of_supervisor (h : w.Standing) {s : SupervisorId}
    (hs : w.application.supervisor = some s) : w.application.hadClient = true := by
  by_contra hnot
  have hnone := (h.bare (h.fresh (Bool.not_eq_true _ ▸ hnot)).1).2
  rw [hs] at hnone
  cases hnone

/-- What a step has to leave behind that takes down the application. -/
structure Follows (w w' : World) : Prop where
  lowers : Lowers w w'
  requested : ∀ t, w'.application.shutdown = some t →
    w'.application.shutdownRequested = true ∧ 0 < t ∧ t < w'.tasks.table.length
  /-- The tasks of a supervisor are given up when they have ended, -/
  watched : ∀ s, (w'.supervisor s).tasks = (w.supervisor s).tasks ∨
    ∀ u ∈ (w.supervisor s).launched, w'.tasks.Ended u
  /-- and so is the supervisor itself. -/
  owned : w'.application.supervisor = w.application.supervisor ∨
    ∀ s, w.application.supervisor = some s → ∀ u ∈ (w.supervisor s).launched, w'.tasks.Ended u

/-- A step that takes down the application leaves it standing, as far as it is also true of the
tasks that have ended meanwhile. -/
theorem follows (h : w.Standing) (hf : Follows w w')
    (hcarried : ∀ t, w'.application.shutdown = some t → w'.tasks.CameTo t (.ok ()) →
      w'.Stopped ∨ w'.Late t)
    (hquits : w'.tasks.CameTo 0 (.ok ()) → w'.Quits)
    (hfailed : ∀ outcome, w'.tasks.CameTo 0 outcome → outcome ≠ .error .cancelled →
      w'.supervisors = [] → w'.surroundings.Mild → w'.application.hasClient = false) :
    w'.Standing where
  logging s hs := by
    rw [hf.lowers.handler]
    exact h.logging s (hf.lowers.count ▸ hs)
  known s u hu := by
    rw [hf.lowers.launched] at hu
    exact Nat.lt_of_lt_of_le (h.known s u hu) hf.lowers.length
  given s u hu := by
    -- the tasks of a supervisor are as they were, or have been given up
    rw [hf.lowers.launched]
    rcases hf.lowers.tasks s with heq | hnone
    · rw [heq] at hu
      exact h.given s u hu
    · rw [hnone] at hu
      cases hu
  watched s u hu := by
    -- tasks are given up only when all that was launched has ended
    rw [hf.lowers.launched] at hu
    rcases hf.watched s with heq | hall
    · rw [heq]
      exact (h.watched s u hu).imp_right (hf.lowers.ended u)
    · exact .inr (hall u hu)
  owned s hs u hu := by
    -- the supervisor that the application lets go of has nothing alive any more
    rw [hf.lowers.launched] at hu
    by_cases hkept : w.application.supervisor = some s
    · rcases hf.owned with heq | hall
      · exact absurd (heq.trans hkept) hs
      · exact hall s hkept u hu
    · exact hf.lowers.ended u (h.owned s hkept u hu)
  fresh hnone := by
    -- neither a client nor a supervisor comes up by taking down
    obtain ⟨hsupervisors, hclient⟩ := h.fresh (hf.lowers.hadClient ▸ hnone)
    exact ⟨hf.lowers.no_supervisors.mpr hsupervisors, hf.lowers.no_client hclient⟩
  bare hnone := by
    -- without a supervisor the application does not run, and does not begin to
    obtain ⟨hrunning, hsupervisor⟩ := h.bare (hf.lowers.no_supervisors.mp hnone)
    refine ⟨hf.lowers.not_running hrunning, ?_⟩
    rcases hf.lowers.supervisor with heq | hgone
    · exact heq.trans hsupervisor
    · exact hgone
  -- what the ended tasks have come to is new, so these three are for the one who takes the step
  requested := hf.requested
  carried := hcarried
  quits := hquits
  failed := hfailed

/-- So does one in which no task ends. -/
theorem follows_of_same (h : w.Standing) (hf : Follows w w')
    (hcame : ∀ u r, w'.tasks.CameTo u r → w.tasks.CameTo u r)
    (hshutdown : w'.application.shutdown = w.application.shutdown) : w'.Standing := by
  refine h.follows hf (fun t ht hok => ?carried) (fun hok => ?quits)
    fun outcome h0 hnot hnone hmild => ?failed
  case carried =>
    rw [hshutdown] at ht
    exact (h.carried t ht (hcame t _ hok)).imp hf.lowers.stopped hf.lowers.late
  case quits => exact hf.lowers.quits (fun u => hcame u _) (h.quits (hcame 0 _ hok))
  case failed =>
    rw [hf.lowers.surroundings] at hmild
    exact hf.lowers.no_client
      (h.failed outcome (hcame 0 outcome h0) hnot (hf.lowers.no_supervisors.mp hnone) hmild)

/-- The books of the tasks are changed. -/
theorem follows_withTasks (h : w.Standing) (hlength : ts.table.length = w.tasks.table.length)
    (hended : ∀ u, w.tasks.Ended u → ts.Ended u) : Follows w (w.withTasks ts) where
  lowers := .withTasks hlength hended
  requested t ht := by
    rw [withTasks, hlength]
    exact h.requested t ht
  watched _ := .inl rfl
  owned := .inl rfl

end Standing

/-! ### What one task leaves to another -/

/-- What a task may count on that does not act, in what the application is. -/
structure Leaves (t : TaskId) (w w' : World) : Prop where
  length : w.tasks.table.length ≤ w'.tasks.table.length
  count : w.supervisors.length ≤ w'.supervisors.length
  /-- A supervisor is given new tasks only. -/
  launched : ∀ s, ∀ u ∈ (w'.supervisor s).launched, u < w.tasks.table.length →
    u ∈ (w.supervisor s).launched
  shutdown : ∀ u, w.application.shutdown = some u → w'.application.shutdown = some u
  /-- A shutdown is carried out by a new task. -/
  requested : ∀ u, w'.application.shutdown = some u →
    w.application.shutdown = some u ∨ w.tasks.table.length ≤ u
  /-- Nobody but the main task makes anything, and that one only up to the client. -/
  lowers : t = 0 ∨ w.application.hadClient = true → Lowers w w'
  /-- The application is stopped by the main task or by the shutdown. -/
  steered : t = 0 → w.Steered → w'.Steered

namespace Leaves

theorem refl (t : TaskId) (w : World) : Leaves t w w :=
  ⟨Nat.le_refl _, Nat.le_refl _, fun _ _ h _ => h, fun _ => id, fun _ => .inl, fun _ => .refl w,
    fun _ => id⟩

theorem trans (h₁ : Leaves t w w') (h₂ : Leaves t w' w'') : Leaves t w w'' where
  length := Nat.le_trans h₁.length h₂.length
  count := Nat.le_trans h₁.count h₂.count
  launched s u hu hlt := h₁.launched s u (h₂.launched s u hu (Nat.lt_of_lt_of_le hlt h₁.length)) hlt
  shutdown u h := h₂.shutdown u (h₁.shutdown u h)
  requested u h := by
    rcases h₂.requested u h with hold | hnew
    · exact h₁.requested u hold
    · exact .inr (Nat.le_trans h₁.length hnew)
  lowers h := by
    have hlowers := h₁.lowers h
    refine hlowers.trans (h₂.lowers (h.imp_right fun hhad => ?_))
    rw [hlowers.hadClient]
    exact hhad
  steered ht h := h₂.steered ht (h₁.steered ht h)

/-- Nobody is made the shutdown who was there before. -/
theorem apart (h : Leaves t w w') (hlt : u < w.tasks.table.length)
    (hu : w.application.shutdown ≠ some u) : w'.application.shutdown ≠ some u := by
  intro hshutdown
  rcases h.requested u hshutdown with hold | hnew
  · exact hu hold
  · exact absurd hlt (Nat.not_lt_of_le hnew)

/-- The books are changed, and the shutdown has stopped the application if it has ended by that. -/
theorem withTasks (hlength : ts.table.length = w.tasks.table.length)
    (hended : ∀ u, w.tasks.Ended u → ts.Ended u)
    (hcame : ∀ u, w.application.shutdown = some u → ts.CameTo u (.ok ()) →
      w.tasks.CameTo u (.ok ()) ∨ w.Stopped) : Leaves t w (w.withTasks ts) where
  length := Nat.le_of_eq hlength.symm
  count := Nat.le_refl _
  launched _ _ hu _ := hu
  shutdown _ := id
  requested _ := .inl
  lowers _ := .withTasks hlength hended
  steered _ h := by
    refine h.imp_right fun hquits => ?_
    obtain ⟨u, hu, hstopped⟩ := hquits
    refine ⟨u, hu, fun hok => (Lowers.withTasks hlength hended).stopped ?_⟩
    rcases hcame u hu hok with hold | hdone
    · exact hstopped hold
    · exact hdone

/-- No task ends. -/
theorem of_books (hlength : ts.table.length = w.tasks.table.length)
    (hcame : ∀ u r, ts.CameTo u r ↔ w.tasks.CameTo u r) : Leaves t w (w.withTasks ts) :=
  withTasks hlength (fun _ h => (Tasks.ended_congr (hcame _)).mpr h)
    fun u _ hok => .inl ((hcame u _).mp hok)

end Leaves

end World

open World

/-! ### The discipline of a run of the main task -/

/-- What is done besides starting and stopping the application. -/
def World.Admits (w : World) : Job → Prop
  | .pollLoop s => s < w.supervisors.length
  | .statusLoop _ => True
  | .session _ => True
  | _ => False

/-- The jobs of a run of the main task, which is task 0. -/
inductive MainJob (t : TaskId) (w : World) : Job → Prop
  | launch : t = 0 → w.application.hadClient = false → MainJob t w .launch
  | attend : t = 0 → w.supervisors ≠ [] → w.Steered →
    (∀ s, t ∉ (w.supervisor s).launched) → MainJob t w .attend
  | shutdown : t ≠ 0 → w.application.shutdown = some t →
    (∀ s, t ∉ (w.supervisor s).launched) → MainJob t w .shutdown
  | other {job : Job} : t ≠ 0 → w.application.shutdown ≠ some t → w.Admits job → MainJob t w job

/-- What has to hold when a task comes to an outcome. -/
structure MainRest (t : TaskId) (outcome : Wakeup) (w : World) : Prop where
  quits : t = 0 → outcome = .ok () → w.Quits
  failed : t = 0 → outcome ≠ .error .cancelled → w.supervisors = [] → w.surroundings.Mild →
    w.application.hasClient = false
  stopped : w.application.shutdown = some t → outcome = .ok () → w.Stopped

variable {t u : TaskId} {job : Job} {w w' : World} {ts : Tasks Job} {outcome : Wakeup}

/-- A job that may be started may still be when there are more supervisors. -/
theorem World.Admits.mono (h : w.Admits job)
    (hcount : w.supervisors.length ≤ w'.supervisors.length) : w'.Admits job := by
  cases job with
  | pollLoop s => exact Nat.lt_of_lt_of_le h hcount
  | statusLoop s => trivial
  | session path => trivial
  | closeAbandoned s => exact h
  | launch => exact h
  | attend => exact h
  | shutdown => exact h
  | cancellation u => exact h

/-- What a task may take on does not change while the others act. -/
theorem MainJob.leaves (h : MainJob t w job) (hl : Leaves t w w') (hlt : t < w.tasks.table.length) :
    MainJob t w' job := by
  have hapart (h : ∀ s, t ∉ (w.supervisor s).launched) (s : SupervisorId) :
      t ∉ (w'.supervisor s).launched := fun hmem => h s (hl.launched s t hmem hlt)
  cases h with
  | launch ht hnone =>
    refine .launch ht ?_
    rw [(hl.lowers (.inl ht)).hadClient]
    exact hnone
  | attend ht hsome hsteered hnot =>
    refine .attend ht (fun hnone => hsome ?_) (hl.steered ht hsteered) (hapart hnot)
    exact (hl.lowers (.inl ht)).no_supervisors.mp hnone
  | shutdown ht hshutdown hnot => exact .shutdown ht (hl.shutdown t hshutdown) (hapart hnot)
  | other ht hshutdown hadmits =>
    exact .other ht (hl.apart hlt hshutdown) (hadmits.mono hl.count)

/-- A task may always be struck before it begins. -/
theorem MainRest.cancelled (t : TaskId) (w : World) : MainRest t (.error .cancelled) w where
  quits _ h := nomatch h
  failed _ h := absurd rfl h
  stopped _ h := nomatch h

/-- The books may be written as long as the same tasks have come to the same. -/
theorem World.Standing.books (h : w.Standing) (hlength : ts.table.length = w.tasks.table.length)
    (hcame : ∀ u r, ts.CameTo u r ↔ w.tasks.CameTo u r) : (w.withTasks ts).Standing := by
  have hended (u : TaskId) (hu : w.tasks.Ended u) : ts.Ended u :=
    (Tasks.ended_congr (hcame u)).mpr hu
  exact h.follows_of_same (h.follows_withTasks hlength hended) (fun u r => (hcame u r).mp) rfl

section Ends

variable (hcame : ∀ u r, ts.CameTo u r ↔ w.tasks.CameTo u r ∨ (u = t ∧ r = outcome))

include hcame

theorem ended_of_ends (u : TaskId) (h : w.tasks.Ended u) : ts.Ended u := by
  obtain ⟨r, hr⟩ := Tasks.ended_iff.mp h
  exact ((hcame u r).mpr (.inl hr)).ended

/-- A shutdown that has come to a good end now had done so before, or has
stopped the application. -/
theorem MainRest.carried (hrest : MainRest t outcome w) (hu : w.application.shutdown = some u)
    (hok : ts.CameTo u (.ok ())) : w.tasks.CameTo u (.ok ()) ∨ w.Stopped := by
  rcases (hcame u _).mp hok with hold | ⟨rfl, hout⟩
  · exact .inl hold
  · exact .inr (hrest.stopped hu hout.symm)

/-- A task ends that may. -/
theorem World.Standing.ends (h : w.Standing) (hrest : MainRest t outcome w)
    (hlength : ts.table.length = w.tasks.table.length) : (w.withTasks ts).Standing := by
  have hended := ended_of_ends hcame
  have hlowers := Lowers.withTasks hlength hended
  refine h.follows (h.follows_withTasks hlength hended) (fun u hu hok => ?carried)
    (fun hok => ?quits) fun r h0 hnot hnone hmild => ?failed
  case carried =>
    rcases hrest.carried hcame hu hok with hold | hstopped
    · exact (h.carried u hu hold).imp hlowers.stopped hlowers.late
    · exact .inl (hlowers.stopped hstopped)
  case quits =>
    -- the main task may have ended before, or does so now
    have hquits : w.Quits := by
      rcases (hcame 0 _).mp hok with hold | ⟨rfl, hout⟩
      · exact h.quits hold
      · exact hrest.quits rfl hout.symm
    obtain ⟨u, hu, hstopped⟩ := hquits
    refine ⟨u, hu, fun hok => hlowers.stopped ?_⟩
    rcases hrest.carried hcame hu hok with hold | hdone
    · exact hstopped hold
    · exact hdone
  case failed =>
    rcases (hcame 0 r).mp h0 with hold | ⟨rfl, rfl⟩
    · exact h.failed r hold hnot hnone hmild
    · exact hrest.failed rfl hnot hnone hmild

end Ends

/-- What the tasks of a run of the main task keep to.  None of them changes the surroundings. -/
def mainDiscipline : Discipline where
  Inv := Standing
  Spares t w w' := w.tasks.Spares t w'.tasks ∧ Leaves t w w'
  Plays t job w := MainJob t w job
  Rests := MainRest
  change w w' := w'.surroundings = w.surroundings
  refl t w := ⟨.refl t _, .refl t w⟩
  trans h₁ h₂ := ⟨h₁.1.trans h₂.1, h₁.2.trans h₂.2⟩
  books := Standing.books
  ends h hrest hlength hcame := h.ends hcame hrest hlength
  spared htasks hlength hcame := ⟨htasks, .of_books hlength hcame⟩
  spared_end _ _ hrest htasks hlength hcame :=
    ⟨htasks, .withTasks hlength (ended_of_ends hcame) fun _ hu hok => hrest.carried hcame hu hok⟩
  plays h hspares hlt _ := h.leaves hspares.2 hlt
  rests _ _ := .cancelled _ _

end ResumableWatch
