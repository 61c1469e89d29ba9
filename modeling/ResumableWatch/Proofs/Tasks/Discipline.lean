import ResumableWatch.Proofs.Fiber.Terms
import ResumableWatch.Proofs.Tasks.Turns
/-!
# Disciplined runs

What holds in a run of many tasks is proved one turn at a time.  A `Discipline` names what holds
between turns, what a task that waits may count on while the others have their turns, and when a
task may take on a job.  From these the terms follow that a job has to keep to (`Discipline.terms`,
`Discipline.post`); a job is looked at alone, whatever the others do.

If every job keeps to its terms, the discipline holds in every state that a run can come to
(`Run.Reaches.sound`), and all that is done is as it says (`Discipline.Sound.change`).  The order in
which the scheduler takes the tasks, the answers to their waits, and the cancellations that
strike them are accounted for once, here.
-/

namespace ResumableWatch

open ResumableWatch.Fiber

namespace Run

/-- The changes that the current task makes up to its next wait or to its end. -/
def changes (r : Run) : List (World × World) :=
  match r.active with
  | some fiber => fiber.changes r.world
  | none => []

/-- What a run can come to: it makes moves, and between the turns somebody from outside may cancel a
task or begin a round. -/
inductive Reaches (work : Work) (first : Run) : Run → Prop
  | start : Reaches work first first
  | move {r next : Run} :
    Reaches work first r → r.move work = some next → Reaches work first next
  | cancel {r : Run} (t : TaskId) :
    Reaches work first r → r.active = none → Reaches work first (r.changeTasks (·.cancel t))
  | beginRound {r : Run} :
    Reaches work first r → r.active = none → Reaches work first (r.changeTasks (·.beginRound))

/-- The moves of a run are moves. -/
theorem Reaches.go {work : Work} {first r : Run} (h : Reaches work first r)
    (isOver : World → Bool) (moves : Nat) : Reaches work first (r.go work isOver moves) := by
  induction moves generalizing r with
  | zero => exact h
  | succ moves ih =>
    rw [Run.go]
    split
    · exact h
    · split
      · rename_i next hmove
        exact ih (h.move hmove)
      · exact h

end Run

/-! ### Disciplines -/

/-- The world with other records of the tasks. -/
abbrev World.withTasks (w : World) (tasks : Tasks Job) : World := { w with tasks }

/-- What is to hold in a run, and whom it binds how. -/
structure Discipline where
  /-- What holds between two turns. -/
  Inv : World → Prop
  /-- What a task may count on that does not act while one world becomes the other. -/
  Spares : TaskId → World → World → Prop
  /-- The task may take on the job. -/
  Plays : TaskId → Job → World → Prop
  /-- The task may end, and come to this. -/
  Rests : TaskId → Wakeup → World → Prop
  /-- What holds of each change. -/
  change : World → World → Prop
  refl : ∀ t w, Spares t w w
  trans : ∀ {t w w' w''}, Spares t w w' → Spares t w' w'' → Spares t w w''
  /-- The books that are kept around the turns may change. -/
  books : ∀ {w ts}, Inv w → ts.table.length = w.tasks.table.length →
    (∀ u r, ts.CameTo u r ↔ w.tasks.CameTo u r) → Inv (w.withTasks ts)
  ends : ∀ {t outcome w ts}, Inv w → Rests t outcome w →
    ts.table.length = w.tasks.table.length →
    (∀ u r, ts.CameTo u r ↔ w.tasks.CameTo u r ∨ (u = t ∧ r = outcome)) → Inv (w.withTasks ts)
  spared : ∀ {t w ts}, w.tasks.Spares t ts → ts.table.length = w.tasks.table.length →
    (∀ u r, ts.CameTo u r ↔ w.tasks.CameTo u r) → Spares t w (w.withTasks ts)
  /-- The others are spared when a task ends. -/
  spared_end : ∀ {t u outcome w ts}, u ≠ t → Inv w → Rests t outcome w → w.tasks.Spares u ts →
    ts.table.length = w.tasks.table.length →
    (∀ v r, ts.CameTo v r ↔ w.tasks.CameTo v r ∨ (v = t ∧ r = outcome)) →
    Spares u w (w.withTasks ts)
  plays : ∀ {t job w w'}, Plays t job w → Spares t w w' → t < w.tasks.table.length →
    ¬ w'.tasks.Ended t → Plays t job w'
  /-- A task that is cancelled before it starts may end. -/
  rests : ∀ {t job w}, Inv w → Plays t job w → Rests t (.error .cancelled) w

namespace Discipline

variable (D : Discipline)

/-- What a turn leaves behind: the others are spared, and what it starts may be started. -/
structure Yields (t : TaskId) (w₀ w : World) : Prop where
  inv : D.Inv w
  spares : ∀ u, u ≠ t → ¬ w.tasks.Ended u → D.Spares u w₀ w
  starts : ∀ u job, .start u job ∈ w.tasks.dues → .start u job ∈ w₀.tasks.dues ∨ D.Plays u job w

/-- How a task that waited since `w` finds the world `w'` when it is answered: the others have made
of `w` what `found` was just before the answer. -/
structure Resumed (t : TaskId) (w : World) (what : Wait) (answer : Wakeup) (w' : World) : Prop where
  inv : D.Inv w'
  current : w'.tasks.current = t
  orderly : w'.tasks.Orderly (some t)
  /-- The task was not made to wait for another task than it wanted. -/
  alone : ∀ u, ((w.tasks.suspend t what).task t).status = .waiting (.join u) → what = .join u
  /-- A wait for no other task comes to nothing worse than a cancellation. -/
  plain : (∀ u, what ≠ .join u) → answer = .ok () ∨ answer = .error .cancelled
  /-- One for another task comes to what that one has come to, or to a cancellation. -/
  told : ∀ u, what = .join u → u ≠ t → answer = .error .cancelled ∨ w'.tasks.CameTo u answer
  meanwhile : ∃ found : World, D.Spares t (w.withTasks (w.tasks.suspend t what)) found ∧
    w' = found.withTasks w'.tasks ∧
    w'.tasks.table.length = found.tasks.table.length ∧
    (∀ u r, w'.tasks.CameTo u r ↔ found.tasks.CameTo u r) ∧
    (found.tasks.Stricken t → answer = .error .cancelled) ∧
    ∀ u, what = .join u → u ≠ t → found.tasks.Ended u

namespace Yields

variable {D} {t u : TaskId} {job : Job} {w₀ w w' : World}

theorem refl (h : D.Inv w) (t : TaskId) : D.Yields t w w where
  inv := h
  spares u _ _ := D.refl u w
  starts _ _ h := .inl h

/-- What is to be started may be started after the turn of another task. -/
theorem plays_of_start {active : Option TaskId} (h : D.Yields t w₀ w)
    (ho₀ : w₀.tasks.Orderly active) (ho : w.tasks.Orderly (some t))
    (hold : .start u job ∈ w₀.tasks.dues) (hmem : .start u job ∈ w.tasks.dues)
    (hplays : D.Plays u job w₀) : D.Plays u job w := by
  have hunended : ¬ w.tasks.Ended u := fun hended =>
    ho.not_parked_of_due hmem (beq_self_eq_true u) hended.parked
  have hne : u ≠ t := by
    rintro rfl
    have hnot := ho.not_due hmem
    rw [Due.lets, beq_self_eq_true] at hnot
    cases hnot
  exact D.plays hplays (h.spares u hne hunended)
    (Tasks.lt_of_not_parked (ho₀.not_parked_of_due hold (beq_self_eq_true u))) hunended

/-- A turn goes on. -/
theorem trans (h₁ : D.Yields t w₀ w) (h₂ : D.Yields t w w') (ho : w.tasks.Orderly (some t))
    (hwithin : w.tasks.Within w'.tasks) : D.Yields t w₀ w' where
  inv := h₂.inv
  spares u hu hunended :=
    D.trans (h₁.spares u hu fun hended => hunended ((hwithin.ended u).mpr hended))
      (h₂.spares u hu hunended)
  starts u job hmem := by
    rcases h₂.starts u job hmem with hold | hplays
    · rcases h₁.starts u job hold with hold | hplays
      · exact .inl hold
      · -- what was started earlier in the turn may be started still
        exact .inr (h₂.plays_of_start ho (hwithin.orderly _ ho) hold hmem hplays)
    · exact .inr hplays

end Yields

/-- What a task keeps to. -/
def terms (t : TaskId) : Terms World where
  resume := D.Resumed t
  change w w' := w.tasks.Within w'.tasks ∧ D.change w w'
  pause w₀ _ w := D.Yields t w₀ w

/-- How the turn of a task ends that does not end in a wait. -/
def post (t : TaskId) (w₀ : World) (r : Except Failure (Option Job)) (w : World) : Prop :=
  D.Yields t w₀ w ∧
    match r with
    | .ok (some job) => D.Plays t job w
    | .ok none => D.Rests t (.ok ()) w
    | .error e => D.Rests t (.error e) w

/-- Every job keeps to the terms of the task that takes it on. -/
def Binds (work : Work) : Prop :=
  ∀ t job w, D.Inv w → D.Plays t job w → w.tasks.current = t → w.tasks.Orderly (some t) →
    (work job).Meets (D.terms t) (D.post t) w w

/-! ### What is kept -/

/-- What is known of a task that waits. -/
def Awaits (t : TaskId) (next : Wakeup → Act (Option Job)) (w : World) : Prop :=
  ∃ (s : World) (what : Wait),
    D.Spares t (s.withTasks (s.tasks.suspend t what)) w ∧ w.tasks.Waits t what ∧
    w.tasks.Suspended t ∧
    (∀ u, ((s.tasks.suspend t what).task t).status = .waiting (.join u) → what = .join u) ∧
    w.tasks.Expects t what ∧
    ∀ answer s', D.Resumed t s what answer s' → (next answer).Meets (D.terms t) (D.post t) s' s'

/-- What is known in every state of a run. -/
structure Kept (active : Option TaskId) (waiting : List (TaskId × (Wakeup → Act (Option Job))))
    (w : World) : Prop where
  orderly : w.tasks.Orderly active
  inv : D.Inv w
  awaits : ∀ e ∈ waiting, active ≠ some e.1 ∧ D.Awaits e.1 e.2 w
  starts : ∀ u job, .start u job ∈ w.tasks.dues → D.Plays u job w

variable {D} {t : TaskId} {active : Option TaskId} {w w' : World} {ts : Tasks Job}
  {next : Wakeup → Act (Option Job)} {waiting : List (TaskId × (Wakeup → Act (Option Job)))}

theorem Awaits.later (h : D.Awaits t next w) (hspares : D.Spares t w w')
    (htasks : w.tasks.Spares t w'.tasks) : D.Awaits t next w' := by
  obtain ⟨s, what, hs, hwaits, hsuspended, halone, hexpects, hnext⟩ := h
  exact ⟨s, what, D.trans hs hspares, htasks.waits what hwaits, htasks.suspended hsuspended, halone,
    htasks.expects what hexpects, hnext⟩

theorem mem_of_lookup_eq_some {α : Type} {l : List (TaskId × α)} {a : α}
    (h : l.lookup t = some a) : (t, a) ∈ l := by
  obtain ⟨before, after, hl, -⟩ := List.lookup_eq_some_iff.mp h
  rw [hl]
  exact List.mem_append_right _ List.mem_cons_self

namespace Kept

theorem idle (h : D.Kept (some t) waiting w) : D.Kept none waiting w where
  orderly := h.orderly.idle
  inv := h.inv
  awaits e he := ⟨nofun, (h.awaits e he).2⟩
  starts := h.starts

/-- The books change around a turn, and fewer tasks may be waiting. -/
theorem books (h : D.Kept active waiting w) {active' turn : Option TaskId}
    {waiting' : List (TaskId × (Wakeup → Act (Option Job)))} (ho : ts.Orderly active')
    (hclerical : w.tasks.Clerical turn ts) (hinv : D.Inv (w.withTasks ts))
    (hwaiting : ∀ e ∈ waiting', e ∈ waiting ∧ turn ≠ some e.1 ∧ active' ≠ some e.1)
    (hturn : ∀ u job, .start u job ∈ ts.dues → turn ≠ some u) :
    D.Kept active' waiting' (w.withTasks ts) where
  orderly := ho
  inv := hinv
  awaits e he := by
    obtain ⟨hmem, hne, hactive⟩ := hwaiting e he
    have hspares := hclerical.spares e.1 hne
    have hspared := D.spared hspares hclerical.length hclerical.cameTo
    exact ⟨hactive, (h.awaits e hmem).2.later hspared hspares⟩
  starts u job hmem := by
    have hparked := ho.not_parked_of_due hmem (beq_self_eq_true u)
    have hlt := Tasks.lt_of_not_parked hparked
    rw [hclerical.length] at hlt
    have hspared := D.spared (hclerical.spares u (hturn u job hmem)) hclerical.length
      hclerical.cameTo
    exact D.plays (h.starts u job (hclerical.starts u job hmem)) hspared hlt
      fun hended => hparked hended.parked

/-- A turn goes on. -/
theorem turn (h : D.Kept (some t) waiting w) (hwithin : w.tasks.Within w'.tasks)
    (hyields : D.Yields t w w') : D.Kept (some t) waiting w' := by
  have ho := hwithin.orderly _ h.orderly
  refine ⟨ho, hyields.inv, fun e he => ?_, fun u job hmem => ?_⟩
  · obtain ⟨hne, hawaits⟩ := h.awaits e he
    have hspares := hwithin.spares e.1
    have hsuspended : w.tasks.Suspended e.1 := by
      obtain ⟨s, what, -, -, hsuspended, -⟩ := hawaits
      exact hsuspended
    have hunended := ho.unended_of_suspended (hspares.suspended hsuspended)
    refine ⟨hne, hawaits.later (hyields.spares e.1 (fun heq => hne ?_) hunended) hspares⟩
    rw [heq]
  · rcases hyields.starts u job hmem with hold | hplays
    · exact hyields.plays_of_start h.orderly ho hold hmem (h.starts u job hold)
    · exact hplays

/-- Nothing that is to start is the task whose turn ends. -/
theorem not_start (h : D.Kept (some t) waiting w) {u : TaskId} {job : Job}
    (hmem : .start u job ∈ w.tasks.dues) : some t ≠ some u := by
  rintro ⟨⟩
  have hnot := h.orderly.not_due hmem
  rw [Due.lets, beq_self_eq_true] at hnot
  cases hnot

/-- A turn ends in a wait. -/
theorem suspend (h : D.Kept (some t) waiting w) (what : Wait)
    (hnext : ∀ answer s', D.Resumed t w what answer s' →
      (next answer).Meets (D.terms t) (D.post t) s' s') :
    D.Kept none ((t, next) :: waiting) (w.withTasks (w.tasks.suspend t what)) := by
  obtain ⟨ho, hclerical, hwaits, hsuspended, halone⟩ := h.orderly.suspend what
  have hold := h.books ho hclerical (D.books h.inv hclerical.length hclerical.cameTo)
    (fun e he => ⟨he, (h.awaits e he).1, nofun⟩)
    fun u job hmem => h.not_start (hclerical.starts u job hmem)
  refine ⟨ho, hold.inv, fun e he => ?_, hold.starts⟩
  rcases List.mem_cons.mp he with rfl | he
  · exact ⟨nofun, w, what, D.refl t _, hwaits, hsuspended, halone,
      h.orderly.expects_suspend what, hnext⟩
  · exact hold.awaits e he

/-- A task ends. -/
theorem finish (h : D.Kept (some t) waiting w) {outcome : Wakeup} (hrests : D.Rests t outcome w) :
    D.Kept none waiting (w.withTasks (w.tasks.finish t outcome)) := by
  obtain ⟨ho, hlength, hspares, hcame, hstarts⟩ := h.orderly.finish outcome
  have hspared {u : TaskId} (hne : u ≠ t) : D.Spares u w (w.withTasks (w.tasks.finish t outcome)) :=
    D.spared_end hne h.inv hrests (hspares u hne) hlength hcame
  refine ⟨ho, D.ends h.inv hrests hlength hcame, fun e he => ?_, fun u job hmem => ?_⟩
  · obtain ⟨hnot, hawaits⟩ := h.awaits e he
    have hne : e.1 ≠ t := fun heq => hnot (by rw [heq])
    exact ⟨nofun, hawaits.later (hspared hne) (hspares e.1 hne)⟩
  · have hold := hstarts u job hmem
    have hparked := ho.not_parked_of_due hmem (beq_self_eq_true u)
    have hne : u ≠ t := fun heq => h.not_start hold (by rw [heq])
    exact D.plays (h.starts u job hold) (hspared hne)
      (Tasks.lt_of_not_parked (h.orderly.not_parked_of_due hold (beq_self_eq_true u)))
      fun hended => hparked hended.parked

end Kept

/-! ### Runs -/

/-- All that is known of a run: what is kept, and that the current task keeps to its terms. -/
structure Sound (D : Discipline) (r : Run) : Prop where
  kept : D.Kept (r.active.map fun _ => r.world.tasks.current) r.waiting r.world
  active : ∀ fiber, r.active = some fiber →
    fiber.Meets (D.terms r.world.tasks.current) (D.post r.world.tasks.current) r.world r.world

namespace Sound

variable {work : Work} {r : Run}

theorem of_idle (hactive : r.active = none) (hkept : D.Kept none r.waiting r.world) :
    D.Sound r where
  kept := by
    rw [hactive]
    exact hkept
  active fiber hfiber := by
    rw [hactive] at hfiber
    cases hfiber

/-- A turn yields, whether it ends in a wait or not. -/
theorem yields_of_atPause {pause : Pause World (Option Job)}
    (h : AtPause (D.terms t) (D.post t) w w' pause) : D.Yields t w w' := by
  cases pause with
  | done _ => exact h.1
  | fail _ => exact h.1
  | wait _ _ => exact h.1

/-- What is kept when the current task has come to its next wait or to its end, before the books say
so. -/
theorem stretch (h : D.Sound r) {fiber : Act (Option Job)} (hactive : r.active = some fiber) :
    r.world.tasks.Within (fiber.advance r.world).1.tasks ∧
      D.Kept (some r.world.tasks.current) r.waiting (fiber.advance r.world).1 := by
  obtain ⟨hchanges, hpause⟩ := meets_iff_advance.mp (h.active fiber hactive)
  have hwithin : r.world.tasks.Within (fiber.advance r.world).1.tasks :=
    advance_of_changes (R := fun w w' => w.tasks.Within w'.tasks) (fun w => .refl w.tasks)
      (fun _ _ _ => .trans) fun c hc => (hchanges c hc).1
  have hkept := h.kept
  rw [hactive] at hkept
  exact ⟨hwithin, hkept.turn hwithin (yields_of_atPause hpause)⟩

/-- A job is taken on. -/
theorem of_job (hwork : D.Binds work) {job : Job} (hkept : D.Kept (some w.tasks.current) waiting w)
    (hplays : D.Plays w.tasks.current job w) :
    D.Sound { world := w, active := some (work job), waiting } where
  kept := hkept
  active fiber hfiber := by
    cases hfiber
    exact hwork _ job w hkept.inv hplays rfl hkept.orderly

/-- The current task goes on to its next wait. -/
theorem carryOn (h : D.Sound r) (hwork : D.Binds work) {fiber : Act (Option Job)}
    (hactive : r.active = some fiber) : D.Sound (r.carryOn work fiber) := by
  obtain ⟨hwithin, hkept⟩ := h.stretch hactive
  have hpause := (meets_iff_advance.mp (h.active fiber hactive)).2
  rw [Run.carryOn]
  rw [← hwithin.current] at hkept hpause
  generalize fiber.advance r.world = reached at hkept hpause
  obtain ⟨w, pause⟩ := reached
  -- the stretch ends in a wait, in a failure, with the task, or with one round of its job
  cases pause with
  | wait what next =>
    refine of_idle rfl (hkept.suspend what fun answer s' hs' => ?_)
    exact hpause.2 answer s' trivial trivial hs'
  | fail failure => exact of_idle rfl (hkept.finish hpause.2)
  | done goesOn =>
    cases goesOn with
    | none => exact of_idle rfl (hkept.finish hpause.2)
    | some job => exact of_job hwork hkept hpause.2

/-- The books are changed between two turns. -/
theorem between (h : D.Sound r) (hactive : r.active = none)
    (hbooks : r.world.tasks.Orderly none → ts.Orderly none ∧ r.world.tasks.Clerical none ts) :
    D.Sound { r with world := r.world.withTasks ts } := by
  have hkept := h.kept
  rw [hactive] at hkept
  obtain ⟨ho, hclerical⟩ := hbooks hkept.orderly
  refine of_idle hactive (hkept.books ho hclerical ?_ (fun e he => ⟨he, nofun, nofun⟩)
    fun _ _ _ => nofun)
  exact D.books hkept.inv hclerical.length hclerical.cameTo

section Take

variable {rest : List (Due Job)}

/-- A task starts, unless a cancellation has struck it before. -/
theorem start (hactive : r.active = none) (h : D.Kept none r.waiting r.world)
    (hwork : D.Binds work) {job : Job} (hround : r.world.tasks.round = .start t job :: rest) :
    D.Sound ((r.changeTasks fun ts => { ts with round := rest }).start work t job) := by
  obtain ⟨world, active, waiting⟩ := r
  cases hactive
  have ho := h.orderly.start hround
  have hclerical := h.orderly.clerical_start hround
  have hstarted : D.Kept (some t) waiting
      (world.withTasks (({ world.tasks with round := rest } : Tasks Job).started t)) := by
    refine h.books ho hclerical (D.books h.inv hclerical.length hclerical.cameTo) (fun e he => ?_)
      fun u job _ => nofun
    -- the task that starts is not one that waits
    refine ⟨he, nofun, ?_⟩
    rintro ⟨⟩
    obtain ⟨s, what, -, -, hsuspended, -⟩ := (h.awaits e he).2
    exact h.orderly.not_start_of_suspended hround hsuspended
  have hplays : D.Plays t job
      (world.withTasks (({ world.tasks with round := rest } : Tasks Job).started t)) := by
    have hmem : .start t job ∈ world.tasks.dues := by
      rw [Tasks.dues_pop hround]
      exact List.mem_cons_self
    have hparked := h.orderly.not_parked_of_due hmem (beq_self_eq_true t)
    have hspared := D.spared (hclerical.spares t nofun) hclerical.length hclerical.cameTo
    exact D.plays (h.starts t job hmem) hspared (Tasks.lt_of_not_parked hparked)
      fun hended => ho.not_parked hended.parked
  rw [Run.start]
  split
  · exact of_idle rfl (hstarted.finish (D.rests hstarted.inv hplays))
  · exact of_job hwork hstarted hplays

/-- A wait is answered. -/
theorem resume (hactive : r.active = none) (h : D.Kept none r.waiting r.world) {answer : Wakeup}
    (hround : r.world.tasks.round = .resume t answer :: rest) :
    D.Sound ((r.changeTasks fun ts => { ts with round := rest }).resume t answer) := by
  obtain ⟨world, active, waiting⟩ := r
  cases hactive
  have ho := h.orderly.resume hround
  have hclerical := Tasks.clerical_resume hround
  let answered : Wakeup × Tasks Job :=
    ({ world.tasks with round := rest } : Tasks Job).takeAnswer t answer
  have hkept : D.Kept (some t) (waiting.filter (·.1 != t))
      (world.withTasks { answered.2 with current := t }) := by
    refine h.books ho hclerical (D.books h.inv hclerical.length hclerical.cameTo) (fun e he => ?_)
      fun u job hmem => ?_
    · obtain ⟨hmem, hne⟩ := List.mem_filter.mp he
      have hne' : some t ≠ some e.1 := by
        rintro ⟨⟩
        simp at hne
      exact ⟨hmem, hne', hne'⟩
    · rintro ⟨⟩
      have hnot := ho.not_due hmem
      rw [Due.lets, beq_self_eq_true] at hnot
      cases hnot
  show D.Sound {
    world := world.withTasks { answered.2 with current := t }
    active := (waiting.lookup t).map (· answered.1)
    waiting := waiting.filter (·.1 != t) }
  cases hlookup : waiting.lookup t with
  | none => exact of_idle rfl hkept.idle
  | some next =>
    refine ⟨hkept, fun fiber hfiber => ?_⟩
    cases hfiber
    -- the one that waits is told how the others have left the world
    obtain ⟨s, what, hs, hwaits, -, halone, hexpects, hnext⟩ :=
      (h.awaits (t, next) (mem_of_lookup_eq_some hlookup)).2
    have hgrants := Tasks.grants_answer hround hexpects
    exact hnext _ _
      { inv := hkept.inv
        current := rfl
        orderly := ho
        alone := halone
        plain := hgrants.plain
        told := fun u hu hne => (hgrants.told hu hne).imp_right (hclerical.cameTo u _).mpr
        meanwhile := ⟨world, hs, rfl, hclerical.length, hclerical.cameTo,
          h.orderly.answer_of_stricken hround, h.orderly.ended_of_waits hround hwaits⟩ }

/-- Each step keeps the run sound. -/
theorem move (h : D.Sound r) (hwork : D.Binds work) {next : Run} (hmove : r.move work = some next) :
    D.Sound next := by
  rw [Run.move] at hmove
  split at hmove
  · rename_i fiber hactive
    cases hmove
    -- somebody is active, and goes on
    exact h.carryOn hwork hactive
  · rename_i hactive
    have hkept := h.kept
    rw [hactive] at hkept
    split at hmove
    · rename_i due rest hround
      cases hmove
      -- nobody is active, and what is first in the round comes up
      cases due with
      | start t job => exact start hactive hkept hwork hround
      | resume t answer => exact resume hactive hkept hround
      | ring t => exact h.between hactive fun ho => ho.ring hround
    · -- the round is over, and the next one begins
      obtain ⟨tasks, hnext, rfl⟩ := Option.map_eq_some_iff.mp hmove
      refine h.between hactive fun ho => ?_
      rcases Tasks.nextRound_cases hnext with rfl | ⟨timer, rfl⟩
      · exact ⟨ho.beginRound, Tasks.clerical_beginRound _⟩
      · exact ⟨(ho.setClock timer).beginRound,
          (Tasks.clerical_setClock _ timer).trans (Tasks.clerical_beginRound _)⟩

end Take

end Sound

end Discipline

/-- **Disciplined runs.**  If every job keeps to its terms, the discipline holds wherever a run can
come to from a state in which it holds. -/
theorem Run.Reaches.sound {D : Discipline} {work : Work} {first r : Run}
    (h : Run.Reaches work first r) (hwork : D.Binds work) (hfirst : D.Sound first) : D.Sound r := by
  induction h with
  | start => exact hfirst
  | move _ hmove ih => exact ih.move hwork hmove
  | cancel t _ hactive ih =>
    exact ih.between hactive fun ho => ⟨ho.cancel t, .cancel none _ t⟩
  | beginRound _ hactive ih =>
    exact ih.between hactive fun ho => ⟨ho.beginRound, Tasks.clerical_beginRound _⟩

/-- All that the current task of a disciplined run does is as the discipline says. -/
theorem Discipline.Sound.change {D : Discipline} {r : Run} (h : D.Sound r) :
    ∀ c ∈ r.changes, D.change c.1 c.2 := by
  intro c hc
  rw [Run.changes] at hc
  cases hactive : r.active with
  | none =>
    rw [hactive] at hc
    cases hc
  | some fiber =>
    rw [hactive] at hc
    exact ((meets_iff_advance.mp (h.active fiber hactive)).1 c hc).2

/-! ### What is never changed -/

theorem Run.world_carryOn (work : Work) (fiber : Act (Option Job)) (r : Run) :
    ∃ ts, (r.carryOn work fiber).world = (fiber.advance r.world).1.withTasks ts := by
  rw [Run.carryOn]
  generalize fiber.advance r.world = reached
  obtain ⟨w, pause⟩ := reached
  rcases pause with (_ | job) | failure | ⟨what, next⟩
  all_goals exact ⟨_, rfl⟩

theorem Run.world_take (work : Work) (due : Due Job) (r : Run) :
    ∃ ts, (r.take work due).world = r.world.withTasks ts := by
  cases due with
  | start t job =>
    rw [Run.take, Run.start]
    split
    all_goals exact ⟨_, rfl⟩
  | resume t answer => exact ⟨_, rfl⟩
  | ring t => exact ⟨_, rfl⟩

/-- A move lets the active task go on, or changes the books alone. -/
theorem Run.world_move {work : Work} {r next : Run} (h : r.move work = some next) :
    (∃ fiber, r.active = some fiber ∧
      ∃ ts, next.world = (fiber.advance r.world).1.withTasks ts) ∨
    ∃ ts, next.world = r.world.withTasks ts := by
  rw [Run.move] at h
  split at h
  · rename_i fiber hactive
    cases h
    exact .inl ⟨fiber, hactive, Run.world_carryOn work fiber r⟩
  · refine .inr ?_
    split at h
    · rename_i due rest _
      cases h
      exact Run.world_take work due (r.changeTasks fun ts => { ts with round := rest })
    · obtain ⟨ts, -, rfl⟩ := Option.map_eq_some_iff.mp h
      exact ⟨ts, rfl⟩

/-- What none of the changes touches, nor the books, stays as it was in a disciplined run. -/
theorem Run.Reaches.keeps {D : Discipline} {work : Work} {first r : Run} {κ : Type} {K : World → κ}
    (h : Run.Reaches work first r) (hwork : D.Binds work) (hfirst : D.Sound first)
    (hbooks : ∀ (w : World) (ts : Tasks Job), K (w.withTasks ts) = K w)
    (hchange : ∀ w w', D.change w w' → K w' = K w) : K r.world = K first.world := by
  induction h with
  | start => rfl
  | @move r next hreaches hmove ih =>
    refine Eq.trans ?_ ih
    -- a step is a stretch of the active task, or is about the books alone
    rcases Run.world_move hmove with ⟨fiber, hactive, ts, hworld⟩ | ⟨ts, hworld⟩
    · rw [hworld, hbooks]
      refine advance_of_changes (R := fun w w' => K w' = K w) (fun _ => rfl)
        (fun _ _ _ h₁ h₂ => h₂.trans h₁) fun c hc => hchange c.1 c.2 ?_
      refine (hreaches.sound hwork hfirst).change c ?_
      rw [Run.changes, hactive]
      exact hc
    · rw [hworld, hbooks]
  | cancel t _ _ ih => exact (hbooks _ _).trans ih
  | beginRound _ _ ih => exact (hbooks _ _).trans ih

/-- What every turn leaves true, and the books as well, stays true in a disciplined run. -/
theorem Run.Reaches.lasts {D : Discipline} {work : Work} {first r : Run} {K : World → Prop}
    (h : Run.Reaches work first r) (hwork : D.Binds work) (hfirst : D.Sound first)
    (hbooks : ∀ (w : World) (ts : Tasks Job), K w → K (w.withTasks ts))
    (hturn : ∀ t w w', D.Yields t w w' → K w → K w') (hK : K first.world) : K r.world := by
  induction h with
  | start => exact hK
  | @move r next hreaches hmove ih =>
    rcases Run.world_move hmove with ⟨fiber, hactive, ts, hworld⟩ | ⟨ts, hworld⟩
    · rw [hworld]
      refine hbooks _ ts (hturn r.world.tasks.current r.world _ ?_ ih)
      have hmeets := (hreaches.sound hwork hfirst).active fiber hactive
      exact Discipline.Sound.yields_of_atPause (meets_iff_advance.mp hmeets).2
    · rw [hworld]
      exact hbooks _ ts ih
  | cancel t _ _ ih => exact hbooks _ _ ih
  | beginRound _ _ ih => exact hbooks _ _ ih

/-! ### What every task keeps -/

/-- All that is left to be done in a run keeps what holds of the world. -/
structure Run.Keeps (K : World → Prop) (r : Run) : Prop where
  holds : K r.world
  active : ∀ fiber, r.active = some fiber → ∀ w,
    fiber.Meets { change := fun w w' => K w → K w' } (fun _ _ _ => True) w w
  waiting : ∀ e ∈ r.waiting, ∀ answer w,
    (e.2 answer).Meets { change := fun w w' => K w → K w' } (fun _ _ _ => True) w w

namespace Run.Keeps

variable {K : World → Prop} {work : Work} {r next : Run} {fiber : Act (Option Job)}

/-- Nothing is left to be done but what was. -/
theorem of_fewer (h : r.Keeps K) (hholds : K next.world) (hactive : next.active = none)
    (hwaiting : ∀ e ∈ next.waiting, e ∈ r.waiting) : next.Keeps K where
  holds := hholds
  active fiber hfiber := by
    rw [hactive] at hfiber
    cases hfiber
  waiting e he := h.waiting e (hwaiting e he)

variable (hbooks : ∀ w ts, K w → K (w.withTasks ts))
  (hwork : ∀ job, Steady (fun w w' => K w → K w') (fun _ => True) (work job))

include hbooks hwork

/-- The active task goes on, and keeps what its fiber keeps. -/
theorem carryOn (h : r.Keeps K) (hactive : r.active = some fiber) :
    (r.carryOn work fiber).Keeps K := by
  obtain ⟨hchanges, hpause⟩ := meets_iff_advance.mp (h.active fiber hactive r.world)
  have hholds : K (fiber.advance r.world).1 :=
    advance_of_changes (R := fun w w' => K w → K w') (fun _ hw => hw)
      (fun _ _ _ h₁ h₂ hw => h₂ (h₁ hw)) hchanges h.holds
  have hwaiting := h.waiting
  rw [Run.carryOn]
  generalize fiber.advance r.world = reached at hpause hholds
  obtain ⟨w, pause⟩ := reached
  -- in a wait the rest of the fiber is put aside; at an end it is dropped, or the
  -- next round takes its place
  rcases pause with (_ | job) | failure | ⟨what, next⟩
  · exact h.of_fewer (hbooks w _ hholds) rfl fun _ he => he
  · refine ⟨hholds, fun fiber hfiber w => ?_, hwaiting⟩
    cases hfiber
    exact hwork job w w
  · exact h.of_fewer (hbooks w _ hholds) rfl fun _ he => he
  · refine ⟨hbooks w _ hholds, fun fiber hfiber => (Option.some_ne_none _ hfiber.symm).elim,
      fun e he => ?_⟩
    rcases List.mem_cons.mp he with rfl | he
    · exact fun answer w => hpause.2 answer w trivial trivial trivial
    · exact hwaiting e he

/-- Whatever comes up next, it is kept. -/
theorem take (h : r.Keeps K) (hactive : r.active = none) (due : Due Job) :
    (r.take work due).Keeps K := by
  cases due with
  | ring t => exact h.of_fewer (hbooks _ _ h.holds) hactive fun _ he => he
  | resume t answer =>
    -- what is taken up again is one of the fibers that were put aside
    refine ⟨hbooks r.world _ h.holds, fun fiber hfiber => ?_,
      fun e he => h.waiting e (List.mem_filter.mp he).1⟩
    obtain ⟨next, hlookup, rfl⟩ := Option.map_eq_some_iff.mp hfiber
    exact h.waiting (t, next) (Discipline.mem_of_lookup_eq_some hlookup) _
  | start t job =>
    rw [Run.take, Run.start]
    split
    · exact h.of_fewer (hbooks r.world _ h.holds) rfl fun _ he => he
    · refine ⟨hbooks r.world _ h.holds, fun fiber hfiber w => ?_, h.waiting⟩
      cases hfiber
      exact hwork job w w

/-- Each step keeps what all fibers keep. -/
theorem move (h : r.Keeps K) (hmove : r.move work = some next) : next.Keeps K := by
  rw [Run.move] at hmove
  split at hmove
  · rename_i fiber hactive
    cases hmove
    exact h.carryOn hbooks hwork hactive
  · rename_i hactive
    split at hmove
    · rename_i due rest _
      cases hmove
      -- taking something from the round is about the books
      have hpopped : (r.changeTasks fun ts => { ts with round := rest }).Keeps K :=
        h.of_fewer (hbooks r.world _ h.holds) hactive fun _ he => he
      exact hpopped.take hbooks hwork hactive due
    · obtain ⟨ts, -, rfl⟩ := Option.map_eq_some_iff.mp hmove
      exact h.of_fewer (hbooks r.world ts h.holds) hactive fun _ he => he

end Run.Keeps

/-- What each change of every task keeps, and the books as well, holds wherever a run can come to,
in whatever order the tasks have their turns. -/
theorem Run.Reaches.keeps_all {K : World → Prop} {work : Work} {first r : Run}
    (h : Run.Reaches work first r) (hbooks : ∀ w ts, K w → K (w.withTasks ts))
    (hwork : ∀ job, Steady (fun w w' => K w → K w') (fun _ => True) (work job))
    (hfirst : first.Keeps K) : r.Keeps K := by
  induction h with
  | start => exact hfirst
  | move _ hmove ih => exact ih.move hbooks hwork hmove
  | cancel t _ hactive ih => exact ih.of_fewer (hbooks _ _ ih.holds) hactive fun _ he => he
  | beginRound _ hactive ih => exact ih.of_fewer (hbooks _ _ ih.holds) hactive fun _ he => he

end ResumableWatch
