import ResumableWatch.Proofs.Fiber.Tandem
import ResumableWatch.Proofs.Tasks.Discipline
/-!
# The occasions of a run

A `Tandem` is told on which occasions its two loops go on; in a run it is the scheduler that lets the
tasks take turns.  This module closes the gap.  Let two tasks have a job each that is one round after
another.  Then whatever a disciplined run comes to, there are occasions on which the tandem of the
two comes to the same world (`Run.Reaches.occasions`).

Each move of the run is one occasion or two.  A turn of one of the two tasks is a stretch of its loop,
a turn of any other task happens elsewhere, and so does all that the scheduler writes into its books.
What the run keeps of the two tasks is what the tandem keeps of their loops (`Run.Pursues`): this is
the invariant that the moves preserve.
-/

namespace ResumableWatch

open ResumableWatch.Fiber

/-! ### Rounds of a job -/

/-- Where a task comes to whose job goes on with another round. -/
def Pause.continuedBy (job : Job) : Pause World Bool → Pause World (Option Job)
  | .done more => .done (if more then some job else none)
  | .fail e => .fail e
  | .wait what next => .wait what fun answer => job.continuedBy (next answer)

/-- A task makes the stretches that its round makes. -/
theorem Job.advance_continuedBy (job : Job) (m : Act Bool) (w : World) :
    (job.continuedBy m).advance w = ((m.advance w).1, (m.advance w).2.continuedBy job) := by
  induction m generalizing w with
  | done more => rfl
  | fail e => rfl
  | read next ih => exact ih w w
  | write w' next ih => exact ih w'
  | wait what next => rfl

/-- A task with a job that is one round after another. -/
structure Strand where
  task : TaskId
  job : Job
  round : Act Bool

/-- The job with which this starts the task, if it does. -/
def Due.jobOf? {J : Type} (t : TaskId) : Due J → Option J
  | .start other job => if other = t then some job else none
  | _ => none

/-- Whether the task is there and has not begun: it is neither its turn nor does it wait, and it is
to start with its job, if it is to start. -/
def Strand.isUnbegun (a : Strand) (r : Run) : Bool :=
  decide (a.task < r.world.tasks.table.length) &&
    r.world.tasks.dues.all (fun due => (due.jobOf? a.task).all (· == a.job)) &&
    (r.active.isNone || r.world.tasks.current != a.task) && r.waiting.all (·.1 != a.task)

namespace Run

variable {D : Discipline} {work : Work} {first r r' : Run} {a b : Strand} {t : TaskId}
  {loop : Option (Wakeup → Act Bool)} {fiber fiber' : Act (Option Job)} {ts : Tasks Job}

/-! ### What a task goes on with -/

/-- All that a run keeps of a task is what its loop goes on with: another round when it is to start,
and the rest of one when it is its turn or when it waits. -/
structure Pursues (r : Run) (a : Strand) (loop : Option (Wakeup → Act Bool)) : Prop where
  there : a.task < r.world.tasks.table.length
  starts : ∀ job, .start a.task job ∈ r.world.tasks.dues → job = a.job ∧ loop = some fun _ => a.round
  active : ∀ fiber, r.active = some fiber → r.world.tasks.current = a.task →
    ∃ next answer, loop = some next ∧ fiber = a.job.continuedBy (next answer)
  waiting : ∀ e ∈ r.waiting, e.1 = a.task →
    ∃ next, loop = some next ∧ e.2 = fun answer => a.job.continuedBy (next answer)

namespace Pursues

/-- A task that has not begun goes on with its first round. -/
theorem of_unbegun (h : a.isUnbegun r = true) : r.Pursues a (some fun _ => a.round) := by
  simp only [Strand.isUnbegun, Bool.and_eq_true, Bool.or_eq_true, decide_eq_true_eq,
    List.all_eq_true, bne_iff_ne] at h
  obtain ⟨⟨⟨hthere, hstarts⟩, hactive⟩, hwaiting⟩ := h
  refine ⟨hthere, fun job hmem => ⟨?_, rfl⟩, fun fiber hfiber hcurrent => ?_,
    fun e he heq => absurd heq (hwaiting e he)⟩
  · have hjob := hstarts _ hmem
    rw [Due.jobOf?, if_pos rfl] at hjob
    exact beq_iff_eq.mp hjob
  · rw [hfiber] at hactive
    exact absurd hcurrent (hactive.resolve_left Bool.false_ne_true)

/-- Nothing is kept of the task but what was kept before, and its turn, if it is its turn. -/
theorem of_fewer (h : r.Pursues a loop)
    (hlength : r.world.tasks.table.length ≤ r'.world.tasks.table.length)
    (hstarts : ∀ job, .start a.task job ∈ r'.world.tasks.dues →
      .start a.task job ∈ r.world.tasks.dues)
    (hwaiting : ∀ e ∈ r'.waiting, e.1 = a.task → e ∈ r.waiting)
    (hactive : ∀ fiber, r'.active = some fiber → r'.world.tasks.current = a.task →
      ∃ next answer, loop = some next ∧ fiber = a.job.continuedBy (next answer)) :
    r'.Pursues a loop where
  there := Nat.lt_of_lt_of_le h.there hlength
  starts job hmem := h.starts job (hstarts job hmem)
  active := hactive
  waiting e he heq := h.waiting e (hwaiting e he heq) heq

/-- The books are written between the turns. -/
theorem between (h : r.Pursues a loop) (hclerical : r.world.tasks.Clerical none ts) :
    Pursues { r with world := r.world.withTasks ts, active := none } a loop :=
  h.of_fewer (Nat.le_of_eq hclerical.length.symm) (fun job => hclerical.starts a.task job)
    (fun _ he _ => he) fun _ hfiber => (Option.some_ne_none _ hfiber.symm).elim

end Pursues

/-! ### Turns -/

theorem world_carryOn_of_active (h : (r.carryOn work fiber).active = some fiber') :
    (r.carryOn work fiber).world = (fiber.advance r.world).1 := by
  rw [Run.carryOn] at h ⊢
  generalize fiber.advance r.world = reached at h ⊢
  obtain ⟨w, pause⟩ := reached
  rcases pause with (_ | _) | e | ⟨what, next⟩
  · cases h
  · rfl
  · cases h
  · cases h

theorem mem_waiting_carryOn {e : TaskId × (Wakeup → Act (Option Job))}
    (h : e ∈ (r.carryOn work fiber).waiting) :
    e ∈ r.waiting ∨ e.1 = (fiber.advance r.world).1.tasks.current := by
  rw [Run.carryOn] at h
  generalize fiber.advance r.world = reached at h ⊢
  obtain ⟨w, pause⟩ := reached
  rcases pause with (_ | _) | e' | ⟨what, next⟩
  · exact .inl h
  · exact .inl h
  · exact .inl h
  · rcases List.mem_cons.mp h with rfl | h
    · exact .inr rfl
    · exact .inl h

/-- What is to start when a turn is over was to start before, or is new; it is not the task whose turn
it was. -/
theorem starts_carryOn (work : Work) (hsound : D.Sound r) (hactive : r.active = some fiber) :
    r.world.tasks.table.length ≤ (r.carryOn work fiber).world.tasks.table.length ∧
      ∀ t job, .start t job ∈ (r.carryOn work fiber).world.tasks.dues →
        t ≠ r.world.tasks.current ∧
          (.start t job ∈ r.world.tasks.dues ∨ r.world.tasks.table.length ≤ t) := by
  obtain ⟨hwithin, hkept⟩ := hsound.stretch hactive
  have hstarts (t : TaskId) (job : Job)
      (hmem : .start t job ∈ (fiber.advance r.world).1.tasks.dues) :
      t ≠ r.world.tasks.current ∧
        (.start t job ∈ r.world.tasks.dues ∨ r.world.tasks.table.length ≤ t) :=
    ⟨fun heq => hkept.not_start hmem (congrArg some heq.symm), hwithin.starts t job hmem⟩
  have horderly := hkept.orderly
  rw [← hwithin.current] at horderly
  have hlength := hwithin.length
  -- what is entered at the end of the turn starts nobody
  rw [Run.carryOn]
  generalize fiber.advance r.world = reached at hstarts horderly hlength
  obtain ⟨w, pause⟩ := reached
  have hfinish (outcome : Wakeup) :
      r.world.tasks.table.length ≤ (w.tasks.finish w.tasks.current outcome).table.length ∧
        ∀ t job, .start t job ∈ (w.tasks.finish w.tasks.current outcome).dues →
          .start t job ∈ w.tasks.dues := by
    obtain ⟨-, hsame, -, -, hfewer⟩ := horderly.finish outcome
    exact ⟨Nat.le_trans hlength (Nat.le_of_eq hsame.symm), hfewer⟩
  rcases pause with (_ | job) | failure | ⟨what, next⟩
  · exact (hfinish _).imp_right fun hfewer t job hmem => hstarts t job (hfewer t job hmem)
  · exact ⟨hlength, hstarts⟩
  · exact (hfinish _).imp_right fun hfewer t job hmem => hstarts t job (hfewer t job hmem)
  · obtain ⟨-, hclerical, -⟩ := horderly.suspend what
    exact ⟨Nat.le_trans hlength (Nat.le_of_eq hclerical.length.symm),
      fun t job hmem => hstarts t job (hclerical.starts t job hmem)⟩

namespace Pursues

/-- It is the task's turn: it goes on with what is left of its round, or with another one. -/
theorem carryOn_self {m : Act Bool} (h : r.Pursues a loop) (hsound : D.Sound r)
    (hjob : work a.job = a.job.continuedBy a.round)
    (hactive : r.active = some (a.job.continuedBy m)) (hcurrent : r.world.tasks.current = a.task) :
    (r.carryOn work (a.job.continuedBy m)).Pursues a ((m.advance r.world).2.onward a.round) := by
  obtain ⟨hlength, hstarts⟩ := starts_carryOn work hsound hactive
  -- before it began to wait, nothing of it was waiting
  have hnone (e : TaskId × (Wakeup → Act (Option Job))) (he : e ∈ r.waiting) : e.1 ≠ a.task := by
    intro heq
    have hnot := (hsound.kept.awaits e he).1
    rw [hactive, Option.map_some, heq, hcurrent] at hnot
    exact hnot rfl
  refine ⟨Nat.lt_of_lt_of_le h.there hlength, fun job hmem => ?starts,
    fun fiber hfiber _ => ?active, fun e he heq => ?waiting⟩
  case starts => exact absurd hcurrent.symm (hstarts a.task job hmem).1
  case active =>
    rw [Run.carryOn, Job.advance_continuedBy] at hfiber
    generalize m.advance r.world = reached at hfiber ⊢
    obtain ⟨w, pause⟩ := reached
    rcases pause with (_ | _) | e | ⟨what, next⟩
    · cases hfiber
    · cases hfiber
      exact ⟨fun _ => a.round, .ok (), rfl, hjob⟩
    · cases hfiber
    · cases hfiber
  case waiting =>
    rw [Run.carryOn, Job.advance_continuedBy] at he
    generalize m.advance r.world = reached at he ⊢
    obtain ⟨w, pause⟩ := reached
    rcases pause with (_ | _) | e' | ⟨what, next⟩
    · exact absurd heq (hnone e he)
    · exact absurd heq (hnone e he)
    · exact absurd heq (hnone e he)
    · rcases List.mem_cons.mp he with rfl | he
      · exact ⟨next, rfl, rfl⟩
      · exact absurd heq (hnone e he)

/-- It is the turn of another task. -/
theorem carryOn_other (h : r.Pursues a loop) (hsound : D.Sound r) (hactive : r.active = some fiber)
    (hcurrent : r.world.tasks.current ≠ a.task) : (r.carryOn work fiber).Pursues a loop := by
  obtain ⟨hlength, hstarts⟩ := starts_carryOn work hsound hactive
  have hwithin := (hsound.stretch hactive).1
  refine h.of_fewer hlength (fun job hmem => ?starts) (fun e he heq => ?waiting)
    fun fiber' hfiber hself => ?active
  case starts => exact (hstarts a.task job hmem).2.resolve_right (Nat.not_le_of_gt h.there)
  case waiting =>
    refine (mem_waiting_carryOn he).resolve_right fun hlast => hcurrent ?_
    rw [← hwithin.current, ← hlast, heq]
  case active =>
    rw [world_carryOn_of_active hfiber, hwithin.current] at hself
    exact absurd hself hcurrent

/-! ### Between the turns -/

/-- What is due first is taken from the round. -/
theorem take {due : Due Job} {rest : List (Due Job)} (h : r.Pursues a loop) (hsound : D.Sound r)
    (hjob : work a.job = a.job.continuedBy a.round) (hactive : r.active = none)
    (hround : r.world.tasks.round = due :: rest) :
    ((r.changeTasks fun ts => { ts with round := rest }).take work due).Pursues a loop := by
  have horderly := hsound.kept.orderly
  rw [hactive] at horderly
  cases due with
  | ring t =>
    obtain ⟨world, active, waiting⟩ := r
    cases hactive
    exact h.between (horderly.ring hround).2
  | resume t answer =>
    have hclerical := Tasks.clerical_resume hround
    refine h.of_fewer (Nat.le_of_eq hclerical.length.symm)
      (fun job => hclerical.starts a.task job) (fun e he _ => (List.mem_filter.mp he).1)
      fun fiber hfiber hcurrent => ?_
    -- the task goes on with what it left when it began to wait
    obtain ⟨next, hlookup, rfl⟩ := Option.map_eq_some_iff.mp hfiber
    obtain ⟨inner, hloop, hnext⟩ :=
      h.waiting (t, next) (Discipline.mem_of_lookup_eq_some hlookup) hcurrent
    exact ⟨inner, _, hloop, congrFun hnext _⟩
  | start t job =>
    have hclerical := horderly.clerical_start hround
    have hmem : .start t job ∈ r.world.tasks.dues := by
      rw [Tasks.dues_pop hround]
      exact List.mem_cons_self
    rw [Run.take, Run.start]
    split
    · obtain ⟨-, hlength, -, -, hfewer⟩ := (horderly.start hround).finish (.error .cancelled)
      refine h.of_fewer (Nat.le_of_eq (hlength.trans hclerical.length).symm)
        (fun job hmem => hclerical.starts a.task job (hfewer a.task job hmem)) (fun e he _ => he)
        fun fiber hfiber => ?_
      cases hfiber
    · refine h.of_fewer (Nat.le_of_eq hclerical.length.symm)
        (fun job => hclerical.starts a.task job) (fun e he _ => he) fun fiber hfiber hcurrent => ?_
      cases hfiber
      obtain ⟨rfl, hloop⟩ := h.starts job (hcurrent ▸ hmem)
      exact ⟨fun _ => a.round, .ok (), hloop, hjob⟩

/-- A move between the turns. -/
theorem move (h : r.Pursues a loop) (hsound : D.Sound r)
    (hjob : work a.job = a.job.continuedBy a.round) (hactive : r.active = none)
    (hmove : r.move work = some r') : r'.Pursues a loop := by
  rw [Run.move, hactive] at hmove
  dsimp only at hmove
  split at hmove
  · rename_i due rest hround
    cases hmove
    exact h.take hsound hjob hactive hround
  · obtain ⟨tasks, hnext, rfl⟩ := Option.map_eq_some_iff.mp hmove
    obtain ⟨world, active, waiting⟩ := r
    cases hactive
    refine h.between ?_
    rcases Tasks.nextRound_cases hnext with rfl | ⟨timer, rfl⟩
    · exact Tasks.clerical_beginRound _
    · exact (Tasks.clerical_setClock _ timer).trans (Tasks.clerical_beginRound _)

end Pursues

/-! ### Occasions -/

/-- What happens in a run: one of the two tasks has its turn, the books are written, or another task
has its turn. -/
inductive Brings (work : Work) (first : Run) (a b : Strand) : Occasion World → Prop
  | loop (answer : Wakeup) : Brings work first a b (.loop answer)
  | companion (answer : Wakeup) : Brings work first a b (.companion answer)
  | books (tasks : Tasks Job) : Brings work first a b (.elsewhere (·.withTasks tasks))
  | other {r : Run} {fiber : Act (Option Job)} :
    Reaches work first r → r.active = some fiber → r.world.tasks.current ≠ a.task →
    r.world.tasks.current ≠ b.task →
    Brings work first a b (.elsewhere fun w => (fiber.advance w).1)

end Run

namespace Tandem

/-- A tandem that has come to the same world as a run, and whose loops are what the two tasks go on
with. -/
structure Mirrors (p : Tandem World) (a b : Strand) (r : Run) : Prop where
  state : p.state = r.world
  loop : r.Pursues a p.loop
  companion : r.Pursues b p.companion

/-- On occasions that the run brings, a tandem comes to what mirrors `r`. -/
def Attains (work : Work) (first : Run) (a b : Strand) (p : Tandem World) (r : Run) : Prop :=
  ∃ occasions : List (Occasion World), (∀ o ∈ occasions, Run.Brings work first a b o) ∧
    (occasions.foldl (Tandem.after a.round b.round) p).Mirrors a b r

variable {D : Discipline} {work : Work} {first r r' : Run} {a b : Strand} {p : Tandem World}
  {fiber : Act (Option Job)}

theorem Attains.trans (h : Attains work first a b p r)
    (hnext : ∀ p', p'.Mirrors a b r → Attains work first a b p' r') :
    Attains work first a b p r' := by
  obtain ⟨before, hbefore, hmirrors⟩ := h
  obtain ⟨after, hafter, hmirrors'⟩ := hnext _ hmirrors
  refine ⟨before ++ after, fun o ho => ?_, ?_⟩
  · exact (List.mem_append.mp ho).elim (hbefore o) (hafter o)
  · rw [List.foldl_append]
    exact hmirrors'

namespace Mirrors

/-- The books are written, and nothing else happens. -/
theorem books (h : p.Mirrors a b r) (hworld : ∃ ts, r'.world = r.world.withTasks ts)
    (hloop : r'.Pursues a p.loop) (hcompanion : r'.Pursues b p.companion) :
    Attains work first a b p r' := by
  obtain ⟨ts, hworld⟩ := hworld
  rw [← h.state] at hworld
  exact ⟨[.elsewhere (·.withTasks ts)], List.forall_mem_singleton.mpr (.books ts),
    hworld.symm, hloop, hcompanion⟩

/-- The books are written from outside, between two turns. -/
theorem between (h : p.Mirrors a b r) (hactive : r.active = none) {ts : Tasks Job}
    (hclerical : r.world.tasks.Clerical none ts) :
    Attains work first a b p { r with world := r.world.withTasks ts } := by
  obtain ⟨world, active, waiting⟩ := r
  cases hactive
  exact h.books ⟨ts, rfl⟩ (h.loop.between hclerical) (h.companion.between hclerical)

/-- The current task goes on to its next wait: that is a stretch of one of the loops, or happens
elsewhere, and then the books are written. -/
theorem carryOn (h : p.Mirrors a b r) (hsound : D.Sound r) (hreaches : Run.Reaches work first r)
    (hne : a.task ≠ b.task) (hloop : work a.job = a.job.continuedBy a.round)
    (hcompanion : work b.job = b.job.continuedBy b.round) (hactive : r.active = some fiber) :
    Attains work first a b p (r.carryOn work fiber) := by
  obtain ⟨ts, hworld⟩ := Run.world_carryOn work fiber r
  have hbrings {o : Occasion World} (ho : Run.Brings work first a b o) :
      ∀ o' ∈ [o, .elsewhere (·.withTasks ts)], Run.Brings work first a b o' :=
    List.forall_mem_cons.mpr ⟨ho, List.forall_mem_singleton.mpr (.books ts)⟩
  by_cases ha : r.world.tasks.current = a.task
  · -- it is the turn of the loop, and the companion stands where it stood
    obtain ⟨next, answer, hnext, rfl⟩ := h.loop.active fiber hactive ha
    have hself := h.loop.carryOn_self hsound hloop hactive ha
    have hother : (r.carryOn work _).Pursues b p.companion :=
      h.companion.carryOn_other hsound hactive fun hb => hne (ha.symm.trans hb)
    rw [Job.advance_continuedBy, ← h.state] at hworld
    rw [← h.state] at hself
    refine ⟨_, hbrings (.loop answer), ?_⟩
    rw [List.foldl_cons, Tandem.after, hnext]
    exact ⟨hworld.symm, hself, hother⟩
  · by_cases hb : r.world.tasks.current = b.task
    · -- it is the turn of the companion
      obtain ⟨next, answer, hnext, rfl⟩ := h.companion.active fiber hactive hb
      have hself := h.companion.carryOn_self hsound hcompanion hactive hb
      have hother : (r.carryOn work _).Pursues a p.loop :=
        h.loop.carryOn_other hsound hactive ha
      rw [Job.advance_continuedBy, ← h.state] at hworld
      rw [← h.state] at hself
      refine ⟨_, hbrings (.companion answer), ?_⟩
      rw [List.foldl_cons, Tandem.after, hnext]
      exact ⟨hworld.symm, hother, hself⟩
    · -- it is the turn of another task, and neither of the two has moved
      rw [← h.state] at hworld
      exact ⟨_, hbrings (.other hreaches hactive ha hb), hworld.symm,
        h.loop.carryOn_other hsound hactive ha, h.companion.carryOn_other hsound hactive hb⟩

/-- **One move.**  It is one occasion or two. -/
theorem move (h : p.Mirrors a b r) (hsound : D.Sound r) (hreaches : Run.Reaches work first r)
    (hne : a.task ≠ b.task) (hloop : work a.job = a.job.continuedBy a.round)
    (hcompanion : work b.job = b.job.continuedBy b.round) (hmove : r.move work = some r') :
    Attains work first a b p r' := by
  cases hactive : r.active with
  | some fiber =>
    rw [Run.move, hactive] at hmove
    cases hmove
    exact h.carryOn hsound hreaches hne hloop hcompanion hactive
  | none =>
    have hworld : ∃ ts, r'.world = r.world.withTasks ts := by
      refine (Run.world_move hmove).resolve_left ?_
      rintro ⟨fiber, hfiber, -⟩
      rw [hactive] at hfiber
      cases hfiber
    exact h.books hworld (h.loop.move hsound hloop hactive hmove)
      (h.companion.move hsound hcompanion hactive hmove)

end Mirrors

end Tandem

/-- **The occasions of a run.**  Whatever a disciplined run comes to, two of its tasks come to in
tandem, on occasions that the run brings. -/
theorem Run.Reaches.occasions {D : Discipline} {work : Work} {first r : Run} {a b : Strand}
    (h : Run.Reaches work first r) (hwork : D.Binds work) (hfirst : D.Sound first)
    (hne : a.task ≠ b.task) (hloop : work a.job = a.job.continuedBy a.round)
    (hcompanion : work b.job = b.job.continuedBy b.round)
    (ha : first.Pursues a (some fun _ => a.round)) (hb : first.Pursues b (some fun _ => b.round)) :
    ∃ occasions : List (Occasion World), (∀ o ∈ occasions, Run.Brings work first a b o) ∧
      (Tandem.run a.round b.round first.world occasions).Mirrors a b r := by
  induction h with
  | start => exact ⟨[], List.forall_mem_nil _, rfl, ha, hb⟩
  | move hreaches hmove ih =>
    refine Tandem.Attains.trans ih fun p hp => ?_
    exact hp.move (hreaches.sound hwork hfirst) hreaches hne hloop hcompanion hmove
  | cancel t _ hactive ih =>
    exact Tandem.Attains.trans ih fun p hp => hp.between hactive (.cancel none _ t)
  | beginRound _ hactive ih =>
    exact Tandem.Attains.trans ih fun p hp => hp.between hactive (Tasks.clerical_beginRound _)

end ResumableWatch
