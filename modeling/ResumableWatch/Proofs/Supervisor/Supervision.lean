import ResumableWatch.Proofs.Tasks.Discipline
import ResumableWatch.Proofs.World.Change
/-!
# Supervision

A supervisor is started and stopped by other tasks than its own two, and there may be many of them.
As long as no start comes while a stop is under way (`Supervised.InTurn`), there is at most one poll
loop at work, and no start comes before the loop that was started before has ended.

What a poll loop has to see to is a parameter here, a `Duty`: what holds between any two turns, what
holds while no loop is at work, and what holds when a watch request is issued.  `Duty.discipline`
makes of it what each task has to keep to, and may count on, for all of this to hold in a whole run.
-/

namespace ResumableWatch

/-- A supervisor, the informer that it polls with the cursor of that one, and those around it. -/
structure Supervised where
  supervisor : SupervisorId
  informer : InformerId
  cursor : CursorId
  /-- What the tasks do that are none of the loops of the supervisor. -/
  Other : Job → Prop
  apart : ∀ {job}, Other job → job ≠ .pollLoop supervisor ∧ job ≠ .statusLoop supervisor
  /-- The versions that somebody else than the loop may give to the cursor. -/
  Foreign : String → Prop

namespace Supervised

variable (S : Supervised)

/-- No start has come while a stop was under way. -/
def InTurn (w : World) : Prop := (w.supervisor S.supervisor).overlapped = false

/-- The task is the one that polls. -/
def Polls (t : TaskId) (w : World) : Prop := (w.supervisor S.supervisor).tasks.head? = some t

/-- No poll loop is at work. -/
def Idle (w : World) : Prop := ∀ t, S.Polls t w → w.tasks.Ended t

/-- What others leave as it is, and what they may do of all that the loop works on. -/
structure Same (w w' : World) : Prop where
  connections : w'.connections = w.connections
  streams : w'.streams = w.streams
  informers : w.informers.length ≤ w'.informers.length
  informer : (w.informer S.informer).Alike (w'.informer S.informer)
  cursors : w.cursors.length ≤ w'.cursors.length
  version : (w'.cursor S.cursor).version = (w.cursor S.cursor).version ∨
    S.Foreign (w'.cursor S.cursor).version
  supervisors : w.supervisors.length ≤ w'.supervisors.length
  served : (w'.supervisor S.supervisor).informer = (w.supervisor S.supervisor).informer
  handed : (w'.supervisor S.supervisor).handed = (w.supervisor S.supervisor).handed

/-- The supervisor is not stopped during a wait unless a cancellation strikes it; only a wait for
another task may come to anything then. -/
def Heeded (w : World) (what : Wait) (answer : Wakeup) (w' : World) : Prop :=
  (∀ u, what ≠ .join u) → (w.supervisor S.supervisor).running = true →
    (w'.supervisor S.supervisor).running = true ∨ answer = .error .cancelled

variable {S} {t : TaskId} {w w' w'' : World}

/-- The one that polls is the first of the tasks on record. -/
theorem Polls.mem (h : S.Polls t w) : t ∈ (w.supervisor S.supervisor).tasks :=
  List.mem_of_head? h

namespace Same

/-- The books of the tasks are no part of what the loop works on. -/
theorem withTasks (w : World) (ts : Tasks Job) : S.Same w (w.withTasks ts) :=
  ⟨rfl, rfl, Nat.le_refl _, ⟨rfl, rfl, rfl⟩, Nat.le_refl _, .inl rfl, Nat.le_refl _, rfl, rfl⟩

theorem refl (w : World) : S.Same w w := withTasks w w.tasks

theorem trans (h₁ : S.Same w w') (h₂ : S.Same w' w'') : S.Same w w'' where
  connections := h₂.connections.trans h₁.connections
  streams := h₂.streams.trans h₁.streams
  informers := Nat.le_trans h₁.informers h₂.informers
  informer := ⟨h₂.informer.cursor.trans h₁.informer.cursor,
    h₂.informer.transport.trans h₁.informer.transport,
    h₂.informer.observed.trans h₁.informer.observed⟩
  cursors := Nat.le_trans h₁.cursors h₂.cursors
  version := by
    rcases h₂.version with h | h
    · rw [h]
      exact h₁.version
    · exact .inr h
  supervisors := Nat.le_trans h₁.supervisors h₂.supervisors
  served := h₂.served.trans h₁.served
  handed := h₂.handed.trans h₁.handed

end Same

end Supervised

open Supervised

/-- What the poll loop of a supervisor has to see to. -/
structure Duty (S : Supervised) where
  /-- What holds between any two turns. -/
  Tended : World → Prop
  /-- What holds while no poll loop is at work. -/
  Settled : World → Prop
  /-- What holds when a watch request is issued. -/
  Asks : World → Prop
  tended : ∀ {w w'}, S.Same w w' → Tended w → Tended w'
  settled : ∀ {w w'}, S.Same w w' → Settled w → Settled w'

namespace Duty

variable {S : Supervised} (d : Duty S)

/-- What holds between two turns, as long as starts and stops come in turn. -/
structure Holds (w : World) : Prop where
  known : ∀ t ∈ (w.supervisor S.supervisor).tasks, t < w.tasks.table.length
  tended : d.Tended w
  settled : S.Idle w → d.Settled w
  /-- A supervisor that runs no more is being stopped, or has no loop at work. -/
  free : (w.supervisor S.supervisor).stoppers = [] →
    (w.supervisor S.supervisor).running = true ∨ S.Idle w

/-- What a task may count on that does not act. -/
structure Spares (S : Supervised) (t : TaskId) (w w' : World) : Prop where
  inTurn : S.InTurn w' → S.InTurn w
  tasks : w.tasks.Spares t w'.tasks
  length : w.tasks.table.length ≤ w'.tasks.table.length
  count : (w'.supervisor S.supervisor).stoppers.count t
    = (w.supervisor S.supervisor).stoppers.count t
  /-- It is not made a task of the supervisor. -/
  watched : S.InTurn w' → t < w.tasks.table.length →
    t ∈ (w'.supervisor S.supervisor).tasks → t ∈ (w.supervisor S.supervisor).tasks
  polls : S.InTurn w' → t < w.tasks.table.length → S.Polls t w' → S.Polls t w
  /-- A poll loop at work goes on polling, and finds all as it was. -/
  polling : S.InTurn w' → ¬ w'.tasks.Ended t → S.Polls t w → S.Polls t w' ∧ S.Same w w'
  /-- It is not stopped without being struck, unless it waits for another task. -/
  struck : S.InTurn w' → ¬ w'.tasks.Ended t → S.Polls t w →
    (∀ u, (w.tasks.task t).status ≠ .waiting (.join u)) →
    (w.supervisor S.supervisor).running = true →
    (w'.supervisor S.supervisor).running = true ∨ w'.tasks.Stricken t
  /-- While it stops the supervisor, no tasks come up that it does not know. -/
  stopping : S.InTurn w' → t ∈ (w.supervisor S.supervisor).stoppers →
    (w'.supervisor S.supervisor).tasks = (w.supervisor S.supervisor).tasks ∨
      (w'.supervisor S.supervisor).tasks = []

/-- What a task may take on.  There is one that polls. -/
inductive Plays (t : TaskId) (w : World) : Job → Prop
  | poll : (S.InTurn w → S.Polls t w ∧ d.Settled w) → Plays t w (.pollLoop S.supervisor)
  | report : (S.InTurn w → ¬ S.Polls t w) → Plays t w (.statusLoop S.supervisor)
  | other {job : Job} : S.Other job →
    (S.InTurn w → t ∉ (w.supervisor S.supervisor).tasks) → Plays t w job

/-- What holds of each change. -/
structure Change (w w' : World) : Prop where
  asks : S.InTurn w' → World.asked? w w' ≠ none → d.Asks w
  /-- The supervisor gives up its tasks only when they have ended. -/
  gives : S.InTurn w' → (w.supervisor S.supervisor).tasks ≠ [] →
    (w'.supervisor S.supervisor).tasks = [] →
      ∀ t ∈ (w.supervisor S.supervisor).tasks, w'.tasks.Ended t
  /-- When a stop comes to its end, no poll loop is at work. -/
  ends : S.InTurn w' →
    (w'.supervisor S.supervisor).stoppers.length < (w.supervisor S.supervisor).stoppers.length →
      S.Idle w' ∧ d.Settled w'

variable {d} {t : TaskId} {job : Job} {w w' w'' : World} {ts : Tasks Job}

namespace Spares

theorem refl (t : TaskId) (w : World) : Spares S t w w :=
  ⟨id, .refl t _, Nat.le_refl _, rfl, fun _ _ h => h, fun _ _ h => h, fun _ _ h => ⟨h, .refl w⟩,
    fun _ _ _ _ h => .inl h, fun _ _ => .inl rfl⟩

theorem trans (h₁ : Spares S t w w') (h₂ : Spares S t w' w'') : Spares S t w w'' where
  inTurn h := h₁.inTurn (h₂.inTurn h)
  tasks := h₁.tasks.trans h₂.tasks
  length := Nat.le_trans h₁.length h₂.length
  count := h₂.count.trans h₁.count
  watched h hlt hmem :=
    h₁.watched (h₂.inTurn h) hlt (h₂.watched h (Nat.lt_of_lt_of_le hlt h₁.length) hmem)
  polls h hlt hpolls :=
    h₁.polls (h₂.inTurn h) hlt (h₂.polls h (Nat.lt_of_lt_of_le hlt h₁.length) hpolls)
  polling h hunended hpolls := by
    -- whoever has not ended at last had not ended in between
    have hbefore : ¬ w'.tasks.Ended t := fun hended => hunended (h₂.tasks.ended t hended)
    obtain ⟨hpolls', hsame⟩ := h₁.polling (h₂.inTurn h) hbefore hpolls
    obtain ⟨hpolls'', hsame'⟩ := h₂.polling h hunended hpolls'
    exact ⟨hpolls'', hsame.trans hsame'⟩
  struck h hunended hpolls hjoin hrunning := by
    have hbefore : ¬ w'.tasks.Ended t := fun hended => hunended (h₂.tasks.ended t hended)
    have hpolls' := (h₁.polling (h₂.inTurn h) hbefore hpolls).1
    rcases h₁.struck (h₂.inTurn h) hbefore hpolls hjoin hrunning with hrunning' | hstricken
    · exact h₂.struck h hunended hpolls' (fun u hu => hjoin u (h₁.tasks.joins u hu)) hrunning'
    · exact .inr (h₂.tasks.stricken hstricken)
  stopping h hmem := by
    -- the task is noted as stopping in between as well, since the others do not change that
    have hmem' : t ∈ (w'.supervisor S.supervisor).stoppers := by
      rw [← List.count_pos_iff, h₁.count]
      exact List.count_pos_iff.mpr hmem
    rcases h₂.stopping h hmem' with h' | h'
    · rw [h']
      exact h₁.stopping (h₂.inTurn h) hmem
    · exact .inr h'

theorem withTasks (htasks : w.tasks.Spares t ts)
    (hlength : ts.table.length = w.tasks.table.length) : Spares S t w (w.withTasks ts) where
  inTurn := id
  tasks := htasks
  length := Nat.le_of_eq hlength.symm
  count := rfl
  watched _ _ h := h
  polls _ _ h := h
  polling _ _ h := ⟨h, .withTasks w ts⟩
  struck _ _ _ _ h := .inl h
  stopping _ _ := .inl rfl

/-- The supervisor keeps its tasks. -/
theorem of_tasks (htasks : (w'.supervisor S.supervisor).tasks = (w.supervisor S.supervisor).tasks)
    (hturn : S.InTurn w' → S.InTurn w) (hspares : w.tasks.Spares t w'.tasks)
    (hlength : w.tasks.table.length ≤ w'.tasks.table.length) (hsame : S.Same w w')
    (hcount : (w'.supervisor S.supervisor).stoppers.count t
      = (w.supervisor S.supervisor).stoppers.count t)
    (hstruck : S.InTurn w' → ¬ w'.tasks.Ended t → S.Polls t w →
      (∀ u, (w.tasks.task t).status ≠ .waiting (.join u)) →
      (w.supervisor S.supervisor).running = true →
      (w'.supervisor S.supervisor).running = true ∨ w'.tasks.Stricken t) : Spares S t w w' where
  inTurn := hturn
  tasks := hspares
  length := hlength
  count := hcount
  watched _ _ h := by
    rw [← htasks]
    exact h
  polls _ _ h := by
    rw [Polls, ← htasks]
    exact h
  polling _ _ h := by
    refine ⟨?_, hsame⟩
    rw [Polls, htasks]
    exact h
  struck := hstruck
  stopping _ _ := .inl htasks

end Spares

/-- The books are changed, and those who have ended settle what was left to them. -/
theorem Holds.withTasks (h : d.Holds w) (hlength : ts.table.length = w.tasks.table.length)
    (hended : ∀ u, w.tasks.Ended u → ts.Ended u)
    (hidle : S.Idle (w.withTasks ts) → S.Idle w ∨ d.Settled w) : d.Holds (w.withTasks ts) where
  known u hu := by
    rw [World.withTasks, hlength]
    exact h.known u hu
  tended := d.tended (.withTasks w ts) h.tended
  settled hts := by
    refine d.settled (.withTasks w ts) ?_
    rcases hidle hts with hidle | hsettled
    · exact h.settled hidle
    · exact hsettled
  free hnone := (h.free hnone).imp_right fun hidle u hu => hended u (hidle u hu)

/-- A task that is to poll finds all settled before its first step. -/
theorem Plays.rests (h : d.Plays t w job) (hturn : S.InTurn w) (hpolls : S.Polls t w) :
    d.Settled w := by
  cases h with
  | poll h => exact (h hturn).2
  | report h => exact absurd hpolls (h hturn)
  | other _ h => exact absurd hpolls.mem (h hturn)

/-- A task that does something else is none of the tasks of the supervisor. -/
theorem Plays.not_watched (h : d.Plays t w job) (hother : S.Other job) (hturn : S.InTurn w) :
    t ∉ (w.supervisor S.supervisor).tasks := by
  cases h with
  | poll _ => exact absurd rfl (S.apart hother).1
  | report _ => exact absurd rfl (S.apart hother).2
  | other _ h => exact h hturn

/-- A task that has not ended keeps what it may take on, whatever the others do. -/
theorem Plays.spared (h : d.Plays t w job) (hspares : Spares S t w w')
    (hlt : t < w.tasks.table.length) (hunended : ¬ w'.tasks.Ended t) : d.Plays t w' job := by
  cases h with
  | poll h =>
    refine .poll fun hturn => ?_
    obtain ⟨hpolls, hsettled⟩ := h (hspares.inTurn hturn)
    obtain ⟨hpolls', hsame⟩ := hspares.polling hturn hunended hpolls
    exact ⟨hpolls', d.settled hsame hsettled⟩
  | report h =>
    refine .report fun hturn hpolls => h (hspares.inTurn hturn) ?_
    exact hspares.polls hturn hlt hpolls
  | other hother h =>
    refine .other hother fun hturn hmem => h (hspares.inTurn hturn) ?_
    exact hspares.watched hturn hlt hmem

variable (d)

/-- What the tasks keep to, so that the duty is seen to. -/
def discipline : Discipline where
  Inv w := S.supervisor < w.supervisors.length ∧ (S.InTurn w → d.Holds w)
  Spares := Spares S
  Plays t job w := d.Plays t w job
  Rests t _ w := S.InTurn w → S.Polls t w → d.Settled w
  change := d.Change
  refl := Spares.refl
  trans := Spares.trans
  books hinv hlength hcame := by
    have hended (u : TaskId) := Tasks.ended_congr (hcame u)
    refine ⟨hinv.1, fun hturn => (hinv.2 hturn).withTasks hlength (fun u => (hended u).mpr) ?_⟩
    exact fun hidle => .inl fun u hu => (hended u).mp (hidle u hu)
  ends {t outcome w ts} hinv hrests hlength hcame := by
    refine ⟨hinv.1, fun hturn => (hinv.2 hturn).withTasks hlength (fun u hu => ?_) fun hidle => ?_⟩
    · obtain ⟨r, hr⟩ := Tasks.ended_iff.mp hu
      exact ((hcame u r).mpr (.inl hr)).ended
    · -- the loop that ends has settled all, and the end of another task changes nothing
      by_cases hpolls : S.Polls t w
      · exact .inr (hrests hturn hpolls)
      · refine .inl fun u hu => ?_
        obtain ⟨r, hr⟩ := Tasks.ended_iff.mp (hidle u hu)
        rcases (hcame u r).mp hr with hold | ⟨rfl, -⟩
        · exact hold.ended
        · exact absurd hu hpolls
  spared htasks hlength _ := Spares.withTasks htasks hlength
  spared_end _ _ _ htasks hlength _ := Spares.withTasks htasks hlength
  plays h := h.spared
  rests _ h := h.rests

/-! ### After a wait -/

variable {d} in
/-- What a task may take on does not show in the books. -/
theorem Plays.withTasks (h : d.Plays t w job) (ts : Tasks Job) :
    d.Plays t (w.withTasks ts) job := by
  cases h with
  | poll h =>
    refine .poll fun hturn => ?_
    obtain ⟨hpolls, hsettled⟩ := h hturn
    exact ⟨hpolls, d.settled (.withTasks w ts) hsettled⟩
  | report h => exact .report h
  | other hother h => exact .other hother h

/-- What a task may count on that has been answered. -/
structure Answered (t : TaskId) (w : World) (what : Wait) (answer : Wakeup) (w' : World) :
    Prop where
  inTurn : S.InTurn w' → S.InTurn w
  length : w.tasks.table.length ≤ w'.tasks.table.length
  ended : ∀ u, w.tasks.Ended u → w'.tasks.Ended u
  joined : ∀ u, what = .join u → u ≠ t → w'.tasks.Ended u
  plays : ∀ job, d.Plays t w job → d.Plays t w' job
  polling : S.InTurn w' → S.Polls t w → S.Polls t w' ∧ S.Same w w' ∧ S.Heeded w what answer w'
  stops : t ∈ (w.supervisor S.supervisor).stoppers → t ∈ (w'.supervisor S.supervisor).stoppers
  stopping : S.InTurn w' → t ∈ (w.supervisor S.supervisor).stoppers →
    (w'.supervisor S.supervisor).tasks = (w.supervisor S.supervisor).tasks ∨
      (w'.supervisor S.supervisor).tasks = []

variable {d}

/-- **After a wait** a task finds again what it left, as far as it may count on it: what the others
did spared it, and going on adds nothing but its own step. -/
theorem answered {what : Wait} {answer : Wakeup} (h : d.discipline.Resumed t w what answer w')
    (ho : w.tasks.Orderly (some t)) : d.Answered t w what answer w' := by
  obtain ⟨found, hspares, heq, hlength, hcame, hstricken, hjoined⟩ := h.meanwhile
  have hended (u : TaskId) := Tasks.ended_congr (hcame u)
  replace hspares : Spares S t (w.withTasks (w.tasks.suspend t what)) found := hspares
  obtain ⟨-, hclerical, -, -, -⟩ := ho.suspend what
  -- the task goes on, so it did not end meanwhile
  have hunended : ¬ found.tasks.Ended t := fun hended' =>
    h.orderly.not_parked ((hended t).mpr hended').parked
  -- suspending adds no task and ends none
  have hlt : t < (w.tasks.suspend t what).table.length := by
    rw [hclerical.length]
    exact ho.lt_of_active
  refine ⟨fun hturn => ?inTurn, ?length, fun u hu => ?ended, fun u hu hne => ?joined,
    fun job hplays => ?plays, fun hturn hpolls => ?polling, fun hmem => ?stops,
    fun hturn hmem => ?stopping⟩
  case inTurn =>
    rw [heq] at hturn
    exact hspares.inTurn hturn
  case length =>
    rw [hlength, ← hclerical.length]
    exact hspares.length
  case ended => exact (hended u).mpr (hspares.tasks.ended u ((hclerical.ended u).mpr hu))
  case joined => exact (hended u).mpr (hjoined u hu hne)
  case plays =>
    -- through the three stretches: it is suspended, the others take turns, it goes on
    rw [heq]
    exact ((hplays.withTasks _).spared hspares hlt hunended).withTasks _
  case polling =>
    -- the supervisor stopped running only with a strike for the loop, which is then the answer
    rw [heq] at hturn
    obtain ⟨hpolls', hsame⟩ := hspares.polling hturn hunended hpolls
    rw [heq]
    refine ⟨hpolls', ((Same.withTasks w _).trans hsame).trans (.withTasks found _), ?_⟩
    intro hjoin hrunning
    refine (hspares.struck hturn hunended hpolls (fun u hu => ?_) hrunning).imp_right hstricken
    exact hjoin u (h.alone u hu)
  case stops =>
    -- the others do not change how often it is noted as stopping
    rw [heq]
    refine List.count_pos_iff.mp ?_
    show 0 < (found.supervisor S.supervisor).stoppers.count t
    rw [hspares.count]
    exact List.count_pos_iff.mpr hmem
  case stopping =>
    rw [heq] at hturn ⊢
    exact hspares.stopping hturn hmem

end Duty

end ResumableWatch
