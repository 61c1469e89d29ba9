import Mathlib.Tactic.Common
import ResumableWatch.Tasks
/-!
# Orderly records

What the records of the tasks keep to, whoever is woken, cancelled, started or finished.

* A task goes on in one way only: it is active, or one thing is due that lets it go on; and one that
  waits or has finished does not go on (`Orderly.once`, `Orderly.parked`).
* The timers that ring are those of sleeping tasks (`Orderly.rings`).
* Those who are noted as waiting for a task do so, and are noted once (`Orderly.waiters`,
  `Orderly.nodup`).

What the others do spares a task that does not act (`Spares`): a cancellation that is to strike it
stays due, a finished task stays finished, and it is woken from a wait for another task only when
that one has finished.
-/

namespace ResumableWatch

variable {J : Type}

/-- Whether this lets a task go on. -/
def Due.lets (t : TaskId) : Due J → Bool
  | .start u _ => u == t
  | .resume u _ => u == t
  | .ring _ => false

namespace Tasks

variable {ts ts' ts'' : Tasks J} {t u : TaskId} {active : Option TaskId} {new : Task}

/-! ### Reading the records -/

/-- All that is due, now or later. -/
def dues (ts : Tasks J) : List (Due J) := ts.round ++ ts.queue ++ ts.timers.map (·.due)

/-- In how many ways a task is to go on. -/
def ways (t : TaskId) (ts : Tasks J) : Nat := ts.dues.countP (Due.lets t)

/-- The task exists and has finished. -/
def Ended (t : TaskId) (ts : Tasks J) : Prop := t < ts.table.length ∧ ts.isFinished t = true

/-- The task exists and has come to this. -/
def CameTo (t : TaskId) (outcome : Wakeup) (ts : Tasks J) : Prop :=
  t < ts.table.length ∧ ts.outcome? t = some outcome

/-- The task waits or has finished. -/
def Parked (t : TaskId) (ts : Tasks J) : Prop :=
  (∃ what, (ts.task t).status = .waiting what) ∨ ∃ r, (ts.task t).status = .finished r

/-- A cancellation is to strike the task as soon as it goes on. -/
def Stricken (t : TaskId) (ts : Tasks J) : Prop :=
  (ts.task t).cancelling = true ∨ .resume t (.error .cancelled) ∈ ts.dues

/-- The task still waits, or its wait is over; one for another task is over only when that one has
finished. -/
def Waits (t : TaskId) (what : Wait) (ts : Tasks J) : Prop :=
  (ts.task t).status = .waiting what ∨ ∀ u, what = .join u → u ≠ t → ts.Ended u

/-- A wait may come to this: it is struck by a cancellation, or over; one for another task comes to
what that one has come to. -/
def Grants (t : TaskId) (what : Wait) (answer : Wakeup) (ts : Tasks J) : Prop :=
  answer = .error .cancelled ∨ ((∀ u, what ≠ .join u) ∧ answer = .ok ()) ∨
    ∃ u, what = .join u ∧ (u = t ∨ ts.CameTo u answer)

/-- If the task waits it waits for this, and what it is to be answered with is granted. -/
def Expects (t : TaskId) (what : Wait) (ts : Tasks J) : Prop :=
  (∀ other, (ts.task t).status = .waiting other → other = what) ∧
    ∀ answer, .resume t answer ∈ ts.dues → ts.Grants t what answer

/-- The task is in a wait, or has an answer to it due. -/
def Suspended (t : TaskId) (ts : Tasks J) : Prop :=
  (∃ what, (ts.task t).status = .waiting what) ∨ ∃ answer, .resume t answer ∈ ts.dues

theorem isFinished_iff : ts.isFinished t = true ↔ ∃ r, (ts.task t).status = .finished r := by
  rw [isFinished, outcome?]
  cases (ts.task t).status <;> simp

theorem outcome?_eq_some_iff {r : Wakeup} :
    ts.outcome? t = some r ↔ (ts.task t).status = .finished r := by
  rw [outcome?]
  cases (ts.task t).status <;> simp

/-- A task has ended when it has come to something. -/
theorem ended_iff : ts.Ended t ↔ ∃ r, ts.CameTo t r := by
  rw [Ended, isFinished, Option.isSome_iff_exists, ← exists_and_left]
  exact Iff.rfl

/-- Where the same tasks came to the same, the same tasks have ended. -/
theorem ended_congr (h : ∀ r, ts'.CameTo u r ↔ ts.CameTo u r) : ts'.Ended u ↔ ts.Ended u := by
  rw [ended_iff, ended_iff]
  exact exists_congr h

theorem CameTo.ended {r : Wakeup} (h : ts.CameTo t r) : ts.Ended t := ended_iff.mpr ⟨r, h⟩

/-- A number behind the table reads as a task that has finished well, so `Ended` and `CameTo` ask
for the task to exist. -/
theorem task_of_le (h : ts.table.length ≤ t) :
    ts.task t = { status := .finished (.ok ()) } := by
  rw [task, List.getElem?_eq_none h]
  rfl

theorem parked_of_le (h : ts.table.length ≤ t) : ts.Parked t :=
  .inr ⟨.ok (), by rw [task_of_le h]⟩

/-- Whoever goes on is in the table. -/
theorem lt_of_not_parked (h : ¬ ts.Parked t) : t < ts.table.length :=
  Nat.lt_of_not_le fun hle => h (parked_of_le hle)

theorem lt_of_waiting {what : Wait} (h : (ts.task t).status = .waiting what) :
    t < ts.table.length := by
  by_contra hle
  rw [task_of_le (Nat.le_of_not_lt hle)] at h
  cases h

theorem Ended.parked (h : ts.Ended t) : ts.Parked t := .inr (isFinished_iff.mp h.2)

/-- Reading a record after a change of one. -/
theorem task_change (ts : Tasks J) (t u : TaskId) (f : Task → Task) :
    (ts.change t f).task u = if t = u ∧ u < ts.table.length then f (ts.task u) else ts.task u := by
  rw [task, task, change, List.getElem?_modify]
  by_cases hu : u < ts.table.length
  · rw [List.getElem?_eq_getElem hu]
    by_cases h : t = u
    · simp [h, hu]
    · simp [h]
  · rw [List.getElem?_eq_none (Nat.le_of_not_lt hu)]
    simp [hu]

theorem task_change_self (h : t < ts.table.length) (f : Task → Task) :
    (ts.change t f).task t = f (ts.task t) := by
  rw [task_change, if_pos ⟨rfl, h⟩]

theorem task_change_of_ne (h : u ≠ t) (f : Task → Task) :
    (ts.change t f).task u = ts.task u := by
  rw [task_change, if_neg fun hu => h hu.1.symm]

/-- Whoever waits is none that is at work, and still waits when the record of that one changes. -/
theorem waiting_change (ht : ¬ ts.Parked t) {what : Wait} (hu : (ts.task u).status = .waiting what)
    (f : Task → Task) : ((ts.change t f).task u).status = .waiting what := by
  have hne : u ≠ t := by
    rintro rfl
    exact ht (.inl ⟨what, hu⟩)
  rw [task_change_of_ne hne]
  exact hu

@[simp] theorem length_change (ts : Tasks J) (t : TaskId) (f : Task → Task) :
    (ts.change t f).table.length = ts.table.length := List.length_modify ..

theorem task_of_table (h : ts'.table = ts.table) (t : TaskId) : ts'.task t = ts.task t := by
  rw [task, task, h]

/-- The records with one more task. -/
theorem task_append (h : ts'.table = ts.table ++ [new]) (u : TaskId) :
    ts'.task u = if u = ts.table.length then new else ts.task u := by
  rw [task, task, h]
  by_cases hu : u < ts.table.length
  · rw [List.getElem?_append_left hu, if_neg (Nat.ne_of_lt hu)]
  · rw [List.getElem?_append_right (Nat.le_of_not_lt hu),
      List.getElem?_eq_none (l := ts.table) (Nat.le_of_not_lt hu)]
    by_cases heq : u = ts.table.length
    · simp [heq]
    · have hpos : u - ts.table.length ≠ 0 :=
        Nat.sub_ne_zero_of_lt (Nat.lt_of_le_of_ne (Nat.le_of_not_lt hu) (Ne.symm heq))
      rw [if_neg heq, List.getElem?_singleton, if_neg hpos]

/-! ### What is due -/

/-- What is enqueued comes due behind the rest; where it stands does not matter here, so the things
due are compared as a multiset. -/
theorem dues_enqueue (ts : Tasks J) (d : Due J) : (ts.enqueue d).dues.Perm (d :: ts.dues) := by
  show (ts.round ++ (ts.queue ++ [d]) ++ _).Perm _
  rw [dues, ← List.append_assoc, List.append_assoc _ [d], List.singleton_append]
  exact List.perm_middle

theorem dues_drop (ts : Tasks J) (p : Due J → Bool) :
    (ts.drop p).dues = ts.dues.filter (!p ·) := by
  rw [dues, dues, drop, List.filter_append, List.filter_append, List.filter_map]
  rfl

/-- A timer is put in by its time, and none is lost. -/
theorem insertTimer_perm (timer : Timer J) (timers : List (Timer J)) :
    (insertTimer timer timers).Perm (timer :: timers) := by
  induction timers with
  | nil => exact List.Perm.refl _
  | cons other rest ih =>
    rw [insertTimer]
    split
    · exact List.Perm.refl _
    · exact (ih.cons other).trans (List.Perm.swap timer other rest)

/-- Nothing more is due, or one thing is. -/
def Adds (d : Due J) (ts ts' : Tasks J) : Prop :=
  ts'.dues = ts.dues ∨ ts'.dues.Perm (d :: ts.dues)

namespace Adds

variable {d e : Due J}

/-- What was due stays due. -/
theorem keeps (h : Adds d ts ts') (he : e ∈ ts.dues) : e ∈ ts'.dues := by
  rcases h with h | h
  · rw [h]
    exact he
  · exact h.mem_iff.mpr (List.mem_cons_of_mem d he)

/-- What is due was due before or is the new one. -/
theorem eq_or_mem (h : Adds d ts ts') (he : e ∈ ts'.dues) : e = d ∨ e ∈ ts.dues := by
  rcases h with h | h
  · rw [h] at he
    exact .inr he
  · exact List.mem_cons.mp (h.mem_iff.mp he)

/-- A task gets one more way to go on at most, and only if what is new lets it go on. -/
theorem ways_le (h : Adds d ts ts') (t : TaskId) :
    ts'.ways t ≤ ts.ways t + if d.lets t then 1 else 0 := by
  rcases h with h | h
  · rw [ways, h]
    exact Nat.le_add_right _ _
  · rw [ways, h.countP_eq, List.countP_cons]
    exact Nat.le_refl _

end Adds

theorem adds_enqueue (ts : Tasks J) (d : Due J) : Adds d ts (ts.enqueue d) :=
  .inr (dues_enqueue ts d)

/-- A timer that never comes is not started. -/
theorem adds_addTimer (ts : Tasks J) (seconds : Double) (d : Due J) :
    Adds d ts (ts.addTimer seconds d) := by
  rw [addTimer]
  split
  · exact .inl rfl
  · refine .inr ?_
    have hperm := (insertTimer_perm ⟨ts.now + seconds, d⟩ ts.timers).map (·.due)
    rw [List.map_cons] at hperm
    exact (hperm.append_left _).trans List.perm_middle

/-- A new round moves the timers that have come due and the queue into the round: the same things
are due. -/
theorem dues_beginRound (ts : Tasks J) : ts.beginRound.dues = ts.dues := by
  -- those that come due are taken from the front, so dropping as many leaves the others
  have hdrop : ts.timers.drop (ts.timers.takeWhile ts.isDue).length
      = ts.timers.dropWhile ts.isDue :=
    (congrArg _ List.takeWhile_append_dropWhile.symm).trans List.drop_left
  show ts.round ++ ts.queue ++ (ts.timers.takeWhile ts.isDue).map (·.due) ++ [] ++
    (ts.timers.drop (ts.timers.takeWhile ts.isDue).length).map (·.due) = _
  rw [hdrop, List.append_nil, List.append_assoc, ← List.map_append, List.takeWhile_append_dropWhile]
  rfl

theorem ways_enqueue (ts : Tasks J) (d : Due J) (t : TaskId) :
    (ts.enqueue d).ways t = ts.ways t + if d.lets t then 1 else 0 := by
  rw [ways, (dues_enqueue ts d).countP_eq, List.countP_cons, ways]

/-- Dropping the timer of a sleeper takes no task a way to go on: a timer that rings lets nobody go
on, it wakes a sleeper. -/
theorem ways_drop_ring (ts : Tasks J) (t u : TaskId) :
    (ts.drop (Due.isRingOf u)).ways t = ts.ways t := by
  rw [ways, dues_drop, List.countP_filter, ways]
  congr 1
  funext d
  cases d <;> simp [Due.lets, Due.isRingOf]

/-- Waking a task makes its answer due and drops its timer. -/
theorem mem_dues_wake {d : Due J} {answer : Wakeup} :
    d ∈ (ts.wake t answer).dues ↔
      d = .resume t answer ∨ (d ∈ ts.dues ∧ d.isRingOf t = false) := by
  show d ∈ ((ts.drop (Due.isRingOf t)).enqueue (.resume t answer)).dues ↔ _
  rw [(dues_enqueue _ _).mem_iff, List.mem_cons, dues_drop, List.mem_filter]
  simp

/-- The woken task gets one more way to go on, and nobody else does. -/
theorem ways_wake (ts : Tasks J) (t u : TaskId) (answer : Wakeup) :
    (ts.wake t answer).ways u = ts.ways u + if t == u then 1 else 0 := by
  show ((ts.drop (Due.isRingOf t)).enqueue (.resume t answer)).ways u = _
  rw [ways_enqueue, ways_drop_ring]
  rfl

/-- The woken task is ready, and the records of the others are as they were. -/
theorem task_wake (ts : Tasks J) (t u : TaskId) (answer : Wakeup) :
    (ts.wake t answer).task u =
      if t = u ∧ u < ts.table.length then { ts.task u with status := .ready } else ts.task u :=
  task_change _ t u _

@[simp] theorem length_wake (ts : Tasks J) (t : TaskId) (answer : Wakeup) :
    (ts.wake t answer).table.length = ts.table.length := length_change _ t _

/-! ### Order -/

/-- The records are in order; `active` is the task whose step it is, if it is the step of one. -/
structure Orderly (active : Option TaskId) (ts : Tasks J) : Prop where
  once : ∀ t, ts.ways t + (if active = some t then 1 else 0) ≤ 1
  parked : ∀ t, ts.Parked t → ts.ways t = 0 ∧ active ≠ some t
  rings : ∀ t, .ring t ∈ ts.dues → ∃ seconds, (ts.task t).status = .waiting (.sleep seconds)
  waiters : ∀ t u, u ∈ (ts.task t).waiters → (ts.task u).status = .waiting (.join t)
  nodup : ∀ t, (ts.task t).waiters.Nodup

namespace Orderly

/-- The records of no task at all. -/
theorem empty : Orderly none ({} : Tasks J) where
  once _ := Nat.zero_le 1
  parked _ _ := ⟨rfl, nofun⟩
  rings _ h := nomatch h
  waiters _ _ h := nomatch h
  nodup _ := List.nodup_nil

/-- The active task neither waits nor has finished. -/
theorem not_parked (h : Orderly (some t) ts) : ¬ ts.Parked t :=
  fun hparked => (h.parked t hparked).2 rfl

/-- The active task is in the table. -/
theorem lt_of_active (h : Orderly (some t) ts) : t < ts.table.length :=
  lt_of_not_parked h.not_parked

/-- What is due to an active task is not due to let it go on. -/
theorem ways_active (h : Orderly (some t) ts) : ts.ways t = 0 := by
  have honce := h.once t
  rw [if_pos rfl] at honce
  exact Nat.le_zero.mp (Nat.le_of_succ_le_succ honce)

/-- A step has ended, or been left: what held with an active task holds with none. -/
theorem idle (h : Orderly active ts) : Orderly none ts where
  once t := Nat.le_trans (Nat.le_add_right _ _) (h.once t)
  parked t ht := ⟨(h.parked t ht).1, nofun⟩
  rings := h.rings
  waiters := h.waiters
  nodup := h.nodup

/-- Nobody waits for himself in the books of the others who does not wait. -/
theorem not_waiter (h : Orderly active ts) (ht : ∀ v, (ts.task t).status ≠ .waiting (.join v))
    (u : TaskId) : t ∉ (ts.task u).waiters := fun hmem => ht u (h.waiters u t hmem)

/-- Less is due, and the tasks are as they were. -/
theorem of_fewer (h : Orderly active ts) (htable : ts'.table = ts.table)
    (hways : ∀ t, ts'.ways t ≤ ts.ways t) (hrings : ∀ t, .ring t ∈ ts'.dues → .ring t ∈ ts.dues) :
    Orderly active ts' where
  once t := Nat.le_trans (Nat.add_le_add_right (hways t) _) (h.once t)
  parked t ht := by
    -- nobody is parked that was not before
    have ht' : ts.Parked t := by
      rw [Parked, ← task_of_table htable]
      exact ht
    obtain ⟨hzero, hactive⟩ := h.parked t ht'
    exact ⟨Nat.le_zero.mp (hzero ▸ hways t), hactive⟩
  rings t ht := by
    rw [task_of_table htable]
    exact h.rings t (hrings t ht)
  waiters t u hu := by
    rw [task_of_table htable] at hu ⊢
    exact h.waiters t u hu
  nodup t := by
    rw [task_of_table htable]
    exact h.nodup t

/-- A note that is neither about where the task stands nor about who waits for it. -/
theorem note (h : Orderly active ts) {f : Task → Task} (hstatus : ∀ x, (f x).status = x.status)
    (hwaiters : ∀ x, (f x).waiters = x.waiters) : Orderly active (ts.change t f) := by
  -- neither of the two things that order is about is changed by the note
  have hsame (u : TaskId) : ((ts.change t f).task u).status = (ts.task u).status := by
    rw [task_change]
    split
    · exact hstatus _
    · rfl
  have hnoted (u : TaskId) : ((ts.change t f).task u).waiters = (ts.task u).waiters := by
    rw [task_change]
    split
    · exact hwaiters _
    · rfl
  refine ⟨h.once, fun u hu => h.parked u ?parked, fun u hu => ?rings, fun v u hu => ?waiters,
    fun v => ?nodup⟩
  case parked =>
    rw [Parked, hsame] at hu
    exact hu
  case rings =>
    rw [hsame]
    exact h.rings u hu
  case waiters =>
    rw [hnoted] at hu
    rw [hsame]
    exact h.waiters v u hu
  case nodup =>
    rw [hnoted]
    exact h.nodup v

/-- One more task, which may have something due that starts it. -/
theorem append (h : Orderly active ts) (htable : ts'.table = ts.table ++ [new])
    (hstatus : (∀ what, new.status ≠ .waiting what) ∧ ∀ r, new.status ≠ .finished r)
    (hwaiters : new.waiters = [])
    (hways : ∀ t, ts'.ways t ≤ ts.ways t + if ts.table.length == t then 1 else 0)
    (hrings : ∀ t, .ring t ∈ ts'.dues → .ring t ∈ ts.dues) : Orderly active ts' := by
  -- the number of the new task is that of no task yet, so nothing lets it go on but what starts it
  obtain ⟨hzero, hactive⟩ := h.parked _ (parked_of_le (Nat.le_refl ts.table.length))
  have hsame {t : TaskId} (ht : t ≠ ts.table.length) : ts'.ways t ≤ ts.ways t := by
    have hle := hways t
    rw [beq_false_of_ne (Ne.symm ht), if_neg Bool.false_ne_true] at hle
    exact hle
  -- nobody who waits, now or then, is the new task
  have hold {u : TaskId} {what : Wait} (hu : (ts.task u).status = .waiting what) :
      (ts'.task u).status = .waiting what := by
    rw [task_append htable, if_neg (Nat.ne_of_lt (lt_of_waiting hu))]
    exact hu
  refine ⟨fun t => ?once, fun t ht => ?parked, fun t ht => ?rings, fun v u hu => ?waiters,
    fun v => ?nodup⟩
  case once =>
    by_cases ht : t = ts.table.length
    · have hone := hways t
      rw [ht, hzero, beq_self_eq_true, if_pos rfl] at hone
      rw [ht, if_neg hactive]
      exact hone
    · exact Nat.le_trans (Nat.add_le_add_right (hsame ht) _) (h.once t)
  case parked =>
    -- the new task neither waits nor has finished, so whoever is parked is an old one
    have hne : t ≠ ts.table.length := by
      intro heq
      rw [Parked, task_append htable, if_pos heq] at ht
      rcases ht with ⟨what, ht⟩ | ⟨r, ht⟩
      · exact hstatus.1 what ht
      · exact hstatus.2 r ht
    rw [Parked, task_append htable, if_neg hne] at ht
    obtain ⟨hnone, hnot⟩ := h.parked t ht
    exact ⟨Nat.le_zero.mp (hnone ▸ hsame hne), hnot⟩
  case rings =>
    obtain ⟨seconds, hsleep⟩ := h.rings t (hrings t ht)
    exact ⟨seconds, hold hsleep⟩
  case waiters =>
    rw [task_append htable] at hu
    split at hu
    · rw [hwaiters] at hu
      cases hu
    · exact hold (h.waiters v u hu)
  case nodup =>
    rw [task_append htable]
    split
    · rw [hwaiters]
      exact List.nodup_nil
    · exact h.nodup v

/-- A task is woken that waits for no other one, or is not noted with that one any more. -/
theorem wake (h : Orderly active ts) {what : Wait} (ht : (ts.task t).status = .waiting what)
    (hfree : ∀ v, t ∉ (ts.task v).waiters) (answer : Wakeup) :
    Orderly active (ts.wake t answer) := by
  -- a waiting task is parked: nothing was due that lets it go on, and it is not the active one
  obtain ⟨hzero, hactive⟩ := h.parked t (.inl ⟨what, ht⟩)
  have hlt := lt_of_waiting ht
  have hother {v : TaskId} (hv : v ≠ t) : (ts.wake t answer).task v = ts.task v := by
    rw [task_wake, if_neg fun hvt => hv hvt.1.symm]
  have hwoken : (ts.wake t answer).task t = { ts.task t with status := .ready } := by
    rw [task_wake, if_pos ⟨rfl, hlt⟩]
  -- waking changes where one task stands, and no notes of who waits for whom
  have hnoted (v : TaskId) : ((ts.wake t answer).task v).waiters = (ts.task v).waiters := by
    by_cases hv : v = t
    · rw [hv, hwoken]
    · rw [hother hv]
  refine ⟨fun v => ?once, fun v hv => ?parked, fun v hv => ?rings, fun v u hu => ?waiters,
    fun v => ?nodup⟩
  case once =>
    -- the woken task had no way to go on and gets this one; the others have as many as before
    rw [ways_wake]
    by_cases hv : v = t
    · refine Nat.le_of_eq ?_
      rw [hv, hzero, if_neg hactive, beq_self_eq_true, if_pos rfl]
    · rw [beq_false_of_ne (Ne.symm hv), if_neg Bool.false_ne_true]
      exact h.once v
  case parked =>
    -- the woken task is ready, so whoever is parked is another, with nothing new due
    have hne : v ≠ t := by
      rintro rfl
      rw [Parked, hwoken] at hv
      rcases hv with ⟨_, hv⟩ | ⟨_, hv⟩
      · cases hv
      · cases hv
    rw [Parked, hother hne] at hv
    rw [ways_wake, beq_false_of_ne (Ne.symm hne), if_neg Bool.false_ne_true]
    exact h.parked v hv
  case rings =>
    -- its timer has been dropped, so every timer left is that of another sleeper
    rcases mem_dues_wake.mp hv with hv | ⟨hv, hring⟩
    · cases hv
    · have hne : v ≠ t := by
        rintro rfl
        simp [Due.isRingOf] at hring
      rw [hother hne]
      exact h.rings v hv
  case waiters =>
    -- whoever is noted as waiting still waits: the woken one is noted nowhere, by `hfree`
    rw [hnoted] at hu
    have hne : u ≠ t := by
      rintro rfl
      exact hfree v hu
    rw [hother hne]
    exact h.waiters v u hu
  case nodup =>
    rw [hnoted]
    exact h.nodup v

end Orderly

/-! ### Who is spared -/

/-- What one task may count on while it does not act. -/
structure Spares (t : TaskId) (ts ts' : Tasks J) : Prop where
  cameTo : ∀ u r, ts.CameTo u r → ts'.CameTo u r
  stricken : ts.Stricken t → ts'.Stricken t
  waits : ∀ what, ts.Waits t what → ts'.Waits t what
  suspended : ts.Suspended t → ts'.Suspended t
  /-- Nobody else makes it wait for a task. -/
  joins : ∀ u, (ts'.task t).status = .waiting (.join u) → (ts.task t).status = .waiting (.join u)
  expects : ∀ what, ts.Expects t what → ts'.Expects t what

/-- What was granted stays granted while tasks that came to something keep to it. -/
theorem Grants.mono {what : Wait} {answer : Wakeup} (h : ts.Grants t what answer)
    (hcame : ∀ u r, ts.CameTo u r → ts'.CameTo u r) : ts'.Grants t what answer := by
  refine h.imp_right fun h => h.imp_right ?_
  rintro ⟨u, hu, hself | hout⟩
  · exact ⟨u, hu, .inl hself⟩
  · exact ⟨u, hu, .inr (hcame u answer hout)⟩

/-- A wait for no other task comes to nothing worse than a cancellation. -/
theorem Grants.plain {what : Wait} {answer : Wakeup} (h : ts.Grants t what answer)
    (hjoin : ∀ u, what ≠ .join u) : answer = .ok () ∨ answer = .error .cancelled := by
  rcases h with hcancelled | ⟨-, hok⟩ | ⟨u, hu, -⟩
  · exact .inr hcancelled
  · exact .inl hok
  · exact absurd hu (hjoin u)

/-- One for another task comes to what that one has come to, or to a cancellation. -/
theorem Grants.told {what : Wait} {answer : Wakeup} (h : ts.Grants t what answer)
    (hu : what = .join u) (hne : u ≠ t) : answer = .error .cancelled ∨ ts.CameTo u answer := by
  rcases h with hcancelled | ⟨hjoin, -⟩ | ⟨v, hv, hout⟩
  · exact .inl hcancelled
  · exact absurd hu (hjoin u)
  · obtain rfl : u = v := Wait.join.inj (hu.symm.trans hv)
    exact .inr (hout.resolve_left hne)

namespace Spares

/-- No finished task is unfinished again. -/
theorem ended (h : Spares t ts ts') (u : TaskId) (hu : ts.Ended u) : ts'.Ended u := by
  obtain ⟨r, hr⟩ := ended_iff.mp hu
  exact (h.cameTo u r hr).ended

theorem refl (t : TaskId) (ts : Tasks J) : Spares t ts ts :=
  ⟨fun _ _ h => h, fun h => h, fun _ h => h, fun h => h, fun _ h => h, fun _ h => h⟩

theorem trans (h₁ : Spares t ts ts') (h₂ : Spares t ts' ts'') : Spares t ts ts'' where
  cameTo u r h := h₂.cameTo u r (h₁.cameTo u r h)
  stricken h := h₂.stricken (h₁.stricken h)
  waits what h := h₂.waits what (h₁.waits what h)
  suspended h := h₂.suspended (h₁.suspended h)
  joins u h := h₁.joins u (h₂.joins u h)
  expects what h := h₂.expects what (h₁.expects what h)

/-- A task is spared when its own record stays as it is, but for a cancellation that is noted, and
what lets it go on stays due. -/
theorem of_record (hcame : ∀ u r, ts.CameTo u r → ts'.CameTo u r)
    (hstatus : (ts'.task t).status = (ts.task t).status)
    (hcancelling : (ts.task t).cancelling = true → (ts'.task t).cancelling = true)
    (hresume : ∀ answer, .resume t answer ∈ ts'.dues ↔ .resume t answer ∈ ts.dues) :
    Spares t ts ts' where
  cameTo := hcame
  stricken h := by
    -- the mark of a cancellation, and its strike when it is due, are both still there
    rcases h with h | h
    · exact .inl (hcancelling h)
    · exact .inr ((hresume _).mpr h)
  waits what h := by
    rcases h with h | h
    · exact .inl (hstatus.trans h)
    · refine .inr fun u hu hne => ?_
      obtain ⟨r, hr⟩ := ended_iff.mp (h u hu hne)
      exact (hcame u r hr).ended
  suspended h := by
    rcases h with ⟨what, h⟩ | ⟨answer, h⟩
    · exact .inl ⟨what, hstatus.trans h⟩
    · exact .inr ⟨answer, (hresume answer).mpr h⟩
  joins u h := hstatus.symm.trans h
  expects what h := by
    refine ⟨fun other hother => h.1 other (hstatus.symm.trans hother), fun answer hmem => ?_⟩
    exact (h.2 answer ((hresume answer).mp hmem)).mono hcame

end Spares

/-- A change of a record finishes no task that it does not mark as finished. -/
theorem cameTo_change {f : Task → Task} {r : Wakeup} (u : TaskId)
    (hf : (f (ts.task t)).status = .finished r ↔ (ts.task t).status = .finished r) :
    (ts.change t f).CameTo u r ↔ ts.CameTo u r := by
  rw [CameTo, CameTo, length_change, outcome?_eq_some_iff, outcome?_eq_some_iff, task_change]
  split
  · rename_i hu
    rw [← hu.1, hf]
  · exact Iff.rfl

/-- Waking a task that waits ends none. -/
theorem cameTo_wake {what : Wait} (ht : (ts.task t).status = .waiting what) (answer r : Wakeup) :
    (ts.wake t answer).CameTo u r ↔ ts.CameTo u r := by
  rw [CameTo, CameTo, length_wake, outcome?_eq_some_iff, outcome?_eq_some_iff, task_wake]
  split
  · rename_i hu
    rw [← hu.1, ht]
    simp
  · exact Iff.rfl

/-- An answer is granted to a wait for a task if that one came to it, and to any other wait if it is
nothing worse than a cancellation. -/
theorem grants_of_answer {what : Wait} {answer : Wakeup}
    (hjoin : ∀ v, what = .join v → ts.CameTo v answer)
    (hanswer : (∀ v, what ≠ .join v) → answer = .ok () ∨ answer = .error .cancelled) :
    ts.Grants t what answer := by
  by_cases hwhat : ∃ v, what = .join v
  · obtain ⟨v, hv⟩ := hwhat
    exact .inr (.inr ⟨v, hv, .inr (hjoin v hv)⟩)
  · have hnone (v : TaskId) : what ≠ .join v := fun hv => hwhat ⟨v, hv⟩
    rcases hanswer hnone with hok | hcancelled
    · exact .inr (.inl ⟨hnone, hok⟩)
    · exact .inl hcancelled

/-- The task that is woken is spared: its wait is over, and it is to be answered with what that came
to. -/
theorem spares_woken {what : Wait} {answer : Wakeup} (ht : (ts.task t).status = .waiting what)
    (hjoin : ∀ v, what = .join v → ts.CameTo v answer)
    (hanswer : (∀ v, what ≠ .join v) → answer = .ok () ∨ answer = .error .cancelled) :
    Spares t ts (ts.wake t answer) := by
  -- nobody comes to anything else by being woken
  have hcame (v : TaskId) (r : Wakeup) (hv : ts.CameTo v r) : (ts.wake t answer).CameTo v r :=
    (cameTo_wake ht answer r).mpr hv
  have hwoken : (ts.wake t answer).task t = { ts.task t with status := .ready } := by
    rw [task_wake, if_pos ⟨rfl, lt_of_waiting ht⟩]
  refine ⟨hcame, fun h => ?stricken, fun w hw => ?waits, fun _ => ?suspended, fun v hv => ?joins,
    fun w hw => ⟨fun v hv => ?ready, fun a hmem => ?granted⟩⟩
  case stricken =>
    -- the mark stays, and a strike that was due is due behind the answer
    rcases h with h | h
    · refine .inl ?_
      rw [hwoken]
      exact h
    · exact .inr (mem_dues_wake.mpr (.inr ⟨h, rfl⟩))
  case waits =>
    -- the wait is over; if it was for a task, that one came to the answer, by `hjoin`
    refine .inr fun v hv hne => ?_
    rcases hw with hw | hw
    · rw [ht] at hw
      cases hw
      exact (hcame v answer (hjoin v hv)).ended
    · obtain ⟨r, hr⟩ := ended_iff.mp (hw v hv hne)
      exact (hcame v r hr).ended
  case suspended => exact .inr ⟨answer, mem_dues_wake.mpr (.inl rfl)⟩
  case joins =>
    rw [hwoken] at hv
    cases hv
  case ready =>
    rw [hwoken] at hv
    cases hv
  case granted =>
    -- one answer due is the new one, granted to the wait that was, and the others were due before
    rcases mem_dues_wake.mp hmem with heq | ⟨hold, -⟩
    · cases heq
      obtain rfl : what = w := hw.1 what ht
      exact (grants_of_answer hjoin hanswer).mono hcame
    · exact (hw.2 a hold).mono hcame

/-- When a task is woken, the record of another stays as it is, and so does what is due to it. -/
theorem spares_wake_of_ne {what : Wait} (ht : (ts.task t).status = .waiting what) (hu : u ≠ t)
    (answer : Wakeup) : Spares u ts (ts.wake t answer) := by
  -- only the record of the woken task changes, and only its answer is new among what is due
  have hsame := task_wake ts t u answer
  rw [if_neg fun h => hu h.1.symm] at hsame
  refine Spares.of_record (fun v r => (cameTo_wake ht answer r).mpr) ?status ?cancelling fun a =>
    ⟨fun hmem => ?due, fun hmem => mem_dues_wake.mpr (.inr ⟨hmem, rfl⟩)⟩
  case status => rw [hsame]
  case cancelling =>
    rw [hsame]
    exact id
  case due =>
    rcases mem_dues_wake.mp hmem with heq | ⟨hold, -⟩
    · cases heq
      exact absurd rfl hu
    · exact hold

/-- A task may be woken when what it waits for, if it is a task, has come to what it is answered
with; a wait for anything else comes to nothing worse than a cancellation. -/
theorem spares_wake {what : Wait} {answer : Wakeup} (ht : (ts.task t).status = .waiting what)
    (hjoin : ∀ v, what = .join v → ts.CameTo v answer)
    (hanswer : (∀ v, what ≠ .join v) → answer = .ok () ∨ answer = .error .cancelled) (u : TaskId) :
    Spares u ts (ts.wake t answer) := by
  by_cases hu : u = t
  · rw [hu]
    exact spares_woken ht hjoin hanswer
  · exact spares_wake_of_ne ht hu answer

/-! ### Cancelling -/

/-- A cancellation marks tasks and wakes tasks that wait for no other one, and nothing else. -/
theorem cancelWithin_induct {P : Tasks J → Tasks J → Prop} (hrefl : ∀ ts, P ts ts)
    (htrans : ∀ ts ts' ts'', P ts ts' → P ts' ts'' → P ts ts'')
    (hmark : ∀ ts t, P ts (ts.change t fun task => { task with cancelling := true }))
    (hwake : ∀ ts t what, (ts.task t).status = .waiting what → (∀ u, what ≠ .join u) →
      P ts (ts.wake t (.error .cancelled)))
    (fuel : Nat) (t : TaskId) (ts : Tasks J) : P ts (ts.cancelWithin fuel t).2 := by
  -- from a task that waits for another one the cancellation goes on to that, with less fuel
  induction fuel generalizing t ts with
  | zero =>
    unfold cancelWithin
    dsimp only
    split
    · exact hrefl ts
    · exact hmark ts t
    · exact hmark ts t
    · exact hmark ts t
    · rename_i what hwhat hstatus
      exact hwake ts t what hstatus fun u hu => hwhat u (by rw [hu])
  | succ fuel ih =>
    unfold cancelWithin
    dsimp only
    split
    · exact hrefl ts
    · exact hmark ts t
    · exact hmark ts t
    · rename_i other hstatus
      -- the cancellation was taken up by the other task, or this one is marked as well
      split
      · rename_i after heq
        have hother := ih other ts
        rw [heq] at hother
        exact hother
      · rename_i after heq
        have hother := ih other ts
        rw [heq] at hother
        exact htrans _ _ _ hother (hmark after t)
    · rename_i what hwhat hstatus
      exact hwake ts t what hstatus fun u hu => hwhat u (by rw [hu])

/-- A cancellation keeps the records in order: it marks tasks and wakes some that wait for no other
one. -/
theorem Orderly.cancel (h : Orderly active ts) (t : TaskId) : Orderly active (ts.cancel t) := by
  refine cancelWithin_induct (P := fun ts ts' => Orderly active ts → Orderly active ts')
    (fun _ h => h) (fun _ _ _ h₁ h₂ h => h₂ (h₁ h)) (fun ts t h => ?_) (fun ts t what ht hwhat h => ?_)
    _ t ts h
  · exact h.note (fun _ => rfl) fun _ => rfl
  · refine h.wake ht (h.not_waiter fun v hv => ?_) _
    rw [ht] at hv
    cases hv
    exact hwhat v rfl

/-- A cancellation spares every task, the cancelled one too: it may strike it but does not take its
turn. -/
theorem spares_cancel (ts : Tasks J) (t u : TaskId) : Spares u ts (ts.cancel t) := by
  refine cancelWithin_induct (P := Spares u) (Spares.refl u) (fun _ _ _ => Spares.trans)
    (fun ts t => ?_) (fun ts t what ht hwhat => ?_) _ t ts
  · refine Spares.of_record (fun v r hv => (cameTo_change v ?_).mpr hv) ?_ ?_ fun _ => Iff.rfl
    · exact Iff.rfl
    · rw [task_change]
      split <;> rfl
    · rw [task_change]
      split
      · exact fun _ => rfl
      · exact id
  · exact spares_wake ht (fun v hv => absurd hv (hwhat v)) (fun _ => .inr rfl) u

/-- A cancellation ends no task; it only makes one come to an end later. -/
theorem cameTo_cancel (ts : Tasks J) (t u : TaskId) (r : Wakeup) :
    (ts.cancel t).CameTo u r ↔ ts.CameTo u r := by
  refine cancelWithin_induct (P := fun ts ts' => ts'.CameTo u r ↔ ts.CameTo u r)
    (fun _ => Iff.rfl) (fun _ _ _ h₁ h₂ => h₂.trans h₁) (fun ts t => ?_)
    (fun ts t what ht _ => cameTo_wake ht _ r) _ t ts
  refine cameTo_change u ?_
  exact Iff.rfl

theorem length_cancel (ts : Tasks J) (t : TaskId) :
    (ts.cancel t).table.length = ts.table.length :=
  cancelWithin_induct (P := fun ts ts' => ts'.table.length = ts.table.length) (fun _ => rfl)
    (fun _ _ _ h₁ h₂ => h₂.trans h₁) (fun ts t => length_change ts t _)
    (fun ts t _ _ _ => length_wake ts t _) _ t ts

/-- A cancelled task that does not wait for another one is stricken. -/
theorem stricken_cancel (hlt : t < ts.table.length) (hunfinished : ts.isFinished t = false)
    (hjoin : ∀ u, (ts.task t).status ≠ .waiting (.join u)) : (ts.cancel t).Stricken t := by
  have hmark : (ts.change t fun task => { task with cancelling := true }).Stricken t := by
    refine .inl ?_
    rw [task_change_self hlt]
  -- it is marked, or woken by the strike; only a wait for another task would pass that on
  unfold cancel cancelWithin
  dsimp only
  split
  · rename_i r hstatus
    rw [isFinished_iff.mpr ⟨r, hstatus⟩] at hunfinished
    cases hunfinished
  · exact hmark
  · exact hmark
  · rename_i u hstatus
    exact absurd hstatus (hjoin u)
  · exact .inr (mem_dues_wake.mpr (.inl rfl))

end Tasks

end ResumableWatch
