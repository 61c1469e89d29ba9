import ResumableWatch.Proofs.Tasks.Orderly
/-!
# Turns

What one turn of a task does to the records: what it may do itself (`Op`), and how it begins and
ends.  A turn begins with the answer to a wait (`Orderly.resume`) or with the start of the task
(`Orderly.start`), and ends in a wait (`Orderly.suspend`) or with the end of the task
(`Orderly.finish`).  All of these keep the records in order, and spare those whose turn it is not.
-/

namespace ResumableWatch.Tasks

variable {J : Type} {ts ts' : Tasks J} {t u : TaskId} {active : Option TaskId}

/-! ### Within a turn -/

/-- What a task may do to the records in its turn; `may` says which jobs it may start. -/
inductive Op (may : J → Prop) (ts : Tasks J) : Tasks J → Prop
  | same : Op may ts ts
  | spawn (job : J) (context : Option Log.Context) :
    may job → Op may ts (ts.spawn job context).2
  | schedule (seconds : Double) (job : J) (context : Option Log.Context) :
    may job → Op may ts (ts.schedule seconds job context).2
  | unschedule (t : TaskId) : Op may ts (ts.unschedule t)
  | cancel (t : TaskId) : Op may ts (ts.cancel t)
  | bindContext (context : Log.Context) : Op may ts (ts.bindContext context)

/-- A new task, which has not finished, changes nothing about who came to what. -/
theorem cameTo_append {new : Task} {r : Wakeup} (htable : ts'.table = ts.table ++ [new])
    (hnew : ∀ r, new.status ≠ .finished r) : ts'.CameTo u r ↔ ts.CameTo u r := by
  rw [CameTo, CameTo, outcome?_eq_some_iff, outcome?_eq_some_iff, task_append htable, htable,
    List.length_append, List.length_singleton]
  by_cases hu : u = ts.table.length
  · rw [if_pos hu]
    constructor
    · rintro ⟨-, hr⟩
      exact absurd hr (hnew r)
    · rintro ⟨hlt, -⟩
      exact absurd hu (Nat.ne_of_lt hlt)
  · -- the number of any other task is below the old length if it is below the new one
    rw [if_neg hu]
    refine and_congr_left fun _ => ⟨fun hlt => ?_, Nat.lt_succ_of_lt⟩
    exact Nat.lt_of_le_of_ne (Nat.le_of_lt_succ hlt) hu

/-- A new task spares everybody, itself included, as it has neither been
waiting nor struck before. -/
theorem spares_append {new : Task} (htable : ts'.table = ts.table ++ [new])
    (hnew : ∀ r, new.status ≠ .finished r) (hwaiting : ∀ what, new.status ≠ .waiting what)
    (hdues : ∀ d ∈ ts.dues, d ∈ ts'.dues)
    (hresume : ∀ answer, .resume t answer ∈ ts'.dues → .resume t answer ∈ ts.dues) :
    Spares t ts ts' := by
  have hcame (u : TaskId) (r : Wakeup) (hu : ts.CameTo u r) : ts'.CameTo u r :=
    (cameTo_append htable hnew).mpr hu
  by_cases ht : t = ts.table.length
  · -- the new task was not there before
    have hold : ts.task t = { status := .finished (.ok ()) } := task_of_le (Nat.le_of_eq ht.symm)
    have htask := task_append htable t
    rw [if_pos ht] at htask
    refine ⟨hcame, fun h => ?stricken, fun what h => ?waits, fun h => ?suspended,
      fun v h => ?joins, fun what h => ?expects⟩
    case stricken =>
      rcases h with h | h
      · rw [hold] at h
        cases h
      · exact .inr (hdues _ h)
    case waits =>
      rcases h with h | h
      · rw [hold] at h
        cases h
      · refine .inr fun v hv hne => ?_
        obtain ⟨r, hr⟩ := ended_iff.mp (h v hv hne)
        exact (hcame v r hr).ended
    case suspended =>
      rcases h with ⟨what, h⟩ | ⟨answer, h⟩
      · rw [hold] at h
        cases h
      · exact .inr ⟨answer, hdues _ h⟩
    case joins =>
      -- the new task waits for nothing
      rw [htask] at h
      exact absurd h (hwaiting _)
    case expects =>
      refine ⟨fun v hv => ?_, fun answer hmem => (h.2 answer (hresume answer hmem)).mono hcame⟩
      rw [htask] at hv
      exact absurd hv (hwaiting _)
  · -- any other record is the one that was there
    have hsame := task_append htable t
    rw [if_neg ht] at hsame
    apply Spares.of_record hcame
    · rw [hsame]
    · rw [hsame]
      exact id
    · exact fun answer => ⟨hresume answer, hdues _⟩

section Op

variable {may : J → Prop}

/-- Whatever a task does in its turn, the turn stays its own. -/
theorem Op.current (h : Op may ts ts') : ts'.current = ts.current := by
  cases h with
  | same => rfl
  | spawn => rfl
  | schedule seconds =>
    show (addTimer seconds _ _).current = _
    rw [addTimer]
    split <;> rfl
  | unschedule => rfl
  | cancel t =>
    exact cancelWithin_induct (P := fun ts ts' => ts'.current = ts.current) (fun _ => rfl)
      (fun _ _ _ h₁ h₂ => h₂.trans h₁) (fun _ _ => rfl) (fun _ _ _ _ _ => rfl) _ t ts
  | bindContext => rfl

theorem adds_spawn (job : J) (context : Option Log.Context) (ts : Tasks J) :
    Adds (.start ts.table.length job) ts (ts.spawn job context).2 :=
  adds_enqueue { ts with table := ts.table ++ [({ context } : Task)] } _

/-- A job that is scheduled is started by a timer, unless that never comes. -/
theorem adds_schedule (seconds : Double) (job : J) (context : Option Log.Context) (ts : Tasks J) :
    Adds (.start ts.table.length job) ts (ts.schedule seconds job context).2 :=
  adds_addTimer { ts with table := ts.table ++ [({ status := .scheduled, context } : Task)] } _ _

theorem table_addTimer (ts : Tasks J) (seconds : Double) (d : Due J) :
    (ts.addTimer seconds d).table = ts.table := by
  rw [addTimer]
  split <;> rfl

theorem table_schedule (seconds : Double) (job : J) (context : Option Log.Context) (ts : Tasks J) :
    (ts.schedule seconds job context).2.table
      = ts.table ++ [({ status := .scheduled, context } : Task)] :=
  table_addTimer { ts with table := ts.table ++ [({ status := .scheduled, context } : Task)] } _ _

/-- Whatever a task does in its turn, the records stay in order. -/
theorem Op.orderly (h : Op may ts ts') (ho : Orderly active ts) : Orderly active ts' := by
  cases h with
  | same => exact ho
  | spawn job context =>
    -- the start of the new task is the only thing that is new among what is due
    have hadds := adds_spawn job context ts
    exact ho.append rfl ⟨(fun _ h => nomatch h), (fun _ h => nomatch h)⟩ rfl hadds.ways_le
      fun t ht => (hadds.eq_or_mem ht).resolve_left nofun
  | schedule seconds job context =>
    have hadds := adds_schedule seconds job context ts
    exact ho.append (table_schedule seconds job context ts)
      ⟨(fun _ h => nomatch h), (fun _ h => nomatch h)⟩ rfl hadds.ways_le
      fun t ht => (hadds.eq_or_mem ht).resolve_left nofun
  | unschedule t =>
    -- less is due than before
    have hdues := dues_drop ts (Due.isStartOf t)
    refine ho.of_fewer rfl (fun u => ?_) fun u hu => ?_
    · rw [ways, Tasks.unschedule, hdues]
      exact List.filter_sublist.countP_le
    · rw [Tasks.unschedule, hdues] at hu
      exact (List.mem_filter.mp hu).1
  | cancel t => exact ho.cancel t
  | bindContext context => exact ho.note (fun _ => rfl) fun _ => rfl

/-- Nobody ends in the turn of another one. -/
theorem Op.cameTo {r : Wakeup} (h : Op may ts ts') : ts'.CameTo u r ↔ ts.CameTo u r := by
  cases h with
  | same => exact Iff.rfl
  | spawn job context => exact cameTo_append rfl fun _ h => nomatch h
  | schedule seconds job context =>
    exact cameTo_append (table_schedule seconds job context ts) fun _ h => nomatch h
  | unschedule t => exact Iff.rfl
  | cancel t => exact cameTo_cancel ts t u r
  | bindContext context =>
    refine cameTo_change u ?_
    exact Iff.rfl

/-- Whatever a task does in its turn spares everybody. -/
theorem Op.spares (h : Op may ts ts') (t : TaskId) : Spares t ts ts' := by
  cases h with
  | same => exact Spares.refl t ts
  | spawn job context =>
    have hadds := adds_spawn job context ts
    exact spares_append rfl (fun _ h => nomatch h) (fun _ h => nomatch h) (fun _ => hadds.keeps)
      fun answer hmem => (hadds.eq_or_mem hmem).resolve_left nofun
  | schedule seconds job context =>
    have hadds := adds_schedule seconds job context ts
    exact spares_append (table_schedule seconds job context ts) (fun _ h => nomatch h)
      (fun _ h => nomatch h) (fun _ => hadds.keeps)
      fun answer hmem => (hadds.eq_or_mem hmem).resolve_left nofun
  | unschedule u =>
    -- only a start is taken away, and no answer
    refine Spares.of_record (fun _ _ h => h) rfl id fun answer => ?_
    rw [Tasks.unschedule, dues_drop, List.mem_filter]
    exact and_iff_left rfl
  | cancel u => exact spares_cancel ts u t
  | bindContext context =>
    -- the context is nothing that anybody counts on
    refine Spares.of_record (fun u r hu => (cameTo_change u ?_).mpr hu) ?_ ?_
      fun _ => Iff.rfl
    · exact Iff.rfl
    · rw [Tasks.bindContext, task_change]
      split <;> rfl
    · rw [Tasks.bindContext, task_change]
      split <;> exact id

/-- Tasks are added and never taken away. -/
theorem Op.length (h : Op may ts ts') : ts.table.length ≤ ts'.table.length := by
  cases h with
  | same => exact Nat.le_refl _
  | spawn job context =>
    show _ ≤ (ts.table ++ [_]).length
    rw [List.length_append]
    exact Nat.le_add_right _ _
  | schedule seconds job context =>
    rw [table_schedule seconds job context ts, List.length_append]
    exact Nat.le_add_right _ _
  | unschedule => exact Nat.le_refl _
  | cancel t => exact Nat.le_of_eq (length_cancel ts t).symm
  | bindContext => exact Nat.le_of_eq (length_change ..).symm

/-- Only jobs that may be started are, by a new task. -/
theorem Op.starts (h : Op may ts ts') {job : J} (hmem : .start u job ∈ ts'.dues) :
    .start u job ∈ ts.dues ∨ (may job ∧ u = ts.table.length) := by
  -- a start that was not due before is the one that has just been added
  have hadded {new : J} (hnew : may new) (hadds : Adds (.start ts.table.length new) ts ts') :
      .start u job ∈ ts.dues ∨ (may job ∧ u = ts.table.length) := by
    rcases hadds.eq_or_mem hmem with h | h
    · cases h
      exact .inr ⟨hnew, rfl⟩
    · exact .inl h
  cases h with
  | same => exact .inl hmem
  | spawn new context hnew => exact hadded hnew (adds_spawn new context ts)
  | schedule seconds new context hnew => exact hadded hnew (adds_schedule seconds new context ts)
  | unschedule t =>
    rw [Tasks.unschedule, dues_drop] at hmem
    exact .inl (List.mem_filter.mp hmem).1
  | cancel t =>
    -- a cancellation makes answers due, and no starts
    refine .inl (cancelWithin_induct
      (P := fun ts ts' => .start u job ∈ ts'.dues → .start u job ∈ ts.dues)
      (fun _ h => h) (fun _ _ _ h₁ h₂ h => h₁ (h₂ h)) (fun _ _ h => h) (fun ts t what _ _ h => ?_) _
      t ts hmem)
    rcases mem_dues_wake.mp h with h | h
    · cases h
    · exact h.1
  | bindContext context => exact .inl hmem

end Op

/-- What a task makes of the records within a turn. -/
structure Within (ts ts' : Tasks J) : Prop where
  current : ts'.current = ts.current
  length : ts.table.length ≤ ts'.table.length
  cameTo : ∀ u r, ts'.CameTo u r ↔ ts.CameTo u r
  spares : ∀ u, Spares u ts ts'
  orderly : ∀ active, Orderly active ts → Orderly active ts'
  /-- Only new tasks are started. -/
  starts : ∀ u job, .start u job ∈ ts'.dues → .start u job ∈ ts.dues ∨ ts.table.length ≤ u

namespace Within

theorem refl (ts : Tasks J) : Within ts ts :=
  ⟨rfl, Nat.le_refl _, fun _ _ => Iff.rfl, fun u => Spares.refl u ts, fun _ h => h,
    fun _ _ => .inl⟩

theorem ended (h : Within ts ts') (u : TaskId) : ts'.Ended u ↔ ts.Ended u :=
  ended_congr (h.cameTo u)

theorem trans {ts'' : Tasks J} (h₁ : Within ts ts') (h₂ : Within ts' ts'') : Within ts ts'' where
  current := h₂.current.trans h₁.current
  length := Nat.le_trans h₁.length h₂.length
  cameTo u r := (h₂.cameTo u r).trans (h₁.cameTo u r)
  spares u := (h₁.spares u).trans (h₂.spares u)
  orderly active h := h₂.orderly active (h₁.orderly active h)
  starts u job hmem := by
    rcases h₂.starts u job hmem with hmem | hnew
    · exact h₁.starts u job hmem
    · exact .inr (Nat.le_trans h₁.length hnew)

theorem of_eq (h : ts' = ts) : Within ts ts' := by
  rw [h]
  exact refl ts

end Within

/-- All of this at once. -/
theorem Op.within {may : J → Prop} (h : Op may ts ts') : Within ts ts' where
  current := h.current
  length := h.length
  cameTo _ _ := h.cameTo
  spares u := h.spares u
  orderly _ ho := h.orderly ho
  starts _ _ hmem := (h.starts hmem).imp_right fun hnew => Nat.le_of_eq hnew.2.symm

/-! ### Bookkeeping -/

/-- What the books do between and around turns: they finish and start nobody, and spare all but one
task, if there is one whose turn begins or ends. -/
structure Clerical (turn : Option TaskId) (ts ts' : Tasks J) : Prop where
  length : ts'.table.length = ts.table.length
  spares : ∀ u, turn ≠ some u → Spares u ts ts'
  cameTo : ∀ u r, ts'.CameTo u r ↔ ts.CameTo u r
  starts : ∀ u job, .start u job ∈ ts'.dues → .start u job ∈ ts.dues

namespace Clerical

theorem ended {turn : Option TaskId} (h : Clerical turn ts ts') (u : TaskId) :
    ts'.Ended u ↔ ts.Ended u := ended_congr (h.cameTo u)

theorem trans {ts'' : Tasks J} {turn : Option TaskId} (h₁ : Clerical turn ts ts')
    (h₂ : Clerical turn ts' ts'') : Clerical turn ts ts'' where
  length := h₂.length.trans h₁.length
  spares u hu := (h₁.spares u hu).trans (h₂.spares u hu)
  cameTo u r := (h₂.cameTo u r).trans (h₁.cameTo u r)
  starts u job h := h₁.starts u job (h₂.starts u job h)

/-- A cancellation is clerical, whoever asks for it. -/
theorem cancel (turn : Option TaskId) (ts : Tasks J) (t : TaskId) :
    Clerical turn ts (ts.cancel t) where
  length := length_cancel ts t
  spares u _ := spares_cancel ts t u
  cameTo u r := cameTo_cancel ts t u r
  starts u job h := by
    rcases (Op.cancel t : Op (fun _ => False) ts _).starts h with h | h
    · exact h
    · exact h.1.elim

/-- The records stay as they are, and what is due stays due, but for what the one task may do. -/
theorem of_dues {turn : Option TaskId} (htable : ts'.table = ts.table)
    (hresume : ∀ u answer, turn ≠ some u →
      (.resume u answer ∈ ts'.dues ↔ .resume u answer ∈ ts.dues))
    (hstarts : ∀ u job, .start u job ∈ ts'.dues → .start u job ∈ ts.dues) :
    Clerical turn ts ts' where
  length := congrArg List.length htable
  spares u hu := by
    refine Spares.of_record (fun v r hv => ?_) ?_ ?_ fun answer => hresume u answer hu
    · rw [CameTo, outcome?_eq_some_iff, task_of_table htable, htable]
      exact ⟨hv.1, outcome?_eq_some_iff.mp hv.2⟩
    · rw [task_of_table htable]
    · rw [task_of_table htable]
      exact id
  cameTo u r := by
    rw [CameTo, CameTo, outcome?_eq_some_iff, outcome?_eq_some_iff, task_of_table htable, htable]
  starts := hstarts

theorem refl (turn : Option TaskId) (ts : Tasks J) : Clerical turn ts ts :=
  .of_dues rfl (fun _ _ _ => Iff.rfl) fun _ _ h => h

/-- The record of the one task is changed, but not to say that it has finished. -/
theorem change {f : Task → Task}
    (hf : ∀ r, (f (ts.task t)).status = .finished r ↔ (ts.task t).status = .finished r) :
    Clerical (some t) ts (ts.change t f) where
  length := length_change ts t f
  spares u hu := by
    have hsame : (ts.change t f).task u = ts.task u :=
      task_change_of_ne (fun h => hu (by rw [h])) f
    refine Spares.of_record (fun v r hv => ?_) ?_ ?_ fun _ => Iff.rfl
    · exact (cameTo_change v (hf r)).mpr hv
    · rw [hsame]
    · rw [hsame]
      exact id
  cameTo u r := cameTo_change u (hf r)
  starts _ _ h := h

/-- Nobody is harmed when a task is woken with what its wait has come to. -/
theorem wake {what : Wait} {answer : Wakeup} (ht : (ts.task t).status = .waiting what)
    (hjoin : ∀ v, what = .join v → ts.CameTo v answer)
    (hanswer : (∀ v, what ≠ .join v) → answer = .ok () ∨ answer = .error .cancelled) :
    Clerical none ts (ts.wake t answer) where
  length := length_wake ts t answer
  spares u _ := spares_wake ht hjoin hanswer u
  cameTo _ r := cameTo_wake ht answer r
  starts u job h := by
    rcases mem_dues_wake.mp h with h | h
    · cases h
    · exact h.1

end Clerical

/-! ### The beginning of a round -/

/-- The clock moves on, and nothing else. -/
theorem Orderly.setClock (h : Orderly active ts) (timer : Timer J) :
    Orderly active (ts.setClock timer) :=
  h.of_fewer rfl (fun _ => Nat.le_refl _) fun _ h => h

/-- A round begins with what is due already. -/
theorem Orderly.beginRound (h : Orderly active ts) : Orderly active ts.beginRound := by
  have hdues := dues_beginRound ts
  refine h.of_fewer rfl (fun t => Nat.le_of_eq ?_) fun t ht => ?_
  · rw [ways, hdues, ways]
  · rw [← hdues]
    exact ht

theorem clerical_setClock (ts : Tasks J) (timer : Timer J) : Clerical none ts (ts.setClock timer) :=
  .of_dues rfl (fun _ _ _ => Iff.rfl) fun _ _ h => h

/-- Nobody is harmed when a round begins. -/
theorem clerical_beginRound (ts : Tasks J) : Clerical none ts ts.beginRound := by
  have hdues := dues_beginRound ts
  refine .of_dues rfl (fun u answer _ => ?_) fun u job h => ?_
  · rw [hdues]
  · rw [← hdues]
    exact h

/-- The next round begins at once, or when the clock has moved on to the next timer. -/
theorem nextRound_cases (h : ts.nextRound = some ts') :
    ts' = ts.beginRound ∨ ∃ timer, ts' = (ts.setClock timer).beginRound := by
  unfold nextRound at h
  split at h
  · cases h
  · cases h
    exact .inr ⟨_, rfl⟩
  · cases h
    exact .inl rfl

/-! ### The beginning of a turn -/

section Begin

variable {d : Due J} {rest : List (Due J)} {answer : Wakeup} {job : J}

/-- What is first in the round is due, and the rest stays so. -/
theorem dues_pop (h : ts.round = d :: rest) : ts.dues = d :: { ts with round := rest }.dues := by
  rw [dues, h]
  rfl

/-- What is taken from the round was one way for its task to go on. -/
theorem ways_pop (h : ts.round = d :: rest) (t : TaskId) :
    ts.ways t = ({ ts with round := rest } : Tasks J).ways t + if d.lets t then 1 else 0 := by
  rw [ways, dues_pop h, List.countP_cons, ways]

/-- A task that something is to let go on neither waits nor has finished. -/
theorem Orderly.not_parked_of_due (h : Orderly active ts) (hmem : d ∈ ts.dues)
    (hlets : d.lets t = true) : ¬ ts.Parked t := by
  intro hparked
  have hpos : 0 < ts.ways t := List.countP_pos_iff.mpr ⟨d, hmem, hlets⟩
  rw [(h.parked t hparked).1] at hpos
  exact Nat.lt_irrefl 0 hpos

/-- A task goes on in one way only. -/
theorem Orderly.not_again (h : Orderly active ts) {d' : Due J} (hround : ts.round = d :: rest)
    (hlets : d.lets t = true) (hlets' : d'.lets t = true) :
    d' ∉ ({ ts with round := rest } : Tasks J).dues := by
  intro hmem
  -- two ways at once would be one too many for `once`
  have hpos : 0 < ({ ts with round := rest } : Tasks J).ways t :=
    List.countP_pos_iff.mpr ⟨_, hmem, hlets'⟩
  have honce := Nat.le_trans (Nat.le_add_right _ _) (h.once t)
  rw [ways_pop hround, hlets, if_pos rfl] at honce
  exact absurd (Nat.le_of_succ_le_succ honce) (Nat.not_le_of_gt hpos)

/-- Nothing is due that lets an active task go on. -/
theorem Orderly.not_due (h : Orderly (some t) ts) (hmem : d ∈ ts.dues) : d.lets t = false := by
  rw [Bool.eq_false_iff]
  intro hlets
  have hpos : 0 < ts.ways t := List.countP_pos_iff.mpr ⟨d, hmem, hlets⟩
  rw [h.ways_active] at hpos
  exact Nat.lt_irrefl 0 hpos

/-- A task in a wait has not finished. -/
theorem Orderly.unended_of_suspended (h : Orderly active ts) (hs : ts.Suspended t) :
    ¬ ts.Ended t := by
  intro hended
  rcases hs with ⟨what, hstatus⟩ | ⟨answer, hmem⟩
  · obtain ⟨r, hr⟩ := isFinished_iff.mp hended.2
    rw [hstatus] at hr
    cases hr
  · exact h.not_parked_of_due hmem (beq_self_eq_true t) hended.parked

/-- A task in a wait is not to be started. -/
theorem Orderly.not_start_of_suspended (h : Orderly active ts)
    (hround : ts.round = .start t job :: rest) : ¬ ts.Suspended t := by
  rintro (⟨what, hstatus⟩ | ⟨answer, hmem⟩)
  · refine h.not_parked_of_due (d := .start t job) ?_ (beq_self_eq_true t) (.inl ⟨what, hstatus⟩)
    rw [dues_pop hround]
    exact List.mem_cons_self
  · rw [dues_pop hround] at hmem
    rcases List.mem_cons.mp hmem with heq | hmem
    · cases heq
    · exact absurd hmem (h.not_again hround (beq_self_eq_true t) (beq_self_eq_true t))

/-- What lets a task go on is taken from the round. -/
theorem Orderly.pop (h : Orderly none ts) (hround : ts.round = d :: rest) (hlets : d.lets t = true) :
    Orderly (some t) { ts with round := rest } := by
  have hdues := dues_pop hround
  have hparked := h.not_parked_of_due (t := t) (d := d) (by rw [hdues]; exact List.mem_cons_self) hlets
  -- the way that is taken becomes the step of the active task, so the sum stays
  refine ⟨fun u => ?_, fun u hu => ?_, fun u hu => ?_, h.waiters, h.nodup⟩
  · have honce := Nat.le_trans (Nat.le_add_right _ _) (h.once u)
    rw [ways_pop hround] at honce
    refine Nat.le_trans (Nat.add_le_add_left ?_ _) honce
    by_cases hu : t = u
    · refine Nat.le_of_eq ?_
      rw [← hu, hlets, if_pos rfl, if_pos rfl]
    · rw [if_neg fun heq => hu (Option.some.inj heq)]
      exact Nat.zero_le _
  · have hzero := (h.parked u hu).1
    rw [ways_pop hround] at hzero
    refine ⟨Nat.eq_zero_of_add_eq_zero_right hzero, fun heq => ?_⟩
    exact hparked (Option.some.inj heq ▸ hu)
  · refine h.rings u ?_
    rw [hdues]
    exact List.mem_cons_of_mem _ hu

/-- Taking something from the round touches its own task only. -/
theorem clerical_pop (hround : ts.round = d :: rest) (hlets : d.lets t = true) :
    Clerical (some t) ts { ts with round := rest } := by
  have hdues := dues_pop hround
  refine .of_dues rfl (fun u answer hu => ?_) fun u job hmem => ?_
  · rw [hdues, List.mem_cons]
    refine (or_iff_right fun heq => ?_).symm
    rw [← heq] at hlets
    exact absurd (congrArg some (beq_iff_eq.mp hlets)).symm hu
  · rw [hdues]
    exact List.mem_cons_of_mem _ hmem

/-- Whatever is taken from the round that is no answer, everybody is spared. -/
theorem clerical_pop_of_not_resume (hround : ts.round = d :: rest)
    (hd : ∀ u answer, d ≠ .resume u answer) (t : TaskId) :
    Clerical none ts { ts with round := rest, current := t } := by
  have hdues := dues_pop hround
  refine .of_dues rfl (fun u answer _ => ?_) fun u job hmem => ?_
  · rw [hdues, List.mem_cons]
    exact (or_iff_right fun heq => hd u answer heq.symm).symm
  · rw [hdues]
    exact List.mem_cons_of_mem _ hmem

/-- Taking an answer leaves the books as they are, or clears the mark of a
cancellation that strikes now. -/
theorem takeAnswer_eq (t : TaskId) (answer : Wakeup) (ts : Tasks J) :
    (ts.takeAnswer t answer).2 = ts ∨
      (ts.takeAnswer t answer).2 = ts.change t fun task => { task with cancelling := false } := by
  rw [takeAnswer]
  split
  · exact .inr rfl
  · exact .inl rfl

/-- **A task goes on** after a wait, and is the active one then. -/
theorem Orderly.resume (h : Orderly none ts) (hround : ts.round = .resume t answer :: rest) :
    Orderly (some t) { ({ ts with round := rest }.takeAnswer t answer).2 with current := t } := by
  have hpop := h.pop hround (beq_self_eq_true t)
  rcases takeAnswer_eq t answer { ts with round := rest } with heq | heq
  · rw [heq]
    exact hpop.of_fewer rfl (fun _ => Nat.le_refl _) fun _ h => h
  · have hnote : Orderly (some t) (({ ts with round := rest } : Tasks J).change t fun task =>
        { task with cancelling := false }) := hpop.note (fun _ => rfl) fun _ => rfl
    rw [heq]
    exact hnote.of_fewer rfl (fun _ => Nat.le_refl _) fun _ h => h

/-- When a task goes on the others are spared. -/
theorem clerical_resume (hround : ts.round = .resume t answer :: rest) :
    Clerical (some t) ts { ({ ts with round := rest }.takeAnswer t answer).2 with current := t } := by
  have hpop := clerical_pop hround (beq_self_eq_true t)
  have hcurrent (ts' : Tasks J) : Clerical (some t) ts' { ts' with current := t } :=
    .of_dues rfl (fun _ _ _ => Iff.rfl) fun _ _ h => h
  refine (hpop.trans ?_).trans (hcurrent _)
  rcases takeAnswer_eq t answer { ts with round := rest } with heq | heq
  · rw [heq]
    exact .of_dues rfl (fun _ _ _ => Iff.rfl) fun _ _ h => h
  · rw [heq]
    exact .change fun _ => Iff.rfl

/-- A stricken task is answered with its cancellation. -/
theorem Orderly.answer_of_stricken (h : Orderly none ts) (hround : ts.round = .resume t answer :: rest)
    (hstricken : ts.Stricken t) :
    ({ ts with round := rest }.takeAnswer t answer).1 = .error .cancelled := by
  rw [takeAnswer]
  split
  · rfl
  · rename_i hnot
    rcases hstricken with hmark | hmem
    · exact absurd hmark hnot
    · rw [dues_pop hround] at hmem
      rcases List.mem_cons.mp hmem with heq | hmem
      · cases heq
        rfl
      · -- there would be two ways for the task to go on
        exact absurd hmem (h.not_again hround (beq_self_eq_true t) (beq_self_eq_true t))

/-- A task that goes on has waited for a task that has finished, if for one. -/
theorem Orderly.ended_of_waits (h : Orderly none ts) (hround : ts.round = .resume t answer :: rest)
    {what : Wait} (hwaits : ts.Waits t what) : ∀ u, what = .join u → u ≠ t → ts.Ended u := by
  rcases hwaits with hstatus | hended
  · refine absurd (.inl ⟨what, hstatus⟩) (h.not_parked_of_due (d := .resume t answer) ?_ ?_)
    · rw [dues_pop hround]
      exact List.mem_cons_self
    · exact beq_self_eq_true t
  · exact hended

/-- A task goes on with what is granted to it. -/
theorem grants_answer {what : Wait} (hround : ts.round = .resume t answer :: rest)
    (hexpects : ts.Expects t what) :
    ts.Grants t what ({ ts with round := rest }.takeAnswer t answer).1 := by
  rw [takeAnswer]
  split
  · exact .inl rfl
  · refine hexpects.2 answer ?_
    rw [dues_pop hround]
    exact List.mem_cons_self

/-- The record of a task that starts. -/
def started (t : TaskId) (ts : Tasks J) : Tasks J :=
  { ts with current := t }.change t fun task => { task with status := .ready }

theorem task_started (h : t < ts.table.length) :
    (ts.started t).task t = { ts.task t with status := .ready } := task_change_self h _

/-- **A task is started**, and is the active one then. -/
theorem Orderly.start (h : Orderly none ts) (hround : ts.round = .start t job :: rest) :
    Orderly (some t) ({ ts with round := rest }.started t) := by
  have hpop := h.pop hround (beq_self_eq_true t)
  have hactive := hpop.not_parked
  have hsame {u : TaskId} (hu : u ≠ t) :
      (({ ts with round := rest } : Tasks J).started t).task u
        = ({ ts with round := rest } : Tasks J).task u := task_change_of_ne hu _
  -- the started task is ready, and the other records are as they were
  have hready : ((({ ts with round := rest } : Tasks J).started t).task t).status = .ready := by
    rw [task_started (lt_of_not_parked hactive)]
  have hwaiters (u : TaskId) : ((({ ts with round := rest } : Tasks J).started t).task u).waiters
      = (({ ts with round := rest } : Tasks J).task u).waiters := by
    rw [started, task_change]
    split <;> rfl
  have hold {u : TaskId} {what : Wait}
      (hu : (({ ts with round := rest } : Tasks J).task u).status = .waiting what) :
      ((({ ts with round := rest } : Tasks J).started t).task u).status = .waiting what := by
    have hstarted : ¬ ({ ts with round := rest, current := t } : Tasks J).Parked t := hactive
    exact waiting_change hstarted hu _
  refine ⟨hpop.once, fun u hu => hpop.parked u ?parked, fun u hu => ?rings, fun v u hu => ?waiters,
    fun v => ?nodup⟩
  case parked =>
    -- a ready task is not parked, and the others are as they were
    by_cases hne : u = t
    · subst hne
      rw [Parked, hready] at hu
      rcases hu with ⟨_, hu⟩ | ⟨_, hu⟩
      · cases hu
      · cases hu
    · rw [Parked, hsame hne] at hu
      exact hu
  case rings =>
    obtain ⟨seconds, hsleep⟩ := hpop.rings u hu
    exact ⟨seconds, hold hsleep⟩
  case waiters =>
    rw [hwaiters] at hu
    exact hold (hpop.waiters v u hu)
  case nodup =>
    rw [hwaiters]
    exact hpop.nodup v

/-- When a task is started everybody is spared, the task as well: it had
neither waited nor finished. -/
theorem Orderly.clerical_start (h : Orderly none ts) (hround : ts.round = .start t job :: rest) :
    Clerical none ts ({ ts with round := rest }.started t) := by
  have hactive := (h.pop hround (beq_self_eq_true t)).not_parked
  have hpop : Clerical none ts { ts with round := rest, current := t } :=
    clerical_pop_of_not_resume hround (fun _ _ => nofun) t
  have hready : Clerical (some t) { ts with round := rest, current := t }
      (({ ts with round := rest } : Tasks J).started t) := by
    refine .change fun r => ⟨fun hr => ?_, fun hr => absurd (.inr ⟨r, hr⟩) hactive⟩
    cases hr
  refine ⟨hready.length.trans hpop.length, fun u hu => (hpop.spares u hu).trans ?_,
    fun u r => (hready.cameTo u r).trans (hpop.cameTo u r),
    fun u job hmem => hpop.starts u job (hready.starts u job hmem)⟩
  by_cases hne : u = t
  · -- the task was not in a wait before it starts, and is in none now
    subst hne
    have hself := task_started (lt_of_not_parked hactive)
    have hcame (v : TaskId) (r : Wakeup) := (hready.cameTo v r).mpr
    refine ⟨hcame, fun hs => ?stricken, fun what hw => ?waits, fun hs => ?suspended,
      fun v hv => ?joins,
      fun what hw => ⟨fun v hv => ?expects, fun answer hmem => (hw.2 answer hmem).mono hcame⟩⟩
    case stricken =>
      rcases hs with hs | hs
      · refine .inl ?_
        rw [hself]
        exact hs
      · exact .inr hs
    case waits =>
      rcases hw with hw | hw
      · exact absurd (.inl ⟨what, hw⟩) hactive
      · exact .inr fun v hv hne => (hready.ended v).mpr (hw v hv hne)
    case suspended =>
      rcases hs with hs | hs
      · exact absurd (.inl hs) hactive
      · exact .inr hs
    case joins =>
      rw [hself] at hv
      cases hv
    case expects =>
      rw [hself] at hv
      cases hv
  · exact hready.spares u fun heq => hne (Option.some.inj heq).symm

/-- The timer of a sleeping task rings. -/
theorem Orderly.ring (h : Orderly none ts) (hround : ts.round = .ring t :: rest) :
    Orderly none ({ ts with round := rest }.wake t (.ok ())) ∧
      Clerical none ts ({ ts with round := rest }.wake t (.ok ())) := by
  have hdues := dues_pop hround
  have hfewer : Orderly none ({ ts with round := rest } : Tasks J) := by
    refine h.of_fewer rfl (fun u => ?_) fun u hu => ?_
    · rw [ways_pop hround]
      exact Nat.le_add_right _ _
    · rw [hdues]
      exact List.mem_cons_of_mem _ hu
  have hpop : Clerical none ts { ts with round := rest } :=
    clerical_pop_of_not_resume hround (fun _ _ => nofun) ts.current
  -- whoever a timer wakes sleeps, and is noted with nobody
  obtain ⟨seconds, hring⟩ := h.rings t (by rw [hdues]; exact List.mem_cons_self)
  have hsleep : (({ ts with round := rest } : Tasks J).task t).status = .waiting (.sleep seconds) :=
    hring
  refine ⟨hfewer.wake hsleep (hfewer.not_waiter fun v hv => ?_) _,
    hpop.trans (.wake hsleep nofun fun _ => .inl rfl)⟩
  rw [hsleep] at hv
  cases hv

end Begin

/-! ### A turn that ends in a wait -/

section Suspend

variable {what : Wait}

/-- What is arranged for the end of a wait: a timer, or a note with another task. -/
inductive Arranged (t : TaskId) (ts : Tasks J) : Wait → Tasks J → Prop
  | sleep (seconds : Double) : Arranged t ts (.sleep seconds) (ts.addTimer seconds (.ring t))
  | forever : Arranged t ts .forever ts
  | join (u : TaskId) (hne : u ≠ t) :
    Arranged t ts (.join u) (ts.change u fun task => { task with waiters := task.waiters ++ [t] })

/-- The record of a task that begins to wait. -/
def parkedAt (t : TaskId) (what : Wait) (ts : Tasks J) : Tasks J :=
  ts.change t fun task => { task with status := .waiting what }

/-- A task that begins to wait goes on in the next round, or waits for what is arranged; then a
cancellation that came while it was running strikes at once. -/
theorem suspend_cases (t : TaskId) (what : Wait) (ts : Tasks J) :
    ((∀ u, what = .join u → u = t) ∧
      ∃ answer, ((∀ u, what ≠ .join u) → answer = .ok ()) ∧
        ts.suspend t what = ts.enqueue (.resume t answer)) ∨
    ∃ ts', Arranged t ts what ts' ∧
      (ts.suspend t what = ts'.parkedAt t what ∨
        ts.suspend t what = ((ts'.parkedAt t what).change t fun task =>
          { task with cancelling := false }).cancel t) := by
  -- whatever is arranged, a cancellation that is marked already strikes the wait
  have hstrike (ts' : Tasks J) (harranged : Arranged t ts what ts')
      (heq : ts.suspend t what = if ((ts'.parkedAt t what).task t).cancelling then
        ((ts'.parkedAt t what).change t fun task => { task with cancelling := false }).cancel t
        else ts'.parkedAt t what) : ∃ ts', Arranged t ts what ts' ∧
      (ts.suspend t what = ts'.parkedAt t what ∨
        ts.suspend t what = ((ts'.parkedAt t what).change t fun task =>
          { task with cancelling := false }).cancel t) := by
    refine ⟨ts', harranged, ?_⟩
    rw [heq]
    split
    · exact .inr rfl
    · exact .inl rfl
  cases what with
  | turn => exact .inl ⟨fun u hu => (by cases hu), .ok (), fun _ => rfl, rfl⟩
  | forever => exact .inr (hstrike ts .forever rfl)
  | sleep seconds =>
    by_cases hle : seconds.le .zero = true
    · refine .inl ⟨fun u hu => (by cases hu), .ok (), fun _ => rfl, ?_⟩
      rw [suspend]
      exact if_pos hle
    · refine .inr (hstrike _ (.sleep seconds) ?_)
      rw [suspend]
      exact if_neg hle
  | join u =>
    -- nobody waits for himself: that fails at once
    by_cases hu : u = t
    · refine .inl ⟨fun v hv => ?_, .error .selfWait, fun hjoin => absurd rfl (hjoin u), ?_⟩
      · cases hv
        exact hu
      · rw [suspend]
        exact if_pos hu
    · refine .inr (hstrike _ (.join u hu) ?_)
      rw [suspend]
      exact if_neg hu

/-- What an arrangement changes: it may ring, and the task may be noted with the one it waits for. -/
structure Arrangement (t : TaskId) (what : Wait) (ts ts' : Tasks J) : Prop where
  length : ts'.table.length = ts.table.length
  status : ∀ u, (ts'.task u).status = (ts.task u).status
  cancelling : ∀ u, (ts'.task u).cancelling = (ts.task u).cancelling
  waiters : ∀ v u, u ∈ (ts'.task v).waiters → u ∈ (ts.task v).waiters ∨ (u = t ∧ what = .join v)
  nodup : ∀ v, (ts.task v).waiters.Nodup → t ∉ (ts.task v).waiters → (ts'.task v).waiters.Nodup
  dues : ∀ d ∈ ts.dues, d ∈ ts'.dues
  rings : ∀ d ∈ ts'.dues, d ∈ ts.dues ∨ (d = .ring t ∧ ∃ seconds, what = .sleep seconds)
  ways : ∀ u, ts'.ways u = ts.ways u

/-- A sleep is arranged by a timer, unless it never ends. -/
theorem arrangement_sleep (t : TaskId) (seconds : Double) (ts : Tasks J) :
    Arrangement t (.sleep seconds) ts (ts.addTimer seconds (.ring t)) := by
  have htable := table_addTimer ts seconds (.ring t)
  have htask := task_of_table htable
  have hadds := adds_addTimer ts seconds (.ring t)
  refine ⟨by rw [htable], fun u => by rw [htask], fun u => by rw [htask],
    fun v u hu => .inl ?waiters, fun v hv _ => ?nodup, fun _ => hadds.keeps,
    fun d hd => ?rings, fun u => ?ways⟩
  case waiters =>
    rw [htask] at hu
    exact hu
  case nodup =>
    rw [htask]
    exact hv
  case rings => exact (hadds.eq_or_mem hd).symm.imp_right fun heq => ⟨heq, seconds, rfl⟩
  case ways =>
    -- a timer lets nobody go on
    rcases hadds with hdues | hdues
    · rw [Tasks.ways, hdues, Tasks.ways]
    · rw [Tasks.ways, hdues.countP_eq, List.countP_cons]
      rfl

/-- A wait for another task is arranged by a note with that one. -/
theorem arrangement_join (t u : TaskId) (ts : Tasks J) :
    Arrangement t (.join u) ts
      (ts.change u fun task => { task with waiters := task.waiters ++ [t] }) := by
  refine ⟨length_change .., fun v => ?status, fun v => ?cancelling, fun v x hx => ?waiters,
    fun v hv hnot => ?nodup, fun _ => id, fun _ => .inl, fun _ => rfl⟩
  case status =>
    rw [task_change]
    split <;> rfl
  case cancelling =>
    rw [task_change]
    split <;> rfl
  case waiters =>
    rw [task_change] at hx
    split at hx
    · rename_i hv
      rcases List.mem_append.mp hx with hx | hx
      · exact .inl hx
      · exact .inr ⟨List.mem_singleton.mp hx, by rw [hv.1]⟩
    · exact .inl hx
  case nodup =>
    -- the waiter is new on the list, since whoever runs is on none
    rw [task_change]
    split
    · refine List.nodup_append.mpr ⟨hv, List.pairwise_singleton _ t, fun a ha b hb hab => ?_⟩
      rw [hab, List.mem_singleton.mp hb] at ha
      exact hnot ha
    · exact hv

/-- Every arrangement keeps to this. -/
theorem Arranged.arrangement (h : Arranged t ts what ts') : Arrangement t what ts ts' := by
  cases h with
  | forever =>
    exact ⟨rfl, fun _ => rfl, fun _ => rfl, fun _ _ => .inl, fun _ h _ => h, fun _ => id,
      fun _ => .inl, fun _ => rfl⟩
  | sleep seconds => exact arrangement_sleep t seconds ts
  | join u => exact arrangement_join t u ts

/-- A task begins to wait for what has been arranged, and nobody is active then. -/
theorem Orderly.parkedAt (h : Orderly (some t) ts) (harr : Arrangement t what ts ts') :
    Orderly none (ts'.parkedAt t what) := by
  have hactive := h.not_parked
  have hlt : t < ts'.table.length := by
    rw [harr.length]
    exact lt_of_not_parked hactive
  have hself : (ts'.parkedAt t what).task t = { ts'.task t with status := .waiting what } :=
    task_change_self hlt _
  have hother {u : TaskId} (hu : u ≠ t) : (ts'.parkedAt t what).task u = ts'.task u :=
    task_change_of_ne hu _
  have hold {u : TaskId} {other : Wait} (hu : (ts.task u).status = .waiting other) :
      ((ts'.parkedAt t what).task u).status = .waiting other := by
    refine waiting_change ?_ ?_ _
    · rw [Parked, harr.status]
      exact hactive
    · rw [harr.status]
      exact hu
  have hwaiters (u : TaskId) : ((ts'.parkedAt t what).task u).waiters = (ts'.task u).waiters := by
    by_cases hu : u = t
    · rw [hu, hself]
    · rw [hother hu]
  refine ⟨fun u => ?once, fun u hu => ⟨?parked, (Option.some_ne_none u).symm⟩, fun u hu => ?rings,
    fun v u hu => ?waiters, fun v => ?nodup⟩
  case once =>
    show ts'.ways u + 0 ≤ 1
    rw [harr.ways]
    exact Nat.le_trans (Nat.le_add_right _ _) (h.once u)
  case parked =>
    -- nothing was due to the active task, and nothing new is due to the others
    show ts'.ways u = 0
    rw [harr.ways]
    by_cases hne : u = t
    · rw [hne]
      exact h.ways_active
    · rw [Parked, hother hne, harr.status] at hu
      exact (h.parked u hu).1
  case rings =>
    -- the timer has been there before, or is the one that was just started
    rcases harr.rings _ hu with hu | ⟨heq, seconds, hsleep⟩
    · obtain ⟨seconds, hsleep⟩ := h.rings u hu
      exact ⟨seconds, hold hsleep⟩
    · cases heq
      exact ⟨seconds, by rw [hself, hsleep]⟩
  case waiters =>
    -- the one who was noted just now is the one who begins to wait
    rw [hwaiters] at hu
    rcases harr.waiters v u hu with hu | ⟨rfl, rfl⟩
    · exact hold (h.waiters v u hu)
    · rw [hself]
  case nodup =>
    rw [hwaiters]
    refine harr.nodup v (h.nodup v) (h.not_waiter (fun x hx => ?_) v)
    exact hactive (.inl ⟨_, hx⟩)

/-- When a task begins to wait the others are spared. -/
theorem clerical_parkedAt (hactive : ¬ ts.Parked t) (harr : Arrangement t what ts ts') :
    Clerical (some t) ts (ts'.parkedAt t what) := by
  -- the arrangement finishes nobody and makes no answer due
  have harranged : Clerical (some t) ts ts' := by
    have hcame (u : TaskId) (r : Wakeup) : ts'.CameTo u r ↔ ts.CameTo u r := by
      rw [CameTo, CameTo, outcome?_eq_some_iff, outcome?_eq_some_iff, harr.length, harr.status]
    refine ⟨harr.length, fun u hu => ?_, hcame, fun u job hmem => ?_⟩
    · refine .of_record (fun v r => (hcame v r).mpr) (harr.status u) (fun hc => ?_)
        fun a => ⟨fun ha => ?_, harr.dues _⟩
      · rw [harr.cancelling]
        exact hc
      · rcases harr.rings _ ha with ha | ⟨heq, -⟩
        · exact ha
        · cases heq
    · rcases harr.rings _ hmem with hmem | ⟨heq, -⟩
      · exact hmem
      · cases heq
  refine harranged.trans (.change fun r => ⟨fun hr => ?_, fun hr => ?_⟩)
  · cases hr
  · rw [harr.status] at hr
    exact absurd (.inr ⟨r, hr⟩) hactive

/-- A task whose wait is over at once goes on in the next round. -/
theorem Orderly.enqueue_resume (h : Orderly (some t) ts) (answer : Wakeup) :
    Orderly none (ts.enqueue (.resume t answer)) ∧
      Clerical (some t) ts (ts.enqueue (.resume t answer)) := by
  have hadds := adds_enqueue ts (.resume t answer)
  have hactive := h.not_parked
  refine ⟨⟨fun u => ?once, fun u hu => ⟨?parked, nofun⟩, fun u hu => ?rings, h.waiters, h.nodup⟩,
    ?clerical⟩
  case once =>
    rw [ways_enqueue]
    -- the step that ends is made up for by the answer that is due
    refine Nat.le_trans (Nat.le_of_eq ?_) (h.once u)
    show _ + (if (t == u) = true then 1 else 0) + 0 = _
    simp
  case parked =>
    have hne : t ≠ u := by
      rintro rfl
      exact hactive hu
    rw [ways_enqueue, (h.parked u hu).1, Due.lets, beq_false_of_ne hne]
    rfl
  case rings => exact h.rings u ((hadds.eq_or_mem hu).resolve_left fun heq => by cases heq)
  case clerical =>
    refine .of_dues rfl (fun u a hu => ⟨fun hmem => ?_, hadds.keeps⟩) fun u job hmem => ?_
    · refine (hadds.eq_or_mem hmem).resolve_left fun heq => hu ?_
      cases heq
      rfl
    · exact (hadds.eq_or_mem hmem).resolve_left fun heq => by cases heq

/-- Nothing is due yet to a task that begins to wait. -/
theorem Orderly.expects_parkedAt (h : Orderly (some t) ts) (harr : Arrangement t what ts ts') :
    (ts'.parkedAt t what).Expects t what := by
  have hself : (ts'.parkedAt t what).task t = { ts'.task t with status := .waiting what } := by
    refine task_change_self ?_ _
    rw [harr.length]
    exact h.lt_of_active
  refine ⟨fun other hother => ?_, fun answer hmem => ?_⟩
  · rw [hself] at hother
    cases hother
    rfl
  · rcases harr.rings _ hmem with hold | ⟨heq, -⟩
    · have hnot := h.not_due hold
      rw [Due.lets, beq_self_eq_true] at hnot
      cases hnot
    · cases heq

/-- A task begins to wait: the records stay in order, the others are spared, and it waits for what
it is to wait for. -/
theorem Orderly.suspend (h : Orderly (some t) ts) (what : Wait) :
    Orderly none (ts.suspend t what) ∧ Clerical (some t) ts (ts.suspend t what) ∧
      (ts.suspend t what).Waits t what ∧ (ts.suspend t what).Suspended t ∧
      ∀ u, ((ts.suspend t what).task t).status = .waiting (.join u) → what = .join u := by
  have hactive := h.not_parked
  rcases suspend_cases t what ts with ⟨hself, answer, -, heq⟩ | ⟨ts', harranged, heq⟩
  · -- the wait is over at once
    obtain ⟨ho, hc⟩ := h.enqueue_resume answer
    rw [heq]
    refine ⟨ho, hc, .inr fun u hu hne => absurd (hself u hu) hne, .inr ⟨answer, ?_⟩, fun u hu => ?_⟩
    · exact (dues_enqueue ts _).mem_iff.mpr List.mem_cons_self
    · exact absurd (.inl ⟨_, hu⟩) hactive
  · -- the wait is arranged, and the task begins to wait
    have harr := harranged.arrangement
    have ho := h.parkedAt harr
    have hc := clerical_parkedAt hactive harr
    have hstatus : ((ts'.parkedAt t what).task t).status = .waiting what := by
      rw [Tasks.parkedAt, task_change_self]
      rw [harr.length]
      exact lt_of_not_parked hactive
    rcases heq with heq | heq
    · rw [heq]
      refine ⟨ho, hc, .inl hstatus, .inl ⟨what, hstatus⟩, fun u hu => ?_⟩
      rw [hstatus] at hu
      cases hu
      rfl
    · -- the cancellation strikes the wait, or is passed on
      have hnote : Orderly none ((ts'.parkedAt t what).change t fun task =>
          { task with cancelling := false }) := ho.note (fun _ => rfl) fun _ => rfl
      have hsame : (((ts'.parkedAt t what).change t fun task =>
          { task with cancelling := false }).task t).status = .waiting what := by
        rw [task_change]
        split <;> exact hstatus
      have hspares := spares_cancel ((ts'.parkedAt t what).change t fun task =>
        { task with cancelling := false }) t t
      rw [heq]
      refine ⟨hnote.cancel t, (hc.trans (.change ?_)).trans (.cancel _ _ t),
        hspares.waits what (.inl hsame), hspares.suspended (.inl ⟨what, hsame⟩), fun u hu => ?_⟩
      · exact fun _ => Iff.rfl
      · have hjoin := hspares.joins u hu
        rw [hsame] at hjoin
        cases hjoin
        rfl

/-- A task that begins to wait expects what it waits for. -/
theorem Orderly.expects_suspend (h : Orderly (some t) ts) (what : Wait) :
    (ts.suspend t what).Expects t what := by
  rcases suspend_cases t what ts with ⟨hself, answer, hanswer, heq⟩ | ⟨ts', harranged, heq⟩
  · rw [heq]
    refine ⟨fun other hother => absurd (.inl ⟨other, hother⟩) h.not_parked, fun answer' hmem => ?_⟩
    rcases (adds_enqueue ts _).eq_or_mem hmem with heq | hold
    · cases heq
      by_cases hwhat : ∃ u, what = .join u
      · obtain ⟨u, hu⟩ := hwhat
        exact .inr (.inr ⟨u, hu, .inl (hself u hu)⟩)
      · have hnone (u : TaskId) : what ≠ .join u := fun hu => hwhat ⟨u, hu⟩
        exact .inr (.inl ⟨hnone, hanswer hnone⟩)
    · have hnot := h.not_due hold
      rw [Due.lets, beq_self_eq_true] at hnot
      cases hnot
  · -- the wait is arranged, and a cancellation that strikes it is always granted
    have hexpects := h.expects_parkedAt harranged.arrangement
    rcases heq with heq | heq
    · rw [heq]
      exact hexpects
    · rw [heq]
      -- that the cancellation is not due any more is noted, and changes nothing about the wait
      refine (spares_cancel _ t t).expects what ⟨fun other hother => hexpects.1 other ?_,
        fun answer hmem => (hexpects.2 answer hmem).mono fun u r hout => (cameTo_change u ?_).mpr hout⟩
      · rw [task_change] at hother
        split at hother
        · exact hother
        · exact hother
      · exact Iff.rfl

end Suspend

/-! ### The end of a task -/

/-- Those who wait for a task that has finished are woken. -/
theorem wakeAll (waiters : List TaskId) (answer : Wakeup) (h : Orderly active ts)
    (hcame : ts.CameTo t answer) (hnone : (ts.task t).waiters = [])
    (hwaiting : ∀ u ∈ waiters, (ts.task u).status = .waiting (.join t)) (hnodup : waiters.Nodup) :
    Orderly active (waiters.foldl (fun ts u => ts.wake u answer) ts) ∧
      Clerical none ts (waiters.foldl (fun ts u => ts.wake u answer) ts) := by
  -- who is woken is on no list any more: it waited for the task that has finished alone
  induction waiters generalizing ts with
  | nil => exact ⟨h, .refl none ts⟩
  | cons u rest ih =>
    have hu := hwaiting u List.mem_cons_self
    -- nobody is on two lists, and that of the finished task has been emptied
    have hfree (v : TaskId) : u ∉ (ts.task v).waiters := by
      intro hmem
      have hjoin := h.waiters v u hmem
      rw [hu] at hjoin
      cases hjoin
      rw [hnone] at hmem
      cases hmem
    have hc : Clerical none ts (ts.wake u answer) := by
      refine .wake hu (fun x hx => ?_) fun hjoin => absurd rfl (hjoin t)
      cases hx
      exact hcame
    obtain ⟨hnot, hrest⟩ := List.nodup_cons.mp hnodup
    -- the others still wait: waking this one does not touch their records
    obtain ⟨ho, hc'⟩ := ih (h.wake hu hfree answer) ((hc.cameTo t answer).mpr hcame) (by
      rw [task_wake]
      split <;> exact hnone) (fun v hv => by
      rw [task_wake, if_neg]
      · exact hwaiting v (List.mem_cons_of_mem u hv)
      · rintro ⟨rfl, -⟩
        exact hnot hv) hrest
    exact ⟨ho, hc.trans hc'⟩

/-- The records once it is entered what a task came to, before those who wait for it are woken. -/
def conclude (t : TaskId) (outcome : Wakeup) (ts : Tasks J) : Tasks J :=
  ts.change t fun task => { task with status := .finished outcome, waiters := [] }

section Conclude

variable (ht : ¬ ts.Parked t) (outcome : Wakeup)

include ht

theorem task_conclude_self : (ts.conclude t outcome).task t
    = { ts.task t with status := .finished outcome, waiters := [] } :=
  task_change_self (lt_of_not_parked ht) _

omit ht in
theorem task_conclude_of_ne {u : TaskId} (hu : u ≠ t) :
    (ts.conclude t outcome).task u = ts.task u := task_change_of_ne hu _

/-- The task has come to its outcome, and nobody else to anything new. -/
theorem cameTo_conclude (u : TaskId) (r : Wakeup) :
    (ts.conclude t outcome).CameTo u r ↔ ts.CameTo u r ∨ (u = t ∧ r = outcome) := by
  rw [CameTo, CameTo, outcome?_eq_some_iff, outcome?_eq_some_iff, conclude, length_change, ← conclude]
  by_cases hu : u = t
  · rw [hu, task_conclude_self ht]
    constructor
    · rintro ⟨-, heq⟩
      cases heq
      exact .inr ⟨rfl, rfl⟩
    · rintro (⟨-, hfinished⟩ | ⟨-, rfl⟩)
      · exact absurd (.inr ⟨r, hfinished⟩) ht
      · exact ⟨lt_of_not_parked ht, rfl⟩
  · rw [task_conclude_of_ne outcome hu]
    exact ⟨.inl, fun h => h.resolve_right fun heq => hu heq.1⟩

/-- The others are spared when a task ends; those who wait for it are woken by the next steps. -/
theorem spares_conclude {u : TaskId} (hu : u ≠ t) : Spares u ts (ts.conclude t outcome) := by
  refine .of_record (fun v r hv => ?_) ?_ ?_ fun _ => Iff.rfl
  · exact (cameTo_conclude ht outcome v r).mpr (.inl hv)
  · rw [task_conclude_of_ne outcome hu]
  · rw [task_conclude_of_ne outcome hu]
    exact id

omit ht in
/-- A task that has ended is not active any more, and none is noted as waiting for it. -/
theorem Orderly.conclude (h : Orderly (some t) ts) : Orderly none (ts.conclude t outcome) := by
  have ht := h.not_parked
  refine ⟨fun u => ?once, fun u hu => ⟨?parked, (Option.some_ne_none u).symm⟩, fun u hu => ?rings,
    fun v u hu => ?waiters, fun v => ?nodup⟩
  case once => exact Nat.le_trans (Nat.le_add_right _ _) (h.once u)
  case parked =>
    by_cases hne : u = t
    · rw [hne]
      exact h.ways_active
    · rw [Parked, task_conclude_of_ne outcome hne] at hu
      exact (h.parked u hu).1
  case rings =>
    obtain ⟨seconds, hsleep⟩ := h.rings u hu
    exact ⟨seconds, waiting_change ht hsleep _⟩
  case waiters =>
    -- its own list is empty now, and the others still wait for whom they waited
    by_cases hv : v = t
    · rw [hv, task_conclude_self ht] at hu
      cases hu
    · rw [task_conclude_of_ne outcome hv] at hu
      exact waiting_change ht (h.waiters v u hu) _
  case nodup =>
    by_cases hv : v = t
    · rw [hv, task_conclude_self ht]
      exact List.nodup_nil
    · rw [task_conclude_of_ne outcome hv]
      exact h.nodup v

end Conclude

/-- A task ends: the records stay in order, it has come to its outcome, and the others are spared. -/
theorem Orderly.finish (h : Orderly (some t) ts) (outcome : Wakeup) :
    Orderly none (ts.finish t outcome) ∧
      (ts.finish t outcome).table.length = ts.table.length ∧
      (∀ u, u ≠ t → Spares u ts (ts.finish t outcome)) ∧
      (∀ u r, (ts.finish t outcome).CameTo u r ↔ ts.CameTo u r ∨ (u = t ∧ r = outcome)) ∧
      ∀ u job, .start u job ∈ (ts.finish t outcome).dues → .start u job ∈ ts.dues := by
  have ht := h.not_parked
  have hself : (ts.conclude t outcome).CameTo t outcome :=
    (cameTo_conclude ht outcome t outcome).mpr (.inr ⟨rfl, rfl⟩)
  -- first the outcome is entered, and then all who wait for the task are woken with it
  obtain ⟨ho, hc⟩ := wakeAll (ts.task t).waiters outcome (h.conclude outcome) hself
    (by rw [task_conclude_self ht]) (fun u hu => waiting_change ht (h.waiters t u hu) _)
    (h.nodup t)
  refine ⟨ho, hc.length.trans (length_change ..), fun u hu => ?_, fun u r => ?_, hc.starts⟩
  · exact (spares_conclude ht outcome hu).trans (hc.spares u (Option.some_ne_none u).symm)
  · exact (hc.cameTo u r).trans (cameTo_conclude ht outcome u r)

end ResumableWatch.Tasks
