import ResumableWatch.Proofs.Supervisor.Loop
/-!
# The tasks on record

A supervisor keeps a list of the tasks that it watches over, and a stop that has waited for these
empties it.  A start that comes while a stop waits puts two new tasks on the list, which are struck
off with the old ones; so what follows holds as long as starts and stops come in turn: whatever loop
is alive is on record, and when a stop returns none is alive (`starts_and_stops_compose`).

A stop waits for the loops one after the other, and gives up when one of them has failed otherwise
than by a cancellation.  No ordinary failure ends a loop, so this is left out as well
(`Supervised.Hale`).
-/

namespace ResumableWatch

open ResumableWatch.Fiber Supervised

/-! ### What is on record -/

/-- Every other one of a list, from the first on. -/
def everyOther {α : Type} : List α → List α
  | first :: _ :: rest => first :: everyOther rest
  | rest => rest

theorem mem_of_mem_everyOther {α : Type} {a : α} {l : List α} (h : a ∈ everyOther l) : a ∈ l := by
  fun_induction everyOther l with
  | case1 first second rest ih =>
    rcases List.mem_cons.mp h with rfl | hrest
    · exact List.mem_cons_self
    · exact List.mem_cons_of_mem _ (List.mem_cons_of_mem _ (ih hrest))
  | case2 rest => exact h

/-- All poll loops that the supervisor was ever given, one at each start. -/
def Supervisor.pollLoops (supervisor : Supervisor) : List TaskId := everyOther supervisor.launched

namespace Supervised

variable (S : Supervised)

/-- All loops that the supervisor was ever given. -/
abbrev launched (w : World) : List TaskId := (w.supervisor S.supervisor).launched

/-- No loop has failed otherwise than by a cancellation. -/
def Hale (w : World) : Prop :=
  ∀ u ∈ S.launched w, ∀ failure, w.tasks.CameTo u (.error failure) → failure = .cancelled

/-- Starts and stops have come in turn, and no loop has failed otherwise than by a cancellation. -/
def Regular (w : World) : Prop := S.InTurn w ∧ S.Hale w

/-- All loops have ended. -/
def AllEnded (w : World) : Prop := ∀ u ∈ S.launched w, w.tasks.Ended u

/-- The records are right. -/
structure Recorded (w : World) : Prop where
  known : ∀ u ∈ S.launched w, u < w.tasks.table.length
  nodup : (S.launched w).Nodup
  /-- What is on record was put there by the last start. -/
  last : (w.supervisor S.supervisor).tasks = [] ∨ ∃ poll status older,
    (w.supervisor S.supervisor).tasks = [poll, status] ∧ S.launched w = poll :: status :: older
  recorded : ∀ u ∈ S.launched w, u ∈ (w.supervisor S.supervisor).tasks ∨ w.tasks.Ended u
  /-- A supervisor that neither runs nor is being stopped has no loop alive. -/
  free : (w.supervisor S.supervisor).stoppers = [] →
    (w.supervisor S.supervisor).running = true ∨ S.AllEnded w

/-- What a task may count on that does not act. -/
structure Leaves (t : TaskId) (w w' : World) : Prop where
  regular : S.Regular w' → S.Regular w
  tasks : w.tasks.Spares t w'.tasks
  length : w.tasks.table.length ≤ w'.tasks.table.length
  count : (w'.supervisor S.supervisor).stoppers.count t
    = (w.supervisor S.supervisor).stoppers.count t
  /-- It is not made a loop of the supervisor. -/
  launched : ∀ u ∈ S.launched w', u < w.tasks.table.length → u ∈ S.launched w
  /-- While it stops the supervisor, nobody starts that. -/
  stopping : S.Regular w' → t ∈ (w.supervisor S.supervisor).stoppers →
    S.launched w' = S.launched w

/-- What a task may take on. -/
inductive Takes (t : TaskId) (w : World) : Job → Prop
  | poll : Takes t w (.pollLoop S.supervisor)
  | report : Takes t w (.statusLoop S.supervisor)
  | other {job : Job} : S.Other job → (S.Regular w → t ∉ S.launched w) → Takes t w job

/-- What holds of each change: when a stop comes to its end, no loop is alive. -/
def EndsStops (w w' : World) : Prop :=
  S.Regular w' →
    (w'.supervisor S.supervisor).stoppers.length < (w.supervisor S.supervisor).stoppers.length →
      S.AllEnded w'

variable {S} {t u : TaskId} {job : Job} {w₀ w w' w'' : World} {ts : Tasks Job}

/-- Poll loops that are on record are one. -/
theorem Recorded.one_poll (h : S.Recorded w) {v : TaskId}
    (hu : u ∈ (w.supervisor S.supervisor).pollLoops) (hv : v ∈ (w.supervisor S.supervisor).pollLoops)
    (hu' : ¬ w.tasks.Ended u) (hv' : ¬ w.tasks.Ended v) : u = v := by
  -- whoever is alive is on record, and of the two there only the first one is a poll loop
  have hfirst (x : TaskId) (hx : x ∈ (w.supervisor S.supervisor).pollLoops)
      (hx' : ¬ w.tasks.Ended x) : (w.supervisor S.supervisor).tasks.head? = some x := by
    have hmem := (h.recorded x (mem_of_mem_everyOther hx)).resolve_right hx'
    rcases h.last with hnone | ⟨poll, status, older, htasks, hlaunched⟩
    · rw [hnone] at hmem
      cases hmem
    · have hnodup := h.nodup
      rw [hlaunched] at hnodup
      replace hx : x ∈ everyOther (S.launched w) := hx
      rw [hlaunched, everyOther] at hx
      rw [htasks] at hmem ⊢
      rcases List.mem_cons.mp hmem with rfl | hmem
      · rfl
      · obtain rfl := List.mem_singleton.mp hmem
        exfalso
        obtain ⟨hpoll, hrest⟩ := List.nodup_cons.mp hnodup
        rcases List.mem_cons.mp hx with rfl | hx
        · exact hpoll List.mem_cons_self
        · exact (List.nodup_cons.mp hrest).1 (mem_of_mem_everyOther hx)
  exact Option.some.inj ((hfirst u hu hu').symm.trans (hfirst v hv hv'))

/-! ### The discipline -/

/-- A failure that has come up does not go away. -/
theorem Hale.of_later (h : S.Hale w') (hlaunched : ∀ u ∈ S.launched w, u ∈ S.launched w')
    (hcame : ∀ u r, w.tasks.CameTo u r → w'.tasks.CameTo u r) : S.Hale w :=
  fun u hu failure hout => h u (hlaunched u hu) failure (hcame u _ hout)

/-- What has been regular up to here was so before the books changed. -/
theorem regular_withTasks (hcame : ∀ u r, w.tasks.CameTo u r → ts.CameTo u r)
    (h : S.Regular (w.withTasks ts)) : S.Regular w :=
  ⟨h.1, h.2.of_later (fun _ hu => hu) hcame⟩

namespace Leaves

theorem refl (t : TaskId) (w : World) : S.Leaves t w w :=
  ⟨id, .refl t _, Nat.le_refl _, rfl, fun _ hu _ => hu, fun _ _ => rfl⟩

theorem trans (h₁ : S.Leaves t w w') (h₂ : S.Leaves t w' w'') : S.Leaves t w w'' where
  regular h := h₁.regular (h₂.regular h)
  tasks := h₁.tasks.trans h₂.tasks
  length := Nat.le_trans h₁.length h₂.length
  count := h₂.count.trans h₁.count
  launched u hu hlt := h₁.launched u (h₂.launched u hu (Nat.lt_of_lt_of_le hlt h₁.length)) hlt
  stopping h hmem := by
    have hmem' : t ∈ (w'.supervisor S.supervisor).stoppers := by
      rw [← List.count_pos_iff, h₁.count]
      exact List.count_pos_iff.mpr hmem
    exact (h₂.stopping h hmem').trans (h₁.stopping (h₂.regular h) hmem)

theorem withTasks (htasks : w.tasks.Spares t ts)
    (hlength : ts.table.length = w.tasks.table.length) : S.Leaves t w (w.withTasks ts) where
  regular := regular_withTasks htasks.cameTo
  tasks := htasks
  length := Nat.le_of_eq hlength.symm
  count := rfl
  launched _ hu _ := hu
  stopping _ _ := rfl

end Leaves

/-- Loops that have ended stay so, as long as no new ones are launched. -/
theorem AllEnded.later (h : S.AllEnded w) (hlaunched : S.launched w' = S.launched w)
    (hended : ∀ u, w.tasks.Ended u → w'.tasks.Ended u) : S.AllEnded w' := by
  intro u hu
  rw [hlaunched] at hu
  exact hended u (h u hu)

/-- The records stay right when tasks end. -/
theorem Recorded.withTasks (h : S.Recorded w) (hlength : ts.table.length = w.tasks.table.length)
    (hended : ∀ u, w.tasks.Ended u → ts.Ended u) : S.Recorded (w.withTasks ts) where
  known u hu := by
    rw [World.withTasks, hlength]
    exact h.known u hu
  nodup := h.nodup
  last := h.last
  recorded u hu := (h.recorded u hu).imp_right (hended u)
  free hnone := (h.free hnone).imp_right fun hall => hall.later rfl hended

/-- A task that is none of the loops is not made one by the others. -/
theorem Takes.later (h : S.Takes t w job) (hleaves : S.Leaves t w w')
    (hlt : t < w.tasks.table.length) : S.Takes t w' job := by
  cases h with
  | poll => exact .poll
  | report => exact .report
  | other hother hnot =>
    refine .other hother fun hregular hmem => ?_
    exact hnot (hleaves.regular hregular) (hleaves.launched t hmem hlt)

/-- The job may still be taken on where nothing has been launched meanwhile. -/
theorem Takes.of_launched (h : S.Takes t w job) (hlaunched : S.launched w' = S.launched w)
    (hregular : S.Regular w' → S.Regular w) : S.Takes t w' job := by
  cases h with
  | poll => exact .poll
  | report => exact .report
  | other hother hnot =>
    refine .other hother fun hregular' => ?_
    rw [hlaunched]
    exact hnot (hregular hregular')

/-- A task that does something else is none of the loops. -/
theorem Takes.not_launched (h : S.Takes t w job) (hother : S.Other job) (hregular : S.Regular w) :
    t ∉ S.launched w := by
  cases h with
  | poll => exact absurd rfl (S.apart hother).1
  | report => exact absurd rfl (S.apart hother).2
  | other _ hnot => exact hnot hregular

variable (S)

/-- What the tasks around a supervisor keep to, so that its records are right. -/
def recording : Discipline where
  Inv w := S.supervisor < w.supervisors.length ∧ (S.Regular w → S.Recorded w)
  Spares := S.Leaves
  Plays t job w := S.Takes t w job
  Rests _ _ _ := True
  change := S.EndsStops
  refl := Leaves.refl
  trans := Leaves.trans
  books hinv hlength hcame := by
    refine ⟨hinv.1, fun hregular => ?_⟩
    refine (hinv.2 (regular_withTasks (fun u r => (hcame u r).mpr) hregular)).withTasks hlength ?_
    exact fun u => (Tasks.ended_congr (hcame u)).mpr
  ends hinv _ hlength hcame := by
    have hkept (u : TaskId) (r : Wakeup) := fun h => (hcame u r).mpr (.inl h)
    refine ⟨hinv.1, fun hregular => ?_⟩
    refine (hinv.2 (regular_withTasks hkept hregular)).withTasks hlength fun u hu => ?_
    obtain ⟨r, hr⟩ := Tasks.ended_iff.mp hu
    exact (hkept u r hr).ended
  spared htasks hlength _ := .withTasks htasks hlength
  spared_end _ _ _ htasks hlength _ := .withTasks htasks hlength
  plays h hleaves hlt _ := h.later hleaves hlt
  rests _ _ := trivial

/-! ### In the midst of a turn -/

/-- A change by which the supervisor keeps all its tasks, and is given none. -/
structure Keeps (w w' : World) : Prop where
  within : w.tasks.Within w'.tasks
  starts : ∀ u job, .start u job ∈ w'.tasks.dues →
    .start u job ∈ w.tasks.dues ∨ (S.Other job ∧ w.tasks.table.length ≤ u)
  supervisors : w.supervisors.length ≤ w'.supervisors.length
  overlapped : (w'.supervisor S.supervisor).overlapped = (w.supervisor S.supervisor).overlapped
  tasks : (w'.supervisor S.supervisor).tasks = (w.supervisor S.supervisor).tasks
  launched : S.launched w' = S.launched w

/-- What a task that takes on a job knows in the midst of a turn that it began in `w₀`. -/
structure Engaged (t : TaskId) (job : Job) (w₀ w : World) : Prop where
  yields : S.recording.Yields t w₀ w
  current : w.tasks.current = t
  orderly : w.tasks.Orderly (some t)
  takes : S.Takes t w job

/-- What a task finds that has been answered. -/
structure Meanwhile (t : TaskId) (w w' : World) : Prop where
  regular : S.Regular w' → S.Regular w
  stops : t ∈ (w.supervisor S.supervisor).stoppers → t ∈ (w'.supervisor S.supervisor).stoppers
  stopping : S.Regular w' → t ∈ (w.supervisor S.supervisor).stoppers →
    S.launched w' = S.launched w
  cameTo : ∀ u r, w.tasks.CameTo u r → w'.tasks.CameTo u r

variable {S}

theorem Meek.keeps (h : S.Meek w w') : S.Keeps w w' where
  within := h.tasks.within
  starts u job hmem := (h.tasks.starts hmem).imp_right
    fun ⟨hother, hnew⟩ => ⟨hother, hnew ▸ Nat.le_refl _⟩
  supervisors := h.supervisors
  overlapped := by rw [h.supervisor]
  tasks := by rw [h.supervisor]
  launched := by rw [launched, h.supervisor]

/-- The supervisor is changed but for its tasks; those may be cancelled. -/
theorem keeps_of_control {f : Supervisor → Supervisor} (hs : S.supervisor < w.supervisors.length)
    (hoverlapped : (f (w.supervisor S.supervisor)).overlapped = (w.supervisor S.supervisor).overlapped)
    (htasks : (f (w.supervisor S.supervisor)).tasks = (w.supervisor S.supervisor).tasks)
    (hlaunched : (f (w.supervisor S.supervisor)).launched = (w.supervisor S.supervisor).launched)
    (hwithin : w.tasks.Within ts) (hclerical : Tasks.Clerical none w.tasks ts) :
    S.Keeps w ((w.changeSupervisor S.supervisor f).withTasks ts) := by
  have hsupervisor : ((w.changeSupervisor S.supervisor f).withTasks ts).supervisor S.supervisor
      = f (w.supervisor S.supervisor) := World.supervisor_changeSupervisor hs f
  refine ⟨hwithin, fun u job hmem => .inl (hclerical.starts u job hmem), ?supervisors, ?overlapped,
    ?tasks, ?launched⟩
  case supervisors => exact Nat.le_of_eq (World.length_changeSupervisor w S.supervisor f).symm
  case overlapped =>
    rw [hsupervisor]
    exact hoverlapped
  case tasks =>
    -- the tasks on record are those that were there
    rw [hsupervisor]
    exact htasks
  case launched =>
    rw [launched, hsupervisor]
    exact hlaunched

/-- What keeps the records launches nothing and ends nobody, so it is regular before as after. -/
theorem Keeps.regular (h : S.Keeps w w') : S.Regular w' ↔ S.Regular w := by
  rw [Regular, Regular, InTurn, InTurn, h.overlapped, Hale, Hale, h.launched]
  refine and_congr_right fun _ => forall₂_congr fun u _ => forall_congr' fun failure => ?_
  rw [h.within.cameTo]

theorem Keeps.allEnded (h : S.Keeps w w') (hall : S.AllEnded w) : S.AllEnded w' :=
  hall.later h.launched fun u => (h.within.ended u).mpr

theorem endsStops_of_stoppers (h : (w.supervisor S.supervisor).stoppers.length ≤
    (w'.supervisor S.supervisor).stoppers.length) : S.EndsStops w w' :=
  fun _ hless => absurd hless (Nat.not_lt_of_le h)

namespace Engaged

theorem inv (h : S.Engaged t job w₀ w) :
    S.supervisor < w.supervisors.length ∧ (S.Regular w → S.Recorded w) := h.yields.inv

/-- The turn goes on. -/
theorem step (h : S.Engaged t job w₀ w) (hwithin : w.tasks.Within w'.tasks)
    (hyields : S.recording.Yields t w w') (htakes : S.Takes t w' job) : S.Engaged t job w₀ w' where
  yields := h.yields.trans hyields h.orderly hwithin
  current := hwithin.current.trans h.current
  orderly := hwithin.orderly _ h.orderly
  takes := htakes

/-- A new turn begins. -/
theorem answered (h : S.Engaged t job w₀ w) {what : Wait} {answer : Wakeup}
    (hresumed : S.recording.Resumed t w what answer w') :
    S.Engaged t job w' w' ∧ S.Meanwhile t w w' := by
  obtain ⟨found, hleaves, heq, hlength, hcame, -, -⟩ := hresumed.meanwhile
  replace hleaves : S.Leaves t (w.withTasks (w.tasks.suspend t what)) found := hleaves
  obtain ⟨-, hclerical, -, -, -⟩ := h.orderly.suspend what
  have hlt : t < (w.tasks.suspend t what).table.length := by
    rw [hclerical.length]
    exact h.orderly.lt_of_active
  have hsupervisor : w'.supervisor S.supervisor = found.supervisor S.supervisor := by rw [heq]; rfl
  -- the books change before and after what the others do, and neither makes
  -- anything regular that was not
  have hafter (hregular : S.Regular w') : S.Regular found := by
    rw [heq] at hregular
    exact regular_withTasks (fun u r => (hcame u r).mpr) hregular
  have hbefore : S.Regular (w.withTasks (w.tasks.suspend t what)) → S.Regular w :=
    regular_withTasks fun u r => (hclerical.cameTo u r).mpr
  refine ⟨⟨.refl hresumed.inv t, hresumed.current, hresumed.orderly, ?takes⟩,
    fun hregular => hbefore (hleaves.regular (hafter hregular)), fun hmem => ?stops,
    fun hregular hmem => ?stopping, fun u r hout => ?cameTo⟩
  case takes =>
    -- suspending, the turns of the others, going on: in none of them does the task become a loop
    have htakes : S.Takes t (w.withTasks (w.tasks.suspend t what)) job :=
      h.takes.of_launched rfl hbefore
    refine (htakes.later hleaves hlt).of_launched ?_ hafter
    rw [launched, hsupervisor]
  case stops =>
    rw [hsupervisor]
    refine List.count_pos_iff.mp ?_
    rw [hleaves.count]
    exact List.count_pos_iff.mpr hmem
  case stopping =>
    -- while it is stopping the supervisor nobody else starts that
    rw [launched, hsupervisor]
    exact hleaves.stopping (hafter hregular) hmem
  case cameTo => exact (hcame u r).mpr (hleaves.tasks.cameTo u r ((hclerical.cameTo u r).mpr hout))

/-- Only what the supervisor does with its tasks is changed. -/
theorem keeps (h : S.Engaged t job w₀ w) (hkeeps : S.Keeps w w')
    (hcount : ∀ u, u ≠ t → (w'.supervisor S.supervisor).stoppers.count u
      = (w.supervisor S.supervisor).stoppers.count u)
    (hfree : S.Regular w → (w'.supervisor S.supervisor).stoppers = [] →
      (w'.supervisor S.supervisor).running = true ∨ S.AllEnded w) : S.Engaged t job w₀ w' := by
  refine h.step hkeeps.within
    ⟨⟨Nat.lt_of_lt_of_le h.inv.1 hkeeps.supervisors, fun hregular => ?recorded⟩,
      fun u hu _ => ?leaves, fun u job hmem => ?starts⟩ ?takes
  case recorded =>
    have hrecorded := h.inv.2 (hkeeps.regular.mp hregular)
    refine ⟨fun u hu => ?known, ?nodup, ?last, fun u hu => ?recorded, fun hnone => ?free⟩
    case known =>
      rw [hkeeps.launched] at hu
      exact Nat.lt_of_lt_of_le (hrecorded.known u hu) hkeeps.within.length
    case nodup =>
      rw [hkeeps.launched]
      exact hrecorded.nodup
    case last =>
      rw [hkeeps.launched, hkeeps.tasks]
      exact hrecorded.last
    case recorded =>
      rw [hkeeps.launched] at hu
      rw [hkeeps.tasks, hkeeps.within.ended]
      exact hrecorded.recorded u hu
    case free => exact (hfree (hkeeps.regular.mp hregular) hnone).imp_right hkeeps.allEnded
  case leaves =>
    refine ⟨hkeeps.regular.mp, hkeeps.within.spares u, hkeeps.within.length, hcount u hu,
      fun v hv _ => ?_, fun _ _ => hkeeps.launched⟩
    rw [← hkeeps.launched]
    exact hv
  case starts =>
    rcases hkeeps.starts u job hmem with hold | ⟨hother, hnew⟩
    · exact .inl hold
    · -- a new task is none of the loops
      refine .inr (.other hother fun hregular hmem => ?_)
      rw [hkeeps.launched] at hmem
      exact absurd ((h.inv.2 (hkeeps.regular.mp hregular)).known u hmem) (Nat.not_lt_of_le hnew)
  case takes =>
    refine h.takes.of_launched ?_ hkeeps.regular.mp
    exact hkeeps.launched

/-- The supervisor is left alone, but for what was handed on. -/
theorem meek (h : S.Engaged t job w₀ w) (hmeek : S.Meek w w') :
    (S.recording.terms t).change w w' ∧ S.Engaged t job w₀ w' := by
  have hstoppers : (w'.supervisor S.supervisor).stoppers = (w.supervisor S.supervisor).stoppers := by
    rw [hmeek.supervisor]
  refine ⟨⟨hmeek.tasks.within, endsStops_of_stoppers (Nat.le_of_eq ?_)⟩,
    h.keeps hmeek.keeps (fun u _ => ?_) fun hregular hnone => ?_⟩
  · rw [hstoppers]
  · rw [hstoppers]
  · rw [hstoppers] at hnone
    rw [hmeek.supervisor]
    exact (h.inv.2 hregular).free hnone

/-- Whoever leaves the supervisor alone keeps its records right. -/
theorem steady {α : Type} {m : Act α} (h : S.Engaged t job w₀ w)
    (hm : Steady S.Meek (fun _ => True) m) :
    m.Meets (S.recording.terms t) (fun w₀ _ w => S.Engaged t job w₀ w) w₀ w :=
  hm.meets (S.Engaged t job) (fun _ _ _ _ _ h _ hresumed => (h.answered hresumed).1)
    (fun _ _ _ h hmeek => h.meek hmeek) (fun _ _ _ h _ => h.yields) (fun _ _ _ h => h) h

/-- Whoever is courteous keeps to the discipline of the records as well. -/
theorem courteous {α : Type} {m : Act α} (h : S.Engaged t job w₀ w) (hm : S.Courteous m) :
    m.Meets (S.recording.terms t) (fun w₀ _ w => S.Engaged t job w₀ w) w₀ w :=
  h.steady (Steady.mono hm (fun _ _ haloof => haloof.meek) fun _ h => h)

/-- A loop goes on for as long as it is to. -/
theorem goes_on {round : Act Bool} (h : S.Engaged t job w₀ w)
    (hm : Steady S.Meek (fun _ => True) round) :
    (Job.continuedBy job round).Meets (S.recording.terms t) (S.recording.post t) w₀ w := by
  rw [Job.continuedBy, meets_bind]
  refine (h.steady hm).mono fun w₀ r w hw => ?_
  rcases r with e | _ | _
  · exact ⟨hw.yields, trivial⟩
  · exact ⟨hw.yields, trivial⟩
  · exact ⟨hw.yields, hw.takes⟩

end Engaged

/-! ### Starting -/

/-- A start puts two new tasks before those that were launched already. -/
theorem launched_started (hs : S.supervisor < w.supervisors.length) :
    S.launched (Duty.started S.supervisor w)
      = [w.tasks.table.length, w.tasks.table.length + 1] ++ S.launched w := by
  rw [launched, Duty.supervisor_started hs]

/-- The tasks that a start adds to the records are new, and the only ones that may be alive. -/
theorem Recorded.started (h : S.Recorded w) (hs : S.supervisor < w.supervisors.length)
    (hall : S.AllEnded w) : S.Recorded (Duty.started S.supervisor w) := by
  have hsupervisor := Duty.supervisor_started hs
  have hlaunched := launched_started hs
  have hwithin := (Duty.tasks_started S.supervisor w).1
  -- the numbers of the two new tasks are those of no task before
  have hnew (n : Nat) : w.tasks.table.length + n ∉ S.launched w :=
    fun hmem => absurd (h.known _ hmem) (Nat.not_lt_of_le (Nat.le_add_right _ n))
  refine ⟨fun u hu => ?known, ?nodup, .inr ⟨_, _, _, ?last, hlaunched⟩, fun u hu => ?recorded,
    fun _ => .inl ?free⟩
  case known =>
    have hlt : ∀ v ∈ [w.tasks.table.length, w.tasks.table.length + 1],
        v < w.tasks.table.length + 2 := by simp
    rw [Duty.length_started]
    rw [hlaunched] at hu
    rcases List.mem_append.mp hu with hu | hu
    · exact hlt u hu
    · exact Nat.lt_of_lt_of_le (h.known u hu) (Nat.le_add_right _ 2)
  case nodup =>
    rw [hlaunched, List.cons_append, List.singleton_append, List.nodup_cons, List.nodup_cons,
      List.mem_cons, not_or]
    exact ⟨⟨Nat.ne_of_lt (Nat.lt_succ_self _), hnew 0⟩, hnew 1, h.nodup⟩
  case last => rw [hsupervisor]
  case recorded =>
    -- the new ones are on record, and all the others have ended
    rw [hlaunched] at hu
    rcases List.mem_append.mp hu with hnew | hu
    · refine .inl ?_
      rw [hsupervisor]
      exact hnew
    · exact .inr ((hwithin.ended u).mpr (hall u hu))
  case free => rw [hsupervisor]

namespace Engaged

/-- A supervisor that does not run is started.  In turn, all loops have ended then. -/
theorem started (h : S.Engaged t job w₀ w) (hother : S.Other job)
    (hstopped : (w.supervisor S.supervisor).running = false) :
    S.Engaged t job w₀ (Duty.started S.supervisor w) := by
  have hsupervisor := Duty.supervisor_started h.inv.1
  have hlaunched := launched_started h.inv.1
  obtain ⟨hwithin, hstarts⟩ := Duty.tasks_started S.supervisor w
  have hold {u : TaskId} (hu : u ∈ S.launched w) : u ∈ S.launched (Duty.started S.supervisor w) := by
    rw [hlaunched]
    exact List.mem_append_right _ hu
  -- whoever was there before the start is none of the two new ones
  have hback {u : TaskId} (hu : u ∈ S.launched (Duty.started S.supervisor w))
      (hlt : u < w.tasks.table.length) : u ∈ S.launched w := by
    rw [hlaunched] at hu
    refine (List.mem_append.mp hu).resolve_left fun hnew => ?_
    have hge : ∀ v ∈ [w.tasks.table.length, w.tasks.table.length + 1], w.tasks.table.length ≤ v := by
      simp
    exact absurd hlt (Nat.not_lt_of_le (hge u hnew))
  -- it is regular only if no stop was under way
  have hregular (hregular : S.Regular (Duty.started S.supervisor w)) :
      S.Regular w ∧ (w.supervisor S.supervisor).stoppers = [] := by
    obtain ⟨hturn, hhale⟩ := hregular
    obtain ⟨hturn, hnone⟩ := Duty.inTurn_of_started h.inv.1 hturn
    exact ⟨⟨hturn, hhale.of_later (fun _ => hold) fun u r => (hwithin.cameTo u r).mpr⟩, hnone⟩
  refine h.step hwithin ⟨⟨?there, fun hregular' => ?recorded⟩, fun u _ _ => ?leaves,
    fun u job hmem => ?starts⟩ (.other hother fun hregular' hmem => ?takes)
  case there => exact Nat.lt_of_lt_of_le h.inv.1 (Duty.same_started h.inv.1).supervisors
  case recorded =>
    -- a supervisor that neither runs nor is being stopped has no loop alive
    obtain ⟨hregular'', hnone⟩ := hregular hregular'
    have hrecorded := h.inv.2 hregular''
    refine hrecorded.started h.inv.1 ((hrecorded.free hnone).resolve_left ?_)
    rw [hstopped]
    exact Bool.false_ne_true
  case leaves =>
    -- a task that is stopping the supervisor would have made the start come out of turn
    refine ⟨fun h' => (hregular h').1, hwithin.spares u, hwithin.length, ?_, fun v => hback,
      fun h' hmem => ?_⟩
    · rw [hsupervisor]
    · rw [(hregular h').2] at hmem
      cases hmem
  case starts =>
    rcases hstarts u job hmem with hmem | ⟨-, rfl⟩ | ⟨-, rfl⟩
    · exact .inl hmem
    · exact .inr .poll
    · exact .inr .report
  case takes =>
    have hnot := h.takes.not_launched hother (hregular hregular').1
    exact hnot (hback hmem h.orderly.lt_of_active)

/-- A change of the supervisor that keeps all that is told of stops. -/
theorem change_of_control {f : Supervisor → Supervisor} (hs : S.supervisor < w.supervisors.length)
    (hstoppers : (w.supervisor S.supervisor).stoppers.length
      ≤ (f (w.supervisor S.supervisor)).stoppers.length) :
    (S.recording.terms t).change w (w.changeSupervisor S.supervisor f) := by
  refine ⟨.refl _, endsStops_of_stoppers ?_⟩
  rw [World.supervisor_changeSupervisor hs]
  exact hstoppers

theorem change_of_spawn (new : Job) (context : Option Log.Context) :
    (S.recording.terms t).change w (w.spawn new context) := by
  have hspawn : Tasks.Op (fun _ => True) w.tasks (w.spawn new context).tasks :=
    .spawn new context trivial
  exact ⟨hspawn.within, endsStops_of_stoppers (Nat.le_refl _)⟩

theorem start_meets (h : S.Engaged t job w₀ w) (hother : S.Other job) :
    (Act.startSupervisor S.supervisor).Meets (S.recording.terms t)
      (fun w₀ _ w => S.Engaged t job w₀ w) w₀ w := by
  refine Duty.startSupervisor_meets h.inv.1 (fun v f hs hstoppers _ => ?_)
    (fun _ new context => change_of_spawn new context) (fun _ => h) fun hstopped => ?_
  · exact change_of_control hs (Nat.le_of_eq (congrArg List.length (hstoppers _)).symm)
  · exact (h.started hother hstopped).courteous
      (Act.logOf_steady aloof_logs S.supervisor .info "runner_started" [])

end Engaged

/-! ### Stopping -/

section GivenUp

variable (hs : S.supervisor < w.supervisors.length)

include hs

theorem launched_givenUp : S.launched (Duty.givenUp S.supervisor w) = S.launched w := by
  rw [launched, Duty.supervisor_givenUp hs]

theorem regular_of_givenUp (h : S.Regular (Duty.givenUp S.supervisor w)) : S.Regular w := by
  refine ⟨(Duty.inTurn_givenUp hs).mp h.1, h.2.of_later (fun u hu => ?_) fun _ _ hout => hout⟩
  rw [launched_givenUp hs]
  exact hu

/-- When all loops have ended none has to be on record. -/
theorem Recorded.givenUp (h : S.Recorded w) (hall : S.AllEnded w) :
    S.Recorded (Duty.givenUp S.supervisor w) where
  known u hu := h.known u (launched_givenUp hs ▸ hu)
  nodup := by
    rw [launched_givenUp hs]
    exact h.nodup
  last := .inl (Duty.tasks_givenUp hs)
  recorded u hu := .inr (hall u (launched_givenUp hs ▸ hu))
  free _ := .inr (hall.later (launched_givenUp hs) fun _ hu => hu)

end GivenUp

/-- What is known of a task that stops the supervisor and has still to wait for `rest`. -/
structure Awaiting (S : Supervised) (t : TaskId) (job : Job) (rest : List TaskId) (w₀ w : World) :
    Prop extends S.Engaged t job w₀ w where
  stops : t ∈ (w.supervisor S.supervisor).stoppers
  given : S.Regular w → ∀ u ∈ rest, u ∈ S.launched w
  covered : S.Regular w → ∀ u ∈ S.launched w, u ∈ rest ∨ w.tasks.Ended u

/-- What is known at the end of a stop, before it is noted. -/
def Halted (S : Supervised) (t : TaskId) (job : Job) (w₀ w : World) : Prop :=
  S.Engaged t job w₀ w ∧ (S.Regular w → S.AllEnded w)

theorem Halted.meek (h : S.Halted t job w₀ w) (hmeek : S.Meek w w') : S.Halted t job w₀ w' :=
  ⟨(h.1.meek hmeek).2, fun hregular => hmeek.keeps.allEnded (h.2 (hmeek.keeps.regular.mp hregular))⟩

namespace Awaiting

variable {rest : List TaskId}

/-- The first of them has ended. -/
theorem joined (h : S.Awaiting t job (u :: rest) w₀ w) (hended : S.Regular w → w.tasks.Ended u) :
    S.Awaiting t job rest w₀ w where
  toEngaged := h.toEngaged
  stops := h.stops
  given hregular v hv := h.given hregular v (List.mem_cons_of_mem u hv)
  covered hregular v hv := by
    rcases h.covered hregular v hv with hmem | hdone
    · rcases List.mem_cons.mp hmem with rfl | hmem
      · exact .inr (hended hregular)
      · exact .inl hmem
    · exact .inr hdone

/-- All of this lasts while the stop waits. -/
theorem answered (h : S.Awaiting t job rest w₀ w) {what : Wait} {answer : Wakeup}
    (hresumed : S.recording.Resumed t w what answer w') : S.Awaiting t job rest w' w' := by
  obtain ⟨hengaged, hmeanwhile⟩ := h.toEngaged.answered hresumed
  refine ⟨hengaged, hmeanwhile.stops h.stops, fun hregular u hu => ?_, fun hregular u hu => ?_⟩
  · rw [hmeanwhile.stopping hregular h.stops]
    exact h.given (hmeanwhile.regular hregular) u hu
  · rw [hmeanwhile.stopping hregular h.stops] at hu
    refine (h.covered (hmeanwhile.regular hregular) u hu).imp_right fun hended => ?_
    obtain ⟨r, hr⟩ := Tasks.ended_iff.mp hended
    exact (hmeanwhile.cameTo u r hr).ended

/-- The first of them is waited for.  The wait may be struck, but it fails otherwise only if that loop
has. -/
theorem join_meets (h : S.Awaiting t job (u :: rest) w₀ w) (hother : S.Other job) :
    (Act.join u).Meets (S.recording.terms t) (byOutcome
      (fun w₀ _ w => S.Awaiting t job rest w₀ w)
      fun w₀ e w => S.Awaiting t job rest w₀ w ∧ (S.Regular w → e = .cancelled)) w₀ w := by
  have hgiven (hregular : S.Regular w) : u ∈ S.launched w := h.given hregular u List.mem_cons_self
  rw [Act.join, meets_bind, meets_state, byOutcome_ok]
  split
  · -- the loop has ended already, and its outcome is read off; hale loops
    -- fail by a cancellation only
    rename_i outcome houtcome
    have hout (hregular : S.Regular w) : w.tasks.CameTo u outcome :=
      ⟨(h.inv.2 hregular).known u (hgiven hregular), houtcome⟩
    have hrest := h.joined fun hregular => (hout hregular).ended
    rw [meets_ofExcept]
    cases outcome with
    | ok _ => exact hrest
    | error e =>
      refine ⟨hrest, fun hregular => ?_⟩
      exact hregular.2 u (hgiven hregular) e (hout hregular)
  · -- the loop is waited for, and has ended when the wait is over, unless that was struck
    rw [meets_await]
    refine ⟨h.yields, fun answer w' _ _ hresumed => ?_⟩
    have hnext := h.answered hresumed
    have hnext' (hregular : S.Regular w') : u ∈ S.launched w' ∧ u ≠ t := by
      have hmem := hnext.given hregular u List.mem_cons_self
      refine ⟨hmem, ?_⟩
      rintro rfl
      exact hnext.takes.not_launched hother hregular hmem
    have hended (hregular : S.Regular w') : w'.tasks.Ended u := by
      obtain ⟨found, -, -, -, hcame, -, hjoined⟩ := hresumed.meanwhile
      exact (Tasks.ended_congr (hcame u)).mpr (hjoined u rfl (hnext' hregular).2)
    have hrest : S.Awaiting t job rest w' w' := hnext.joined hended
    cases answer with
    | ok _ => exact hrest
    | error e =>
      refine ⟨hrest, fun hregular => ?_⟩
      rcases hresumed.told u rfl (hnext' hregular).2 with hcancelled | hout
      · exact Except.error.inj hcancelled
      · exact hregular.2 u (hnext' hregular).1 e hout

/-- All of them are waited for; if that fails, one of them has failed. -/
theorem joinAll_meets (h : S.Awaiting t job rest w₀ w) (hother : S.Other job) :
    (Act.joinAll rest).Meets (S.recording.terms t) (byOutcome
      (fun w₀ _ w => S.Awaiting t job [] w₀ w)
      fun w₀ _ w => S.Engaged t job w₀ w ∧ ¬ S.Regular w) w₀ w := by
  induction rest generalizing w₀ w with
  | nil => exact h
  | cons u rest ih =>
    rw [Act.joinAll, meets_bind, Act.throughCancellation, Fiber.recover, meets_bind, meets_attempt]
    refine (h.join_meets hother).mono fun w₀ r w hr => ?_
    rcases r with failure | _
    · obtain ⟨hrest, hcancelled⟩ := hr
      rw [byOutcome_ok]
      dsimp only
      -- the end of a cancelled loop is passed over; anything else shows that a loop has failed
      split
      · exact ih hrest
      · rename_i hnot
        exact ⟨hrest.toEngaged, fun hregular => hnot (hcancelled hregular)⟩
    · exact ih hr

/-- The records are emptied when all loops have ended. -/
theorem emptied (h : S.Awaiting t job [] w₀ w) :
    (S.recording.terms t).change w (Duty.givenUp S.supervisor w) ∧
      S.Halted t job w₀ (Duty.givenUp S.supervisor w) := by
  have hs := h.inv.1
  have hlaunched := launched_givenUp hs
  -- nothing is left to be waited for, so whatever was launched has ended
  have hall (hregular : S.Regular w) : S.AllEnded w := fun u hu =>
    (h.covered hregular u hu).resolve_left List.not_mem_nil
  have hall' (hregular : S.Regular (Duty.givenUp S.supervisor w)) :
      S.AllEnded (Duty.givenUp S.supervisor w) :=
    (hall (regular_of_givenUp hs hregular)).later hlaunched fun _ hu => hu
  refine ⟨Engaged.change_of_control hs (Nat.le_refl _), h.step (.refl _)
    ⟨⟨?there, fun hregular => ?recorded⟩, fun u _ _ => ?leaves, fun _ _ hmem => .inl hmem⟩
      (h.takes.of_launched hlaunched (regular_of_givenUp hs)), hall'⟩
  case there => exact Nat.lt_of_lt_of_le hs (Duty.same_givenUp hs).supervisors
  case recorded =>
    have hregular' := regular_of_givenUp hs hregular
    exact Recorded.givenUp hs (h.inv.2 hregular') (hall hregular')
  case leaves =>
    refine ⟨regular_of_givenUp hs, .refl u _, Nat.le_refl _, ?_, fun v hv _ => hlaunched ▸ hv,
      fun _ _ => hlaunched⟩
    rw [Duty.supervisor_givenUp hs]

end Awaiting

namespace Engaged

/-- The supervisor runs no more, its tasks are cancelled, and those on record are to be waited for. -/
theorem awaiting (h : S.Engaged t job w₀ w) (hstops : t ∈ (w.supervisor S.supervisor).stoppers)
    {ts : Tasks Job} (hwithin : w.tasks.Within ts) (hclerical : Tasks.Clerical none w.tasks ts) :
    S.Awaiting t job ((Duty.halting S.supervisor w).supervisor S.supervisor).tasks w₀
      ((Duty.halting S.supervisor w).withTasks ts) := by
  have hstoppers : (((Duty.halting S.supervisor w).withTasks ts).supervisor S.supervisor).stoppers
      = (w.supervisor S.supervisor).stoppers :=
    (congrArg Supervisor.stoppers (Duty.supervisor_halting h.inv.1)).trans rfl
  have hkeeps : S.Keeps w ((Duty.halting S.supervisor w).withTasks ts) :=
    keeps_of_control h.inv.1 rfl rfl rfl hwithin hclerical
  have hcancelled := h.keeps hkeeps (fun u _ => by rw [hstoppers]) fun _ hnone => by
    rw [← hstoppers, hnone] at hstops
    cases hstops
  refine ⟨hcancelled, ?stops, fun hregular u hu => ?given,
    fun hregular => (hcancelled.inv.2 hregular).recorded⟩
  case stops =>
    rw [hstoppers]
    exact hstops
  case given =>
    -- what is on record was launched
    rcases (hcancelled.inv.2 hregular).last with hnone | ⟨poll, status, older, htasks, hlaunched⟩
    · exact absurd hu (hnone ▸ List.not_mem_nil)
    · replace hu : u ∈ [poll, status] := htasks ▸ hu
      rw [hlaunched]
      exact List.mem_append_left older hu

/-- The body of a stop: the supervisor runs no more, its tasks are cancelled and waited for. -/
theorem stopping_meets (h : S.Engaged t job w₀ w) (hother : S.Other job)
    (hstops : t ∈ (w.supervisor S.supervisor).stoppers) :
    (do
      Act.setRunning S.supervisor false
      Act.cancelAll (← Act.supervisor S.supervisor).tasks
      Act.joinAll (← Act.supervisor S.supervisor).tasks
      Act.setTasks S.supervisor []
      Act.logOf S.supervisor .info "runner_stopped" []).Meets (S.recording.terms t)
        (fun w₀ _ w => S.Halted t job w₀ w) w₀ w := by
  rw [Act.setRunning, meets_bind, meets_update, byOutcome_ok, Act.supervisor, meets_bind, meets_gets,
    byOutcome_ok, meets_bind]
  refine ⟨change_of_control h.inv.1 (Nat.le_refl _), Duty.cancelAll_meets (fun v ts hwithin =>
    ⟨hwithin, endsStops_of_stoppers (Nat.le_refl _)⟩) fun ts hwithin hclerical _ => ?_⟩
  rw [byOutcome_ok, meets_bind, meets_gets, byOutcome_ok, meets_bind]
  refine ((h.awaiting hstops hwithin hclerical).joinAll_meets hother).mono fun w₀ r w hr => ?_
  -- either a loop has failed, or all have ended and the records are emptied
  cases r with
  | error e => exact ⟨hr.1, fun hregular => absurd hregular hr.2⟩
  | ok _ =>
    obtain ⟨hchange, hhalted⟩ := Awaiting.emptied hr
    rw [byOutcome_ok, Act.setTasks, meets_bind, meets_update, byOutcome_ok]
    exact ⟨hchange, (Act.logOf_steady meek_polling.toTolerantOfLogs S.supervisor .info _
      _).meets_at_once (S.Halted t job w₀) (fun v v' hv hmeek => ⟨(hv.1.meek hmeek).1, hv.meek hmeek⟩)
        (fun _ _ hv => hv) hhalted⟩

theorem stop_meets (h : S.Engaged t job w₀ w) (hother : S.Other job) :
    (Act.stopSupervisor S.supervisor).Meets (S.recording.terms t)
      (fun w₀ _ w => S.Engaged t job w₀ w) w₀ w := by
  -- that the supervisor is being stopped is noted first, and struck off at the end
  have hnoted : S.Engaged t job w₀ (w.changeSupervisor S.supervisor fun supervisor =>
      { supervisor with stoppers := w.tasks.current :: supervisor.stoppers }) := by
    have hsupervisor := World.supervisor_changeSupervisor h.inv.1 fun supervisor =>
      { supervisor with stoppers := w.tasks.current :: supervisor.stoppers }
    refine h.keeps (keeps_of_control h.inv.1 rfl rfl rfl (.refl _) (.refl none _)) (fun u hu => ?_)
      fun _ hnone => ?_
    · rw [hsupervisor, h.current]
      exact List.count_cons_of_ne (Ne.symm hu)
    · rw [hsupervisor] at hnone
      cases hnone
  rw [Act.stopSupervisor, meets_bind, Act.noteStop, meets_update, byOutcome_ok, meets_ensure]
  refine ⟨change_of_control h.inv.1 (Nat.le_succ _), (hnoted.stopping_meets hother ?_).mono
    fun w₀ r w hhalted => ?_⟩
  · rw [World.supervisor_changeSupervisor h.inv.1, h.current]
    exact List.mem_cons_self
  · -- when it is struck off, all loops have ended, as far as everything was regular
    obtain ⟨hengaged, hall⟩ := hhalted
    have hsupervisor := World.supervisor_changeSupervisor hengaged.inv.1 fun supervisor =>
      { supervisor with stoppers := supervisor.stoppers.erase w.tasks.current }
    have hkeeps : S.Keeps w (w.changeSupervisor S.supervisor fun supervisor =>
        { supervisor with stoppers := supervisor.stoppers.erase w.tasks.current }) :=
      keeps_of_control hengaged.inv.1 rfl rfl rfl (.refl _) (.refl none _)
    rw [Act.noteStopped, meets_update]
    refine ⟨⟨.refl _, fun hregular _ => hkeeps.allEnded (hall (hkeeps.regular.mp hregular))⟩,
      hengaged.keeps hkeeps (fun u hu => ?_) fun hregular _ => .inr (hall hregular)⟩
    rw [hsupervisor, hengaged.current]
    exact List.count_erase_of_ne hu

/-- Whoever starts and stops the supervisor keeps its records right. -/
theorem controls_meets {α : Type} {m : Act α} (hm : S.Controls m) (hother : S.Other job)
    (h : S.Engaged t job w₀ w) :
    m.Meets (S.recording.terms t) (fun w₀ _ w => S.Engaged t job w₀ w) w₀ w :=
  hm.meets (fun hm _ _ h => h.courteous hm) (fun _ _ h => h.start_meets hother)
    (fun _ _ h => h.stop_meets hother) h

end Engaged

/-! ### All tasks together -/

variable {handler : Item → Act Unit} {work : Work}

/-- The loops of a served supervisor keep to the discipline of its records. -/
theorem Serves.records (h : S.Serves handler work) : S.recording.Binds work := by
  intro t job w hinv htakes hcurrent horderly
  have hengaged : S.Engaged t job w w := ⟨.refl hinv t, hcurrent, horderly, htakes⟩
  cases htakes with
  | poll =>
    rw [h.polls]
    refine hengaged.goes_on (Act.pollRound_steady meek_polling (fun _ => trivial) (fun item => ?_)
      S.supervisor)
    exact (h.handler item).mono (fun _ _ haloof => haloof.meek) fun _ h => h
  | report =>
    rw [h.reports]
    exact hengaged.goes_on (statusRound_courteous.mono (fun _ _ haloof => haloof.meek) fun _ h => h)
  | other hother _ =>
    -- such a task never goes on as one of the loops
    refine ((Engaged.controls_meets (h.controls job hother) hother hengaged).alongside
      (h.leads job w hother) fun _ _ _ _ _ _ _ => ⟨trivial, trivial, trivial⟩).mono
        fun v₀ r v hr => ?_
    obtain ⟨hengaged, hleads⟩ := hr
    rcases r with failure | _ | next
    · exact ⟨hengaged.yields, trivial⟩
    · exact ⟨hengaged.yields, trivial⟩
    · exact ⟨hengaged.yields, .other (hleads next rfl) (hengaged.takes.not_launched hother)⟩

/-- Where the supervisor has never been started, its records are right. -/
theorem Outset.records (h : S.Outset w) (hnone : S.launched w = []) :
    S.recording.Sound { world := w } := by
  have hnot (u : TaskId) : u ∉ S.launched w := by
    rw [hnone]
    exact List.not_mem_nil
  refine .of_idle rfl ⟨h.orderly, ⟨h.there, fun _ => ⟨fun u hu => absurd hu (hnot u), ?_,
    .inl h.tasks, fun u hu => absurd hu (hnot u), fun _ => .inr fun u hu => absurd hu (hnot u)⟩⟩,
    (fun _ hmem => nomatch hmem), fun u job hmem => ?_⟩
  · rw [hnone]
    exact List.nodup_nil
  · exact .other (h.others u job hmem) fun _ => hnot u

/-- **Starts and stops compose.**  A supervisor is started and stopped by other tasks as often as they
like, at any moment; its loops and its handler leave it alone.  As long as no start comes while a stop
is under way, and no loop fails otherwise than by a cancellation,

* each loop that is alive is on record,
* no two poll loops are alive, and
* when a stop comes to its end, no loop is alive. -/
theorem starts_and_stops_compose (h : S.Serves handler work) (hfirst : S.Outset w)
    (hnone : S.launched w = []) {r : Run} (hr : Run.Reaches work { world := w } r) :
    (S.Regular r.world →
      (∀ u ∈ S.launched r.world, ¬ r.world.tasks.Ended u →
        u ∈ (r.world.supervisor S.supervisor).tasks) ∧
      ∀ u ∈ (r.world.supervisor S.supervisor).pollLoops,
        ∀ v ∈ (r.world.supervisor S.supervisor).pollLoops,
          ¬ r.world.tasks.Ended u → ¬ r.world.tasks.Ended v → u = v) ∧
    ∀ c ∈ r.changes, S.Regular c.2 →
      (c.2.supervisor S.supervisor).stoppers.length < (c.1.supervisor S.supervisor).stoppers.length →
        S.AllEnded c.2 := by
  have hsound := hr.sound h.records (hfirst.records hnone)
  refine ⟨fun hregular => ?_, fun c hc => hsound.change c hc⟩
  have hrecorded := hsound.kept.inv.2 hregular
  exact ⟨fun u hu hunended => (hrecorded.recorded u hu).resolve_right hunended,
    fun u hu v hv => hrecorded.one_poll hu hv⟩

end Supervised

/-- Whether a task has failed otherwise than by a cancellation. -/
def Tasks.hasFailed (t : TaskId) (ts : Tasks Job) : Bool :=
  match ts.outcome? t with
  | some (.error .cancelled) => false
  | some (.error _) => true
  | _ => false

/-- On a finite table it can be computed that no loop has failed. -/
theorem Supervised.hale_of_none_failed {S : Supervised} {w : World}
    (h : (S.launched w).all (fun t => !w.tasks.hasFailed t) = true) : S.Hale w := by
  intro u hu failure hout
  have hnot := List.all_eq_true.mp h u hu
  rw [Tasks.hasFailed, hout.2] at hnot
  by_contra hfailure
  split at hnot
  · rename_i heq
    exact hfailure (Except.error.inj (Option.some.inj heq))
  · cases hnot
  · rename_i hother
    exact hother failure rfl

/-- The server does not end its bodies. -/
def silentServer : World where
  server := { afterwards := { reply := .stream [.block] none true } }
  informers := [{ transport := .http { name := "kubernetes" } }]
  supervisors := [{ informer := 0, handler := .logging }]

/-- A session has polled for a second, and goes on after the last wait of its stop. -/
def stopAwaited : Run :=
  Run.go (sessionWork 0 (.ofInt 1)) (fun _ => false) 20
    { world := silentServer.spawn (.session []) none }

/-- The stop finds both loops ended. -/
theorem stopAwaited_leaves_none :
    ∃ c ∈ stopAwaited.changes, (c.2.supervisor 0).launched = [1, 2] ∧
      (inSession 0 0 0).AllEnded c.2 := by
  have hends : (stopAwaited.changes.any fun c => (c.2.supervisor 0).launched == [1, 2] &&
      decide ((c.2.supervisor 0).stoppers.length < (c.1.supervisor 0).stoppers.length) &&
      !(c.2.supervisor 0).overlapped &&
      (c.2.supervisor 0).launched.all fun t => !c.2.tasks.hasFailed t) = true := by decide +kernel
  obtain ⟨c, hc, hends⟩ := List.any_eq_true.mp hends
  simp only [Bool.and_eq_true, beq_iff_eq, decide_eq_true_eq, Bool.not_eq_true'] at hends
  obtain ⟨⟨⟨hlaunched, hless⟩, hturn⟩, hhale⟩ := hends
  have hfirst : (inSession 0 0 0).Outset (silentServer.spawn (.session []) none) :=
    inSession_outset (w := silentServer) rfl Nat.one_pos rfl 0 0
  exact ⟨c, hc, hlaunched, (starts_and_stops_compose (inSession_serves 0 0 0 (.ofInt 1)) hfirst rfl
    (Run.Reaches.start.go (fun _ => false) 20)).2 c hc ⟨hturn, hale_of_none_failed hhale⟩ hless⟩

/-- One session starts a supervisor, and stops it after a second; another one starts it then. -/
def startDuringStop : Work
  | .session [0] => do
    Act.startSupervisor 0
    Act.sleep (.ofInt 1)
    Act.stopSupervisor 0
    return none
  | .session _ => do
    Act.sleep (.ofInt 1)
    Act.startSupervisor 0
    return none
  | .pollLoop s => Job.continuedBy (.pollLoop s) (Act.pollRound Act.logItem s)
  | .statusLoop s => Job.continuedBy (.statusLoop s) (Act.statusRound s)
  | _ => pure none

/-- Both sessions have ended. -/
def restarted : Run :=
  Run.go startDuringStop (fun _ => false) 30
    { world := (silentServer.spawn (.session [0]) none).spawn (.session [1]) none }

/-- The start has come while the stop waited, and nothing is on record of the poll loop that is
alive. -/
theorem restarted_off_record :
    restarted.world.tasks.isFinished 0 = true ∧ 4 ∈ (restarted.world.supervisor 0).pollLoops ∧
      restarted.world.tasks.isFinished 4 = false ∧ (restarted.world.supervisor 0).tasks = [] := by
  refine ⟨by decide +kernel, by decide +kernel, by decide +kernel, by decide +kernel⟩

end ResumableWatch
