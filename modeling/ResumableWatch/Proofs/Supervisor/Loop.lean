import ResumableWatch.Handler
import ResumableWatch.Proofs.Supervisor.Control
/-!
# The loops of a supervisor

A poll loop is looked at alone here: a round of it sees to a duty (`Duty.Tends`) if it does so
whatever the others leave it at its waits, as long as starts and stops come in turn.  Such a round
keeps to the discipline of its supervisor, since it leaves the supervisor itself alone
(`Duty.poll_meets`).

`Supervised.Serves` says who is around a supervisor in a run: its two loops, with any courteous
handler, and tasks that start and stop it.  Then its duty is seen to in every state that the run can
come to (`Serves.sound`).
-/

namespace ResumableWatch

open ResumableWatch.Fiber Supervised

/-! ### What a loop leaves alone -/

/-- A change that leaves the supervisor alone, but for what was handed on. -/
structure Supervised.Meek (S : Supervised) (w w' : World) : Prop where
  tasks : Tasks.Op S.Other w.tasks w'.tasks
  supervisors : w.supervisors.length ≤ w'.supervisors.length
  supervisor : w'.supervisor S.supervisor
    = { w.supervisor S.supervisor with handed := (w'.supervisor S.supervisor).handed }

namespace Supervised

variable {S : Supervised} {w w' w'' : World}

theorem Meek.of_same (htasks : w'.tasks = w.tasks) (hsupervisors : w'.supervisors = w.supervisors) :
    S.Meek w w' where
  tasks := by
    rw [htasks]
    exact .same
  supervisors := Nat.le_of_eq (by rw [hsupervisors])
  supervisor := by
    rw [World.supervisor, World.supervisor, hsupervisors]

theorem Aloof.meek (h : S.Aloof w w') : S.Meek w w' where
  tasks := h.tasks
  supervisors := h.same.supervisors
  supervisor := by rw [h.supervisor]

theorem meek_polling : TolerantOfPolling S.Meek where
  log w level component event fields lines :=
    .of_same (World.log_tasks w level component event fields lines)
      (World.log_supervisors w level component event fields lines)
  closed _ _ _ := .of_same rfl rfl
  metrics _ _ := .of_same rfl rfl
  connection _ _ _ _ := .of_same rfl rfl
  keep _ _ _ := .of_same rfl rfl
  handedOver _ _ _ := .of_same rfl rfl
  informer _ _ _ _ := .of_same rfl rfl
  stream _ _ _ _ := .of_same rfl rfl
  cursor _ _ _ := .of_same rfl rfl
  reset _ _ := .of_same rfl rfl
  clear _ _ := .of_same rfl rfl
  observed _ _ _ := .of_same rfl rfl
  opened _ _ _ := .of_same rfl rfl
  added _ _ := .of_same rfl rfl
  server _ _ := .of_same rfl rfl
  request _ _ _ := .of_same rfl rfl
  handed w s item := by
    refine ⟨.same, Nat.le_of_eq (World.length_changeSupervisor w s _).symm, ?_⟩
    rcases World.supervisor_changeSupervisor_cases w s S.supervisor fun supervisor =>
      { supervisor with handed := item :: supervisor.handed } with heq | heq
    · rw [heq]
    · rw [heq]

/-- What a turn of a loop has made of the world. -/
structure Carried (S : Supervised) (w w' : World) : Prop where
  within : w.tasks.Within w'.tasks
  starts : ∀ u job, .start u job ∈ w'.tasks.dues →
    .start u job ∈ w.tasks.dues ∨ (S.Other job ∧ w.tasks.table.length ≤ u)
  supervisors : w.supervisors.length ≤ w'.supervisors.length
  supervisor : w'.supervisor S.supervisor
    = { w.supervisor S.supervisor with handed := (w'.supervisor S.supervisor).handed }

theorem Carried.refl (w : World) : S.Carried w w :=
  ⟨.refl _, fun _ _ h => .inl h, Nat.le_refl _, rfl⟩

theorem Carried.step (h : S.Carried w w') (hmeek : S.Meek w' w'') : S.Carried w w'' where
  within := h.within.trans hmeek.tasks.within
  starts u job hmem := by
    rcases hmeek.tasks.starts hmem with hold | ⟨hother, hnew⟩
    · exact h.starts u job hold
    · exact .inr ⟨hother, hnew ▸ h.within.length⟩
  supervisors := Nat.le_trans h.supervisors hmeek.supervisors
  supervisor := by
    rw [hmeek.supervisor, h.supervisor]

end Supervised

/-! ### A round of the poll loop -/

namespace Duty

variable {S : Supervised} {d : Duty S} {t : TaskId} {w w' : World}

/-- What a poll loop has to see to, and may count on: while it waits all is left as it is. -/
def tending (d : Duty S) : Terms World where
  resume w what answer w' := S.Same w w' ∧ d.Tended w' ∧ S.Heeded w what answer w'
  change w w' := World.asked? w w' ≠ none → d.Asks w
  pause _ _ w := d.Tended w

/-- A round of a poll loop sees to the duty. -/
def Tends (d : Duty S) (round : Act Bool) : Prop :=
  ∀ w, d.Tended w → d.Settled w →
    round.Meets d.tending (fun _ _ w => d.Tended w ∧ d.Settled w) w w

/-- Whoever keeps what others keep as well may be part of a round. -/
theorem tending_of_steady {α : Type} {m : Act α} {P : World → World → Prop} {waits : Wait → Prop}
    (hm : Steady P waits m) (kept : World → Prop)
    (hchange : ∀ w w', kept w → P w w' → (World.asked? w w' ≠ none → d.Asks w) ∧ kept w')
    (hsame : ∀ w w', S.Same w w' → kept w → kept w') (htended : ∀ w, kept w → d.Tended w)
    {w₀ : World} (h : kept w) : m.Meets d.tending (fun _ _ w => kept w) w₀ w := by
  refine hm.meets (fun _ w => kept w) (fun _ _ _ _ _ hw _ hresumed => ?_)
    (fun _ _ _ hw hP => hchange _ _ hw hP) (fun _ _ _ hw _ => htended _ hw) (fun _ _ _ hw => hw) h
  exact hsame _ _ hresumed.1 hw

/-- So may whoever is courteous. -/
theorem tending_of_courteous {α : Type} {m : Act α} (hm : S.Courteous m) (kept : World → Prop)
    (hsame : ∀ w w', S.Same w w' → kept w → kept w') (htended : ∀ w, kept w → d.Tended w)
    {w₀ : World} (h : kept w) : m.Meets d.tending (fun _ _ w => kept w) w₀ w :=
  tending_of_steady hm kept
    (fun _ _ hw haloof => ⟨fun hasked => absurd haloof.quiet hasked, hsame _ _ haloof.same hw⟩) hsame
    htended h

/-- What a poll loop knows where a turn of it begins. -/
structure Ready (d : Duty S) (t : TaskId) (w : World) : Prop where
  inv : S.supervisor < w.supervisors.length ∧ (S.InTurn w → d.Holds w)
  current : w.tasks.current = t
  orderly : w.tasks.Orderly (some t)
  polls : S.InTurn w → S.Polls t w

theorem inTurn_of_carried (h : S.Carried w w') : S.InTurn w' ↔ S.InTurn w := by
  rw [InTurn, InTurn, h.supervisor]

theorem polls_of_carried (h : S.Carried w w') (u : TaskId) : S.Polls u w' ↔ S.Polls u w := by
  rw [Polls, Polls, h.supervisor]

/-- Where a turn of a poll loop ends, the others have been spared. -/
theorem Ready.yields (h : d.Ready t w) (hcarried : S.Carried w w')
    (htended : S.InTurn w' → d.Tended w') : d.discipline.Yields t w w' := by
  have hback := inTurn_of_carried hcarried
  have hunended : ¬ w'.tasks.Ended t := fun hended =>
    h.orderly.not_parked ((hcarried.within.ended t).mp hended).parked
  have hpolls (hturn : S.InTurn w') : S.Polls t w' :=
    (polls_of_carried hcarried t).mpr (h.polls (hback.mp hturn))
  have hbusy (hturn : S.InTurn w') : ¬ S.Idle w' := fun hidle => hunended (hidle t (hpolls hturn))
  refine ⟨⟨Nat.lt_of_lt_of_le h.inv.1 hcarried.supervisors, fun hturn => ?_⟩, fun u hu _ => ?_,
    fun u job hmem => ?_⟩
  · have hholds := h.inv.2 (hback.mp hturn)
    refine ⟨fun u hu => ?_, htended hturn, fun hidle => absurd hidle (hbusy hturn), fun hnone => ?_⟩
    · rw [hcarried.supervisor] at hu
      exact Nat.lt_of_lt_of_le (hholds.known u hu) hcarried.within.length
    · rw [hcarried.supervisor] at hnone ⊢
      refine (hholds.free hnone).imp_right fun hidle => absurd (fun u hu => ?_) (hbusy hturn)
      rw [hcarried.within.ended]
      exact hidle u ((polls_of_carried hcarried u).mp hu)
  · -- none of the others polls
    have hother (hturn : S.InTurn w') (hpolls' : S.Polls u w) : False :=
      hu (Option.some.inj (hpolls'.symm.trans (h.polls (hback.mp hturn))))
    refine ⟨hback.mp, hcarried.within.spares u, hcarried.within.length, ?_, fun _ _ hmem => ?_,
      fun _ _ => (polls_of_carried hcarried u).mp, fun hturn _ hpolls' => (hother hturn hpolls').elim,
      fun hturn _ hpolls' => (hother hturn hpolls').elim, fun _ _ => .inl ?_⟩
    · rw [hcarried.supervisor]
    · rw [hcarried.supervisor] at hmem
      exact hmem
    · rw [hcarried.supervisor]
  · rcases hcarried.starts u job hmem with hold | ⟨hother, hnew⟩
    · exact .inl hold
    · refine .inr (.other hother fun hturn hwatched => ?_)
      rw [hcarried.supervisor] at hwatched
      exact absurd ((h.inv.2 (hback.mp hturn)).known u hwatched) (Nat.not_lt_of_le hnew)

/-- A loop that goes on after a wait is still the one that polls, and finds all as it was, as far as
starts and stops have come in turn. -/
theorem Ready.answered {found : World} {what : Wait} {answer : Wakeup} (h : d.Ready t w)
    (hcarried : S.Carried w w') (hresumed : d.discipline.Resumed t w' what answer found) :
    d.Ready t found ∧ (S.InTurn found → S.InTurn w') ∧
      (S.InTurn found → S.Same w' found ∧ S.Heeded w' what answer found) := by
  have hanswered := Duty.answered hresumed (hcarried.within.orderly _ h.orderly)
  have hpolling (hturn : S.InTurn found) :
      S.Polls t found ∧ S.Same w' found ∧ S.Heeded w' what answer found := by
    refine hanswered.polling hturn ((polls_of_carried hcarried t).mpr (h.polls ?_))
    exact (inTurn_of_carried hcarried).mp (hanswered.inTurn hturn)
  exact ⟨⟨hresumed.inv, hresumed.current, hresumed.orderly, fun hturn => (hpolling hturn).1⟩,
    hanswered.inTurn, fun hturn => (hpolling hturn).2⟩

/-- Nobody gives up the tasks of the supervisor or ends a stop of it who leaves it alone. -/
theorem change_of_meek (h : S.Meek w w')
    (hasks : S.InTurn w' → World.asked? w w' ≠ none → d.Asks w) :
    (d.discipline.terms t).change w w' := by
  refine ⟨h.tasks.within, hasks, fun _ hsome hnone => ?_, fun _ hless => ?_⟩
  · rw [h.supervisor] at hnone
    exact absurd hnone hsome
  · rw [h.supervisor] at hless
    exact absurd hless (Nat.lt_irrefl _)

theorem meets_carried {α : Type} {m : Act α} (hmeek : Steady S.Meek (fun _ => True) m) (w : World) :
    m.Meets { change := S.Meek, pause := fun w₀ _ w => S.Carried w₀ w }
      (fun w₀ _ w => S.Carried w₀ w) w w :=
  hmeek.meets S.Carried (fun _ _ _ _ found _ _ _ => .refl found)
    (fun _ _ _ hcarried hchange => ⟨hchange, hcarried.step hchange⟩)
    (fun _ _ _ hcarried _ => hcarried) (fun _ _ _ hcarried => hcarried) (.refl w)

/-- A poll loop whose rounds see to the duty keeps to the discipline. -/
theorem poll_meets {round : Act Bool} (htends : d.Tends round)
    (hmeek : Steady S.Meek (fun _ => True) round) (h : d.Ready t w)
    (hsettled : S.InTurn w → d.Settled w) :
    (Job.continuedBy (.pollLoop S.supervisor) round).Meets (d.discipline.terms t)
      (d.discipline.post t) w w := by
  have hkeeps : Steady (fun w w' => S.InTurn w' → S.InTurn w) (fun _ => True) round := by
    refine hmeek.mono (fun w w' hchange hturn => ?_) fun _ h => h
    rw [InTurn, hchange.supervisor] at hturn
    exact hturn
  -- what the round leaves alone, in all worlds, and what it sees to while all is in turn
  have hcontent :=
    Meets.asLongAs (fun hturn => htends w (h.inv.2 hturn).tended (hsettled hturn)) hkeeps
  rw [Job.continuedBy, meets_bind]
  refine ((meets_carried hmeek w).and hcontent).imp (fun w₀ w₁ => w₁ = w₀ ∧ d.Ready t w₀)
    (fun _ _ hboth => change_of_meek hboth.1 hboth.2) ?pause ?resumed ?done ⟨rfl, h⟩
  case pause =>
    rintro v₀ _ _ v ⟨rfl, hready⟩ ⟨hcarried, htended⟩
    exact hready.yields hcarried htended
  case resumed =>
    rintro v₀ _ what v answer found ⟨rfl, hready⟩ ⟨hcarried, -⟩ - - hresumed
    obtain ⟨hready', hback, hfound⟩ := hready.answered hcarried hresumed
    refine ⟨⟨trivial, trivial⟩, ⟨trivial, hback, fun _ => trivial⟩, ⟨trivial, fun hturn => ?_⟩, rfl,
      hready'⟩
    exact ⟨(hfound hturn).1, (hready'.inv.2 hturn).tended, (hfound hturn).2⟩
  case done =>
    rintro v₀ _ r v ⟨rfl, hready⟩ ⟨hcarried, hdone⟩
    have hyields := hready.yields hcarried fun hturn => (hdone hturn).1
    have hrests : S.InTurn v → S.Polls t v → d.Settled v := fun hturn _ => (hdone hturn).2
    cases r with
    | error e => exact ⟨hyields, hrests⟩
    | ok more =>
      cases more with
      | false => exact ⟨hyields, hrests⟩
      | true =>
        refine ⟨hyields, .poll fun hturn => ⟨?_, (hdone hturn).2⟩⟩
        exact (polls_of_carried hcarried t).mpr
          (hready.polls ((inTurn_of_carried hcarried).mp hturn))

/-- A status reporter whose rounds leave all alone keeps to the discipline. -/
theorem report_meets {round : Act Bool} {w₀ : World} (hround : S.Courteous round)
    (h : d.Amid t (.statusLoop S.supervisor) w₀ w) :
    (Job.continuedBy (.statusLoop S.supervisor) round).Meets (d.discipline.terms t)
      (d.discipline.post t) w₀ w := by
  rw [Job.continuedBy, meets_bind]
  refine (h.courteous hround).mono fun w₀ r w hw => ?_
  cases r with
  | error e => exact ⟨hw.yields, hw.plays.rests⟩
  | ok more =>
    cases more with
    | false => exact ⟨hw.yields, hw.plays.rests⟩
    | true => exact ⟨hw.yields, hw.plays⟩

end Duty

/-! ### All tasks together -/

namespace Supervised

/-- Who is around a supervisor: its two loops, with a handler that is courteous, and those who start
and stop it. -/
structure Serves (S : Supervised) (handler : Item → Act Unit) (work : Work) : Prop where
  polls : work (.pollLoop S.supervisor) =
    Job.continuedBy (.pollLoop S.supervisor) (Act.pollRound handler S.supervisor)
  reports : work (.statusLoop S.supervisor) =
    Job.continuedBy (.statusLoop S.supervisor) (Act.statusRound S.supervisor)
  handler : ∀ item, S.Courteous (handler item)
  controls : ∀ job, S.Other job → S.Controls (work job)
  /-- Nobody else goes on as one of the loops. -/
  leads : ∀ job w, S.Other job → (work job).Meets {}
    (fun _ r _ => ∀ next, r = .ok (some next) → S.Other next) w w

/-- The supervisor has never been started. -/
structure Outset (S : Supervised) (w : World) : Prop where
  there : S.supervisor < w.supervisors.length
  tasks : (w.supervisor S.supervisor).tasks = []
  orderly : w.tasks.Orderly none
  others : ∀ u job, .start u job ∈ w.tasks.dues → S.Other job

variable {S : Supervised} {d : Duty S} {handler : Item → Act Unit} {work : Work} {w : World}

/-- All tasks around a supervisor keep to its discipline, if the rounds of its poll loop see to its
duty. -/
theorem Serves.binds (h : S.Serves handler work)
    (htends : d.Tends (Act.pollRound handler S.supervisor)) : d.discipline.Binds work := by
  intro t job w hinv hplays hcurrent horderly
  have hamid : d.Amid t job w w := ⟨.refl hinv t, hcurrent, horderly, hplays⟩
  cases hplays with
  | poll hpolls =>
    rw [h.polls]
    refine Duty.poll_meets htends ?_ ⟨hinv, hcurrent, horderly, fun hturn => (hpolls hturn).1⟩
      fun hturn => (hpolls hturn).2
    refine Act.pollRound_steady meek_polling (fun _ => trivial) (fun item => ?_) S.supervisor
    exact (h.handler item).mono (fun _ _ hchange => hchange.meek) fun _ h => h
  | report _ =>
    rw [h.reports]
    exact Duty.report_meets statusRound_courteous hamid
  | other hother _ =>
    -- such a task never goes on as one of the loops
    refine ((Duty.controls_meets (h.controls job hother) hother hamid).alongside
      (h.leads job w hother) fun _ _ _ _ _ _ _ => ⟨trivial, trivial, trivial⟩).mono
        fun v₀ r v hr => ?_
    obtain ⟨hamid, hleads⟩ := hr
    have hrests := hamid.plays.rests
    rcases r with failure | _ | next
    · exact ⟨hamid.yields, hrests⟩
    · exact ⟨hamid.yields, hrests⟩
    · exact ⟨hamid.yields, .other (hleads next rfl) (hamid.plays.not_watched hother)⟩

/-- Where the supervisor has never been started, its discipline holds. -/
theorem Outset.sound (h : S.Outset w) (htended : d.Tended w) (hsettled : d.Settled w) :
    d.discipline.Sound { world := w } := by
  have hnone (t : TaskId) : t ∉ (w.supervisor S.supervisor).tasks := by
    rw [h.tasks]
    exact List.not_mem_nil
  refine .of_idle rfl ⟨h.orderly, ⟨h.there, fun _ => ⟨fun t ht => absurd ht (hnone t), htended,
    fun _ => hsettled, fun _ => .inr fun t ht => absurd ht.mem (hnone t)⟩⟩,
    (fun _ hmem => nomatch hmem), fun u job hmem => ?_⟩
  exact .other (h.others u job hmem) fun _ => hnone u

/-- **Supervised runs.**  If a round of the poll loop sees to a duty, it is seen to in every state that
a run can come to in which the supervisor is served, as long as starts and stops come in turn. -/
theorem Serves.sound (h : S.Serves handler work)
    (htends : d.Tends (Act.pollRound handler S.supervisor)) (hfirst : S.Outset w)
    (htended : d.Tended w) (hsettled : d.Settled w) {r : Run}
    (hr : Run.Reaches work { world := w } r) : d.discipline.Sound r :=
  hr.sound (h.binds htends) (hfirst.sound htended hsettled)

end Supervised

/-! ### A session -/

namespace Act

theorem logItem_steady {P : World → World → Prop} {waits : Wait → Prop} (h : TolerantOfLogs P)
    (item : Item) : Steady P waits (logItem item) := by
  cases item with
  | failure failure =>
    rw [logItem]
    split
    · exact log_steady h _ _ _ _
    · exact Steady.fail _
  | event event =>
    rw [logItem]
    split
    · exact log_steady h _ _ _ _
    · exact (Steady.ofExcept _).bind fun _ => (Steady.ofExcept _).bind fun _ =>
        log_steady h _ _ _ _

end Act

/-- A session starts a supervisor, and stops it after some seconds.  The handler logs the items. -/
def sessionWork (s : SupervisorId) (seconds : Double) : Work
  | .session _ => do
    Act.startSupervisor s
    Act.sleep seconds
    Act.stopSupervisor s
    return none
  | .pollLoop s => Job.continuedBy (.pollLoop s) (Act.pollRound Act.logItem s)
  | .statusLoop s => Job.continuedBy (.statusLoop s) (Act.statusRound s)
  | _ => pure none

/-- A supervisor that is in the hands of sessions. -/
def inSession (s : SupervisorId) (i : InformerId) (c : CursorId) : Supervised where
  supervisor := s
  informer := i
  cursor := c
  Other job := ∃ path, job = .session path
  apart := by
    rintro job ⟨path, rfl⟩
    exact ⟨nofun, nofun⟩
  Foreign _ := False

theorem inSession_serves (s : SupervisorId) (i : InformerId) (c : CursorId) (seconds : Double) :
    (inSession s i c).Serves Act.logItem (sessionWork s seconds) where
  polls := rfl
  reports := rfl
  handler item := Act.logItem_steady aloof_logs item
  controls := by
    rintro job ⟨path, rfl⟩
    refine .bind .start fun _ => .bind (.courteous ?_) fun _ => .bind .stop fun _ => ?_
    · exact Act.sleep_steady (fun _ => trivial) seconds
    · exact .courteous (Steady.pure none)
  leads := by
    rintro job w ⟨path, rfl⟩
    have hlast (r : Except Failure (Option Job)) (hr : ∀ next, r ≠ .ok (some next)) :
        ∀ next, r = .ok (some next) → (inSession s i c).Other next :=
      fun next h => absurd h (hr next)
    refine Meets.of_last _ (fun _ w₀ w => Meets.of_last _ (fun _ w₀ w => Meets.of_last _
      (fun _ w₀ w => ?_) ?_) ?_) ?_
    · exact hlast _ nofun
    · exact fun _ _ _ => hlast _ nofun
    · exact fun _ _ _ => hlast _ nofun
    · exact fun _ _ _ => hlast _ nofun

/-- A run begins with a session, before which there was no task. -/
theorem inSession_outset {w : World} {s : SupervisorId} (htasks : w.tasks = {})
    (hthere : s < w.supervisors.length) (hnone : (w.supervisor s).tasks = []) (i : InformerId)
    (c : CursorId) : (inSession s i c).Outset (w.spawn (.session []) none) := by
  have hspawn : Tasks.Op (fun job => job = .session []) w.tasks
      (w.spawn (.session []) none).tasks := .spawn _ none rfl
  refine ⟨hthere, hnone, hspawn.orderly (htasks ▸ .empty), fun u job hmem => ?_⟩
  rcases hspawn.starts hmem with hold | ⟨rfl, -⟩
  · rw [htasks] at hold
    cases hold
  · exact ⟨[], rfl⟩

end ResumableWatch
