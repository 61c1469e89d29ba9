import ResumableWatch.Proofs.Application.Starting
import ResumableWatch.Proofs.Supervisor.Loop
import ResumableWatch.Session.Applications
/-!
# The end of the main task

The jobs of a run of the main task, one after the other: a start that fails or goes on, the looks at
the application that follow, and the shutdown.  Each keeps to the discipline of the run, and so do the
loops of the supervisor and a request for the shutdown, which may come from anybody who neither
starts nor stops the application (`Apart`).
-/

namespace ResumableWatch

open ResumableWatch.Fiber World

variable {α : Type} {t : TaskId} {n : Nat} {s : SupervisorId} {job : Job} {w₀ w w' : World}

/-! ### The main task -/

/-- What the main task knows that fails and has to clean up. -/
structure Failing (w₀ : World) (failure : Failure) (w : World) : Prop extends Acting 0 w₀ w where
  stops : Stops 0 w.supervisors.length w
  closed : w.supervisors = [] → (∀ name cause, failure ≠ .component name cause) →
    w.surroundings.Mild → w.application.hasClient = false

/-- What it knows when it has done so. -/
structure Failed (w₀ : World) (failure : Failure) (w : World) : Prop extends Acting 0 w₀ w where
  closed : failure ≠ .cancelled → w.supervisors = [] → w.surroundings.Mild →
    w.application.hasClient = false

/-- A turn of the main task may end so. -/
theorem Failed.rests {failure : Failure} (h : Failed w₀ failure w) :
    MainRest 0 (.error failure) w where
  quits _ hok := nomatch hok
  failed _ hnot := h.closed fun heq => hnot (congrArg Except.error heq)
  stopped _ hok := nomatch hok

namespace Act

/-- Where there is no supervisor there is nothing to be stopped any more. -/
theorem stopIfRunning_meets (h : Acting 0 w₀ w) (hs : Stops 0 n w)
    {post : World → Except Failure Unit → World → Prop}
    (hnone : n = 0 → post w₀ (.ok ()) w)
    (hsome : n ≠ 0 → ∀ w₀ r w, Acting 0 w₀ w → Stops 0 n w → post w₀ r w) :
    stopIfRunning.Meets (mainDiscipline.terms 0) post w₀ w := by
  rw [stopIfRunning, meets_bind, application, meets_gets, byOutcome_ok]
  by_cases hn : n = 0
  · have hdown := (h.inv.bare (List.length_eq_zero_iff.mp (hs.count.trans hn))).1
    rw [hdown]
    exact hnone hn
  · split
    · refine (stopApplication_meets h hs).mono fun w₀ r w hr => ?_
      cases r with
      | ok _ => exact hsome hn w₀ _ w hr.1 hr.2.1
      | error e => exact hsome hn w₀ _ w hr.1 hr.2.1
    · exact hsome hn w₀ _ w h hs

/-- **Giving up.**  The main task fails.  If there is no supervisor, it has closed the API client, or
there was none; only a cancellation may keep it from that. -/
theorem giveUp_meets {failure : Failure} (h : Failing w₀ failure w) :
    (giveUp failure).Meets (mainDiscipline.terms 0)
      (byOutcome (fun _ _ _ => False) fun w₀ e w => Failed w₀ e w) w₀ w := by
  -- Whatever the failure was, the running of the supervisor is ended last.
  have hlast {w₀ w : World} {e : Failure} {n : Nat} (h : Acting 0 w₀ w) (hs : Stops 0 n w)
      (hclosed : n = 0 → e ≠ .cancelled → w.surroundings.Mild →
        w.application.hasClient = false) :
      stopIfRunning.Meets (mainDiscipline.terms 0)
        (byOutcome (fun w₀ _ w => Failed w₀ e w) fun w₀ e w => Failed w₀ e w) w₀ w := by
    refine stopIfRunning_meets h hs (fun hnone => ⟨h, fun hnot _ => hclosed hnone hnot⟩)
      fun hsome w₀ r w h hs => ?_
    have hfailed (e : Failure) : Failed w₀ e w := by
      refine ⟨h, fun _ hnone => absurd ?_ hsome⟩
      rw [← hs.count, hnone, List.length_nil]
    cases r with
    | ok _ => exact hfailed e
    | error e => exact hfailed e
  obtain ⟨h, hs, hclosed⟩ := h
  rw [giveUp.eq_def, meets_ensure]
  split
  · -- A component that did not start: the fatal error is logged and the application stopped first.
    rename_i name cause
    have hlog := bystands_log w .critical applicationComponent "fatal startup error"
      [("component", .text name), ("error", .text cause.message)] 0
    obtain ⟨hchange, hnext⟩ := h.step hlog
    rw [meets_bind, logApplication, log, meets_update, byOutcome_ok, meets_bind]
    refine ⟨hchange, (stopApplication_meets hnext (lasting_stops 0 _ w _ hlog.lowers hs)).mono
      fun w₀ r w hr => ?_⟩
    cases r with
    | ok _ =>
      obtain ⟨h, hs, hstopped⟩ := hr
      exact hlast h hs fun _ _ _ => hstopped.client
    | error e =>
      obtain ⟨h, hs, hcancelled⟩ := hr
      exact hlast h hs fun hnone hnot hmild => absurd (hcancelled hnone hmild) hnot
  · -- Any other failure goes straight to the last step.
    rename_i hnot
    exact hlast h hs fun hnone _ hmild => hclosed (List.length_eq_zero_iff.mp hnone) hnot hmild

/-- A part of the main task either lets it go on or fails. -/
theorem proceed_meets {m : Act Unit} {K : World → World → Prop}
    (hm : m.Meets (mainDiscipline.terms 0)
      (byOutcome (fun w₀ _ w => K w₀ w) fun w₀ e w => Failing w₀ e w) w₀ w) :
    (proceed m).Meets (mainDiscipline.terms 0)
      (byOutcome (fun w₀ goesOn w => goesOn = true ∧ K w₀ w) fun w₀ e w => Failed w₀ e w)
      w₀ w := by
  rw [proceed, meets_bind, meets_attempt]
  refine hm.mono fun w₀ r w hr => ?_
  cases r with
  | ok _ => exact ⟨rfl, hr⟩
  | error e =>
    show Meets _ _ (giveUp e >>= fun _ => pure false) w₀ w
    rw [meets_bind]
    refine (giveUp_meets hr).mono fun w₀ r w hr => ?_
    cases r with
    | ok _ => exact hr.elim
    | error e => exact hr

/-- The beginning of the main task. -/
theorem launch_meets (h : Founding w w) (hfresh : w.application.hadClient = false) :
    (Job.continuedBy .attend launch).Meets (mainDiscipline.terms 0) (mainDiscipline.post 0) w w := by
  rw [Job.continuedBy, launch, meets_bind]
  refine (proceed_meets (K := fun w₀ w => Founding w₀ w ∧ w.supervisors ≠ [] ∧
    w.application.running = true) ((startApplication_meets h hfresh).mono fun w₀ r w hr => ?_)).mono
      fun w₀ r w hr => ?_
  · cases r with
    | ok _ => exact hr
    | error e =>
      obtain ⟨h, hnone, hclosed⟩ := hr
      refine ⟨h.acting, ⟨.inl rfl, rfl, fun s hmem => ?_⟩, fun _ => hclosed⟩
      rw [Standing.launched_of_no_supervisors hnone] at hmem
      cases hmem
  · cases r with
    | ok goesOn =>
      obtain ⟨rfl, h, hsome, hrunning⟩ := hr
      refine ⟨h.acting.yields, .attend rfl hsome (.inl hrunning) fun s hmem => ?_⟩
      exact absurd (h.launched s 0 hmem) (Nat.not_le_of_lt h.first)
    | error e => exact ⟨hr.yields, hr.rests⟩

theorem attends (hplays : MainJob 0 w .attend) :
    w.supervisors ≠ [] ∧ w.Steered ∧ ∀ s, 0 ∉ (w.supervisor s).launched := by
  cases hplays with
  | attend _ hsome hsteered hapart => exact ⟨hsome, hsteered, hapart⟩
  | other hmain _ _ => exact absurd rfl hmain

/-- The wait of the main task between two looks is over, or a cancellation has struck it. -/
theorem sleep_meets (h : Acting 0 w₀ w) (hplays : MainJob 0 w .attend) (seconds : Double) :
    (sleep seconds).Meets (mainDiscipline.terms 0)
      (byOutcome (fun w₀ _ w => Acting 0 w₀ w ∧ MainJob 0 w .attend)
        fun w₀ e w => Failing w₀ e w) w₀ w := by
  rw [sleep, meets_await]
  refine ⟨h.yields, fun answer w' _ _ hresumed => ?_⟩
  obtain ⟨hleaves, hnext⟩ := h.resumed hresumed
  have hplays' := hplays.leaves hleaves h.orderly.lt_of_active
  cases answer with
  | ok _ => exact ⟨hnext, hplays'⟩
  | error e =>
    obtain ⟨hsome, -, hapart⟩ := attends hplays'
    exact ⟨hnext, ⟨.inl rfl, rfl, hapart⟩, fun hnone => absurd hnone hsome⟩

/-- One look at the application. -/
theorem attend_meets (h : Acting 0 w w) (hplays : MainJob 0 w .attend) :
    (Job.continuedBy .attend attend).Meets (mainDiscipline.terms 0) (mainDiscipline.post 0) w w := by
  rw [Job.continuedBy, attend, meets_bind, meets_bind, application, meets_gets, byOutcome_ok]
  split
  · refine (proceed_meets (K := fun w₀ w => Acting 0 w₀ w ∧ MainJob 0 w .attend)
      (sleep_meets h hplays _)).mono fun w₀ r w hr => ?_
    cases r with
    | ok goesOn =>
      obtain ⟨rfl, h, hplays⟩ := hr
      exact ⟨h.yields, hplays⟩
    | error e => exact ⟨hr.yields, hr.rests⟩
  · rename_i hdown
    obtain ⟨hsome, hsteered, -⟩ := attends hplays
    refine ⟨h.yields, fun _ _ => hsteered.resolve_left hdown, fun _ _ hnone => absurd hnone hsome,
      fun hshutdown => ?_⟩
    -- the shutdown is another task
    exact absurd (h.inv.requested 0 hshutdown).2.1 (Nat.lt_irrefl 0)

/-! ### The shutdown -/

/-- When the shutdown has come to its end, it has stopped the application. -/
theorem shutdown_meets (h : Acting t w w) (hs : Stops t n w) (hmain : t ≠ 0) :
    (stopApplication >>= fun _ => pure none).Meets (mainDiscipline.terms t)
      (mainDiscipline.post t) w w := by
  rw [meets_bind]
  refine (stopApplication_meets h hs).mono fun w₀ r w hr => ?_
  cases r with
  | ok _ =>
    obtain ⟨h, -, hstopped⟩ := hr
    exact ⟨h.yields, fun heq => absurd heq hmain, fun heq => absurd heq hmain, fun _ _ => hstopped⟩
  | error e => exact ⟨hr.1.yields, fun heq => absurd heq hmain, fun heq => absurd heq hmain, nofun⟩

end Act

/-! ### All others -/

/-- What is known of a task that neither starts nor stops the application. -/
structure Apart (t : TaskId) (job : Job) (w₀ w : World) : Prop extends Acting t w₀ w where
  main : t ≠ 0
  shutdown : w.application.shutdown ≠ some t
  admits : w.Admits job

namespace Apart

theorem plays (h : Apart t job w₀ w) : MainJob t w job := .other h.main h.shutdown h.admits

/-- It may end whatever it has come to. -/
theorem rests (h : Apart t job w₀ w) (outcome : Wakeup) : MainRest t outcome w where
  quits hmain := absurd hmain h.main
  failed hmain := absurd hmain h.main
  stopped hshutdown := absurd hshutdown h.shutdown

theorem bystands (h : Apart t job w₀ w) (hb : Bystands w w') : Apart t job w₀ w' where
  toActing := h.toActing.bystands hb
  main := h.main
  shutdown := by
    rw [hb.application.shutdown]
    exact h.shutdown
  admits := h.admits.mono (Nat.le_of_eq hb.count.symm)

/-- Who leaves the application alone keeps to the discipline. -/
theorem meets {m : Act α} (h : Apart t job w₀ w) (hm : Steady Bystands (fun _ => True) m) :
    m.Meets (mainDiscipline.terms t) (fun w₀ _ w => Apart t job w₀ w) w₀ w := by
  refine hm.meets (Apart t job) (fun w₀ w what answer w' h _ hresumed => ?_)
    (fun w₀ w w' h hb => ?_) (fun w₀ _ w h _ => h.yields) (fun _ _ _ h => h) h
  · obtain ⟨hleaves, hnext⟩ := h.resumed hresumed
    exact ⟨hnext, h.main, hleaves.apart h.orderly.lt_of_active h.shutdown,
      h.admits.mono hleaves.count⟩
  · have hchange : (mainDiscipline.terms t).change w w' := ⟨hb.tasks.within, hb.surroundings⟩
    exact ⟨hchange, h.bystands hb⟩

/-- A part of a session does something and ends. -/
theorem ends {m : Act Unit}
    (hm : m.Meets (mainDiscipline.terms t) (fun w₀ _ w => Apart t job w₀ w) w₀ w) :
    (m >>= fun _ => pure none).Meets (mainDiscipline.terms t) (mainDiscipline.post t) w₀ w := by
  rw [meets_bind]
  refine hm.mono fun w₀ r w h => ?_
  cases r with
  | ok _ => exact ⟨h.yields, h.rests _⟩
  | error e => exact ⟨h.yields, h.rests _⟩

/-- A loop goes on for as long as it is to. -/
theorem goes_on {round : Act Bool}
    (hm : round.Meets (mainDiscipline.terms t) (fun w₀ _ w => Apart t job w₀ w) w₀ w) :
    (Job.continuedBy job round).Meets (mainDiscipline.terms t) (mainDiscipline.post t) w₀ w := by
  rw [Job.continuedBy, meets_bind]
  refine hm.mono fun w₀ r w h => ?_
  rcases r with e | _ | _
  · exact ⟨h.yields, h.rests _⟩
  · exact ⟨h.yields, h.rests _⟩
  · exact ⟨h.yields, h.plays⟩

end Apart

namespace Act

/-- The poll loop: its handler is the one that logs. -/
theorem pollRound_apart (h : Apart t (.pollLoop s) w₀ w) :
    (pollRound (handle s) s).Meets (mainDiscipline.terms t)
      (fun w₀ _ w => Apart t (.pollLoop s) w₀ w) w₀ w := by
  have hpasses : Sequential Bystands (fun _ => True) fun _ (m : Act _) =>
      ∀ w₀ w, Apart t (.pollLoop s) w₀ w → m.Meets (mainDiscipline.terms t)
        (fun w₀ _ w => Apart t (.pollLoop s) w₀ w) w₀ w :=
    .of_meets fun hm _ _ h => h.meets hm
  refine pollRound_passes hpasses bystands_polling.toTolerantOfReading
    bystands_polling.toTolerantOfAsking (fun _ => trivial)
    (dispatch_passes hpasses bystands_polling.toTolerantOfHanding (fun item w₀ w h => ?_) s) w₀ w h
  rw [handle, meets_bind, supervisor, meets_gets, byOutcome_ok, h.inv.logging s h.admits]
  exact h.meets (logItem_steady bystands_polling.toTolerantOfLogs item)

end Act

/-! ### What comes from outside -/

/-- The world once the shutdown has been requested. -/
def requesting (w : World) : World :=
  ((w.changeApplication fun app => { app with shutdownRequested := true }).spawn .shutdown
    w.tasks.context).changeApplication fun app =>
      { app with shutdown := some w.tasks.table.length }

theorem requesting_tasks (w : World) :
    Tasks.Op (· = Job.shutdown) w.tasks (requesting w).tasks ∧
      (requesting w).tasks.table.length = w.tasks.table.length + 1 :=
  ⟨.spawn Job.shutdown w.tasks.context rfl, List.length_append⟩

section Requesting

variable (hinv : w.Standing) (hnew : w.application.shutdownRequested = false)

include hinv hnew

/-- Nobody shuts down yet. -/
theorem shutdown_of_not_requested : w.application.shutdown = none := by
  cases hshutdown : w.application.shutdown with
  | none => rfl
  | some t =>
    have hrequested := (hinv.requested t hshutdown).1
    rw [hnew] at hrequested
    cases hrequested

theorem lowers_requesting : Lowers w (requesting w) where
  length := (requesting_tasks w).1.length
  ended u := ((requesting_tasks w).1.within.ended u).mpr
  surroundings := rfl
  count := rfl
  handler _ := rfl
  launched _ := rfl
  tasks _ := .inl rfl
  supervisor := .inl rfl
  hadClient := rfl
  client := id
  running := id
  shutdown t ht := by
    rw [shutdown_of_not_requested hinv hnew] at ht
    cases ht

/-- Nobody quits yet. -/
theorem not_quits : ¬ w.Quits := by
  rintro ⟨t, ht, -⟩
  rw [shutdown_of_not_requested hinv hnew] at ht
  cases ht

theorem standing_requesting (hsome : 0 < w.tasks.table.length) : (requesting w).Standing := by
  obtain ⟨hspawn, hlength⟩ := requesting_tasks w
  have hl := lowers_requesting hinv hnew
  have hcame (u : TaskId) (r : Wakeup) : (requesting w).tasks.CameTo u r ↔ w.tasks.CameTo u r :=
    hspawn.within.cameTo u r
  refine hinv.follows ⟨hl, fun t ht => ?requested, fun _ => .inl rfl, .inl rfl⟩
    (fun t ht hok => ?carried) (fun hok => ?quits) fun outcome h0 hnot hnone hmild => ?failed
  case requested =>
    obtain rfl : w.tasks.table.length = t := Option.some.inj ht
    rw [hlength]
    exact ⟨rfl, hsome, Nat.lt_succ_self _⟩
  case carried =>
    -- the new task has not ended
    obtain rfl : w.tasks.table.length = t := Option.some.inj ht
    exact absurd ((hcame _ _).mp hok).1 (Nat.lt_irrefl _)
  case quits => exact absurd (hinv.quits ((hcame 0 _).mp hok)) (not_quits hinv hnew)
  case failed => exact hinv.failed outcome ((hcame 0 _).mp h0) hnot hnone hmild

end Requesting

/-- Whoever requests the shutdown does not carry it out. -/
theorem Apart.requesting (h : Apart t job w₀ w) (hnew : w.application.shutdownRequested = false) :
    Apart t job w₀ (requesting w) := by
  obtain ⟨hspawn, hlength⟩ := requesting_tasks w
  have hwithin := hspawn.within
  have hl := lowers_requesting h.inv hnew
  have hsome : 0 < w.tasks.table.length := Nat.lt_of_le_of_lt (Nat.zero_le t) h.orderly.lt_of_active
  refine ⟨⟨h.yields.trans ⟨standing_requesting h.inv hnew hsome, fun u hu _ => ⟨hwithin.spares u, ?_⟩,
    fun u job hmem => ?_⟩ h.orderly hwithin, hwithin.current.trans h.current,
    hwithin.orderly _ h.orderly⟩, h.main, ?_, h.admits⟩
  · refine ⟨hl.length, Nat.le_refl _, fun _ _ hu _ => hu, hl.shutdown, fun v hv => ?_, fun _ => hl,
      fun _ hsteered => ?_⟩
    · exact .inr (Nat.le_of_eq (Option.some.inj hv))
    · exact .inl (hsteered.resolve_right (not_quits h.inv hnew))
  · rcases hspawn.starts hmem with hold | ⟨rfl, rfl⟩
    · exact .inl hold
    · refine .inr (.shutdown ?_ rfl fun s hmem => ?_)
      · exact Nat.ne_of_gt hsome
      · exact Nat.lt_irrefl _ (h.inv.known s _ hmem)
  · intro heq
    have hlt := h.orderly.lt_of_active
    rw [← Option.some.inj heq] at hlt
    exact Nat.lt_irrefl _ hlt

namespace Act

/-- A request for the shutdown. -/
theorem requestShutdown_meets (h : Apart t job w₀ w) :
    requestShutdown.Meets (mainDiscipline.terms t) (fun w₀ _ w => Apart t job w₀ w) w₀ w := by
  rw [requestShutdown, meets_bind, application, meets_gets, byOutcome_ok]
  split
  · exact h
  · rename_i hnew
    exact ⟨⟨.of_eq rfl, rfl⟩, ⟨(requesting_tasks w).1.within, rfl⟩, ⟨.of_eq rfl, rfl⟩,
      h.requesting (Bool.not_eq_true _ ▸ hnew)⟩

end Act

end ResumableWatch
