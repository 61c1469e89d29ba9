import ResumableWatch.Proofs.Application.Steady
import ResumableWatch.Proofs.Application.Stopping
/-!
# Starting the application

A start waits at most once, and nothing has been made before it does: from the API client on it runs
to its end in one turn, or fails in it.  So the others find the application either untouched or, when
the start has come to its end, running (`startApplication_meets`).

`Founding` is what the main task knows in such a turn.  Unlike what a task knows that stops the
application, it refers to the beginning of the turn, when there was no client: what has been made
since then is not seen by anybody yet.
-/

namespace ResumableWatch

open ResumableWatch.Fiber World

variable {α : Type} {w₀ w w' : World} {c : Configuration}

/-- What the main task knows in the midst of a turn, begun in `w₀`, in which it starts the
application. -/
structure Founding (w₀ w : World) : Prop where
  inv : w.Standing
  current : w.tasks.current = 0
  orderly : w.tasks.Orderly (some 0)
  within : w₀.tasks.Within w.tasks
  first : 0 < w₀.tasks.table.length
  fresh : w₀.application.hadClient = false
  before : ∀ u, w₀.application.shutdown = some u → u < w₀.tasks.table.length
  shutdown : w.application.shutdown = w₀.application.shutdown
  count : w₀.supervisors.length ≤ w.supervisors.length
  launched : ∀ s, ∀ u ∈ (w.supervisor s).launched, w₀.tasks.table.length ≤ u
  starts : ∀ u job, .start u job ∈ w.tasks.dues →
    .start u job ∈ w₀.tasks.dues ∨ (w₀.tasks.table.length ≤ u ∧ w.Admits job)

namespace Founding

/-- A turn begins before there is a client. -/
theorem begin (hinv : w.Standing) (hfresh : w.application.hadClient = false)
    (hcurrent : w.tasks.current = 0) (horderly : w.tasks.Orderly (some 0)) : Founding w w where
  inv := hinv
  current := hcurrent
  orderly := horderly
  within := .refl _
  first := horderly.lt_of_active
  fresh := hfresh
  before u hu := (hinv.requested u hu).2.2
  shutdown := rfl
  count := Nat.le_refl _
  launched s u hu := by
    rw [Standing.launched_of_no_supervisors (hinv.fresh hfresh).1] at hu
    cases hu
  starts _ _ hmem := .inl hmem

theorem unended (h : Founding w₀ w) : ¬ w.tasks.Ended 0 :=
  fun hended => h.orderly.not_parked hended.parked

/-- What has been made in this turn is not seen by anybody yet. -/
theorem acting (h : Founding w₀ w) : Acting 0 w₀ w := by
  refine ⟨⟨h.inv, fun u hu _ => ⟨h.within.spares u, h.within.length, h.count, fun s v hv hlt => ?_,
    fun v hv => h.shutdown.trans hv, fun v hv => .inl (h.shutdown ▸ hv), fun hwho => ?_,
    fun hmain => absurd hmain hu⟩, fun u job hmem => ?_⟩, h.current, h.orderly⟩
  · -- what was launched in this turn is younger than anybody who may count on something
    exact absurd hlt (Nat.not_lt_of_le (h.launched s v hv))
  · rcases hwho with hmain | hhad
    · exact absurd hmain hu
    · -- before this turn there was no client, so nobody else knows of one
      rw [h.fresh] at hhad
      cases hhad
  · rcases h.starts u job hmem with hold | ⟨hnew, hadmits⟩
    · exact .inl hold
    · refine .inr (.other ?_ (fun hshutdown => ?_) hadmits)
      · exact Nat.ne_of_gt (Nat.lt_of_lt_of_le h.first hnew)
      · rw [h.shutdown] at hshutdown
        exact absurd (h.before u hshutdown) (Nat.not_lt_of_le hnew)

/-- The turn goes on. -/
theorem follows (h : Founding w₀ w) (hwithin : w.tasks.Within w'.tasks)
    (hstarts : ∀ u job, .start u job ∈ w'.tasks.dues →
      .start u job ∈ w.tasks.dues ∨ (w.tasks.table.length ≤ u ∧ w'.Admits job))
    (hinv : w'.Standing) (hshutdown : w'.application.shutdown = w.application.shutdown)
    (hcount : w.supervisors.length ≤ w'.supervisors.length)
    (hlaunched : ∀ s, ∀ u ∈ (w'.supervisor s).launched, w₀.tasks.table.length ≤ u) :
    Founding w₀ w' where
  inv := hinv
  current := hwithin.current.trans h.current
  orderly := hwithin.orderly _ h.orderly
  within := h.within.trans hwithin
  first := h.first
  fresh := h.fresh
  before := h.before
  shutdown := hshutdown.trans h.shutdown
  count := Nat.le_trans h.count hcount
  launched := hlaunched
  starts u job hmem := by
    rcases hstarts u job hmem with hold | ⟨hnew, hadmits⟩
    · exact (h.starts u job hold).imp_right fun ⟨hnew, hadmits⟩ => ⟨hnew, hadmits.mono hcount⟩
    · exact .inr ⟨Nat.le_trans h.within.length hnew, hadmits⟩

/-- It goes on by what leaves the application alone. -/
theorem bystands (h : Founding w₀ w) (hb : Bystands w w') : Founding w₀ w' := by
  refine h.follows hb.tasks.within (fun u job hmem => ?_) (hb.standing h.inv)
    hb.application.shutdown (Nat.le_of_eq hb.count.symm) fun s u hu => h.launched s u ?_
  · rcases hb.tasks.starts hmem with hold | hnone
    · exact .inl hold
    · exact hnone.1.elim
  · rw [hb.lowers.launched] at hu
    exact hu

/-- A single change that leaves the application alone. -/
theorem step (h : Founding w₀ w) (hb : Bystands w w') :
    (mainDiscipline.terms 0).change w w' ∧ Founding w₀ w' :=
  ⟨⟨hb.tasks.within, hb.surroundings⟩, h.bystands hb⟩

/-- Who leaves the application alone and does not wait may be part of a start. -/
theorem at_once (h : Founding w₀ w) {m : Act α} (hm : Steady Bystands (fun _ => False) m)
    {K : World → Prop} (hK : Lasting K) (hw : K w) :
    m.Meets (mainDiscipline.terms 0) (fun w₀ _ w => Founding w₀ w ∧ K w) w₀ w := by
  refine hm.meets_at_once (fun v => Founding w₀ v ∧ K v) (fun v v' hv hb => ⟨?_, ?_⟩)
    (fun _ _ hv => hv) ⟨h, hw⟩
  · exact ⟨hb.tasks.within, hb.surroundings⟩
  · exact ⟨hv.1.bystands hb, hK v v' hb.lowers hv.2⟩

/-- A step that bystands, and then what comes after it. -/
theorem and_then {β : Type} (h : Founding w₀ w) {m : Act α} {f : α → Act β}
    {post : World → Except Failure β → World → Prop} (hm : Steady Bystands (fun _ => False) m)
    {K : World → Prop} (hK : Lasting K) (hw : K w)
    (hnext : ∀ a w₀ w, Founding w₀ w → K w → (f a).Meets (mainDiscipline.terms 0) post w₀ w)
    (hfail : ∀ e w₀ w, Founding w₀ w → K w → post w₀ (.error e) w) :
    (m >>= f).Meets (mainDiscipline.terms 0) post w₀ w := by
  rw [meets_bind]
  refine (h.at_once hm hK hw).mono fun w₀ r w hr => ?_
  cases r with
  | ok a => exact hnext a w₀ w hr.1 hr.2
  | error e => exact hfail e w₀ w hr.1 hr.2

/-- The main task changes the application itself, in a way that only goes unnoticed because nothing
that it has started is older than a shutdown that was requested. -/
theorem changeApplication (h : Founding w₀ w) {f : Application → Application}
    (hshutdown : (f w.application).shutdown = w.application.shutdown)
    (hrequested : (f w.application).shutdownRequested = w.application.shutdownRequested)
    (hsupervisor : (f w.application).supervisor = w.application.supervisor)
    (hhad : (f w.application).hadClient = true)
    (hbare : w.supervisors = [] → (f w.application).running = false) :
    (mainDiscipline.terms 0).change w (w.changeApplication f) ∧
      Founding w₀ (w.changeApplication f) := by
  -- most of this is about fields that do not change; the others are about tasks that have ended,
  -- which the main task has not
  have hinv : (w.changeApplication f).Standing :=
    { h.inv with
      owned := fun s hs => h.inv.owned s (hsupervisor ▸ hs)
      fresh := fun hnone => by
        rw [World.changeApplication, hhad] at hnone
        cases hnone
      bare := fun hnone => ⟨hbare hnone, hsupervisor.trans (h.inv.bare hnone).2⟩
      requested := fun t ht => by
        rw [World.changeApplication, hrequested]
        exact h.inv.requested t (hshutdown.symm.trans ht)
      carried := fun t ht _ => .inr fun s u hu => ?_
      quits := fun hok => absurd hok.ended h.unended
      failed := fun _ hout => absurd hout.ended h.unended }
  · exact ⟨⟨.refl _, rfl⟩, h.follows (.refl _) (fun _ _ hmem => .inl hmem) hinv hshutdown
      (Nat.le_refl _) h.launched⟩
  · -- a shutdown that was requested is older than whatever has been launched
    refine Nat.lt_of_lt_of_le (h.before t ?_) (h.launched s u hu)
    rw [← h.shutdown, ← hshutdown]
    exact ht

end Founding

/-! ### Up to the client -/

/-- That no client was ever made lasts while others act: only the main task makes one. -/
theorem lasting_fresh : Lasting fun w => w.application.hadClient = false :=
  fun _ _ hl h => hl.hadClient.trans h

/-- The client has been made, and there is no supervisor yet. -/
def Founded (w : World) : Prop := w.supervisors = [] ∧ w.application.hadClient = true

theorem lasting_founded : Lasting Founded :=
  fun _ _ hl h => ⟨hl.no_supervisors.mpr h.1, hl.hadClient.trans h.2⟩

namespace Act

/-- What is entered into the journal is no matter of the application. -/
theorem record_bystands (what : Happening) {waits : Wait → Prop}
    (hwhat : what.isExchange = false) : Steady Bystands waits (record what) :=
  record_steady bystands_entries hwhat

/-- Loading the configuration changes the application only in that. -/
theorem configuration_bystands {waits : Wait → Prop} : Steady Bystands waits configuration := by
  refine (Steady.gets _).bind fun app => ?_
  split
  · exact Steady.pure _
  · refine Steady.state.bind fun w => ?_
    split
    · exact Steady.fail _
    · refine Steady.bind (Steady.update fun w => ?_) fun _ => Steady.pure _
      exact .of_same .same rfl rfl ⟨rfl, rfl, rfl, rfl, rfl, rfl⟩

theorem setUpLogging_bystands (c : Configuration) {waits : Wait → Prop} :
    Steady Bystands waits (setUpLogging c) := by
  refine Steady.update fun w => ?_
  exact .of_same (.bindContext _) rfl rfl ⟨rfl, rfl, rfl, rfl, rfl, rfl⟩

/-- The configuration of a user is looked for, which may take some time. -/
theorem configureFromUser_meets (h : Founding w₀ w) (hfresh : w.application.hadClient = false) :
    configureFromUser.Meets (mainDiscipline.terms 0)
      (fun w₀ _ w => Founding w₀ w ∧ w.application.hadClient = false) w₀ w := by
  have hfound {w₀ w : World} (h : Founding w₀ w) (hfresh : w.application.hadClient = false) :
      (do
        failIf (← Fiber.state).surroundings.userFailure
        logApplication .info "k8s client configured from kubeconfig" []).Meets
          (mainDiscipline.terms 0)
          (fun w₀ _ w => Founding w₀ w ∧ w.application.hadClient = false) w₀ w := by
    refine h.at_once ?_ lasting_fresh hfresh
    exact Steady.state.bind fun _ => (failIf_steady _).bind fun _ =>
      logApplication_steady bystands_polling.toTolerantOfLogs _ _ _
  rw [configureFromUser]
  refine h.and_then (record_bystands .userConfiguration rfl) lasting_fresh hfresh
    (fun _ w₀ w h hfresh => ?_) fun _ _ _ h hfresh => ⟨h, hfresh⟩
  rw [meets_bind, meets_state, byOutcome_ok]
  cases w.surroundings.userDelay with
  | none => exact hfound h hfresh
  | some seconds =>
    rw [meets_bind, whenAsked, sleep, meets_await]
    refine ⟨h.acting.yields, fun answer w' _ _ hresumed => ?_⟩
    -- nobody else makes anything meanwhile
    have hfresh' := h.acting.lasts hresumed (.inl rfl) lasting_fresh hfresh
    have hnext : Founding w' w' :=
      .begin hresumed.inv hfresh' hresumed.current hresumed.orderly
    cases answer with
    | ok _ => exact hfound hnext hfresh'
    | error e => exact ⟨hnext, hfresh'⟩

/-- The client is made, or nothing. -/
theorem startClient_meets (h : Founding w₀ w) (hfresh : w.application.hadClient = false) :
    startClient.Meets (mainDiscipline.terms 0)
      (byOutcome (fun w₀ _ w => Founding w₀ w ∧ Founded w)
        fun w₀ _ w => Founding w₀ w ∧ w.application.hadClient = false) w₀ w := by
  -- first the cluster is tried, and where that fails ordinarily the user configuration
  have hconfigure : (configureInCluster.recover configureOtherwise).Meets (mainDiscipline.terms 0)
      (fun w₀ _ w => Founding w₀ w ∧ w.application.hadClient = false) w₀ w := by
    rw [meets_recover]
    have hcluster : Steady Bystands (fun _ => False) configureInCluster :=
      configureInCluster_steady bystands_entries
    refine (h.at_once hcluster lasting_fresh hfresh).mono fun w₀ r w hr => ?_
    cases r with
    | ok _ => exact hr
    | error e =>
      show Meets _ _ (configureOtherwise e) w₀ w
      rw [configureOtherwise.eq_def]
      split
      · exact configureFromUser_meets hr.1 hr.2
      · exact hr
  rw [startClient, component, meets_recover, meets_bind]
  refine hconfigure.mono fun w₀ r w hr => ?_
  cases r with
  | error e => exact hr
  | ok _ =>
    rw [byOutcome_ok]
    refine hr.1.and_then Steady.state lasting_fresh hr.2 (fun x w₀ w h hfresh => ?_)
      fun _ _ _ h hfresh => ⟨h, hfresh⟩
    refine h.and_then (failIf_steady _) lasting_fresh hfresh (fun _ w₀ w h hfresh => ?_)
      fun _ _ _ h hfresh => ⟨h, hfresh⟩
    -- no supervisor is there yet, and now a client has been made
    have hnone := (h.inv.fresh hfresh).1
    obtain ⟨hchange, hnext⟩ := h.changeApplication (f := fun app =>
      { app with hasClient := true, hadClient := true }) rfl rfl rfl rfl
      fun hnone => (h.inv.bare hnone).1
    rw [meets_changeApplication]
    exact ⟨hchange, hnext, hnone, rfl⟩

/-! ### From the client on -/

/-- The exporter is started, if the surroundings are mild. -/
theorem startMetrics_meets (h : Founding w₀ w) (hw : Founded w) (port : Int) :
    (startMetrics port).Meets (mainDiscipline.terms 0)
      (byOutcome (fun w₀ _ w => Founding w₀ w ∧ Founded w)
        fun w₀ _ w => Founding w₀ w ∧ Founded w ∧ ¬ w.surroundings.Mild) w₀ w := by
  rw [startMetrics, meets_bind, startExporter]
  split
  · -- without a port no exporter is started
    exact ⟨h, hw⟩
  · have hrecord := bystands_entries.record w (.metricsServer port) rfl
    obtain ⟨hchange, hnext⟩ := h.step hrecord
    have hw' := lasting_founded w _ hrecord.lowers hw
    rw [meets_bind, record, meets_update, byOutcome_ok, meets_bind, meets_state, byOutcome_ok]
    refine ⟨hchange, ?_⟩
    cases hfailure : (w.record (.metricsServer port)).surroundings.exporterFailure with
    | some failure =>
      -- mild surroundings do not fail the exporter
      refine ⟨hnext, hw', fun hmild => ?_⟩
      rw [hmild.exporter] at hfailure
      cases hfailure
    | none =>
      have hlog := bystands_log (w.record (.metricsServer port)) .info applicationComponent
        "metrics exporter started" [("port", .int port)] 0
      obtain ⟨hchange, hnext⟩ := hnext.step hlog
      exact ⟨hchange, hnext, lasting_founded _ _ hlog.lowers hw'⟩

/-- What keeps an informer from being made is ordinary. -/
theorem listing_ordinary {watch : WatchSettings} {failure : Failure}
    (h : listing watch = .error failure) : failure.isOrdinary = true := by
  rw [listing] at h
  split at h
  · cases h
    rfl
  · split at h
    · cases h
      rfl
    · cases h

/-- The informer is made, or the failure is one of a component. -/
theorem buildInformer_meets (h : Founding w₀ w) (hw : Founded w) :
    (buildInformer c).Meets (mainDiscipline.terms 0)
      (byOutcome (fun w₀ _ w => Founding w₀ w ∧ Founded w)
        fun w₀ e w => Founding w₀ w ∧ Founded w ∧ ∃ name cause, e = .component name cause)
      w₀ w := by
  rw [buildInformer, meets_bind, component, meets_recover, meets_ofExcept]
  cases hlisting : listing c.watch with
  | error failure =>
    -- what cannot be listed fails ordinarily, and so the component does
    refine ⟨h, hw, "informer", failure, ?_⟩
    rw [if_pos (listing_ordinary hlisting)]
  | ok found =>
    obtain ⟨kind, list⟩ := found
    have hcursor (v : World) : Bystands v { v with cursors := v.cursors ++ [{}] } :=
      .untouched rfl rfl rfl rfl
    have hinformer (v : World) (informer : Informer) :
        Bystands v { v with informers := v.informers ++ [informer] } := .untouched rfl rfl rfl rfl
    obtain ⟨hchange, hnext⟩ := h.step (hcursor w)
    obtain ⟨hchange', hnext'⟩ := hnext.step (hinformer _ _)
    exact ⟨hchange, hchange', hnext', hw⟩

/-! ### Watching -/

end Act

/-- The world once a supervisor has been made for the application. -/
def owning (x : Supervisor) (w : World) : World :=
  { w with supervisors := w.supervisors ++ [x] }.changeApplication fun app =>
    { app with supervisor := some w.supervisors.length }

/-- The world once it has been started as well, but for the log line. -/
def watching (x : Supervisor) (w : World) : World := Duty.started w.supervisors.length (owning x w)

section Watching

variable {x : Supervisor} {s : SupervisorId} {u : TaskId} (hnone : w.supervisors = [])

include hnone

/-- The new supervisor is the only one. -/
theorem supervisors_owning : (owning x w).supervisors = [x] := by
  show w.supervisors ++ [x] = [x]
  rw [hnone, List.nil_append]

theorem supervisors_watching : (watching x w).supervisors.length = 1 := by
  rw [watching, hnone]
  simp [Duty.started, World.spawn, World.changeSupervisor, supervisors_owning hnone]

/-- The first supervisor has been given the two new tasks. -/
theorem supervisor_watching (hx : x.launched = []) :
    ((watching x w).supervisor 0).handler = x.handler ∧
      ((watching x w).supervisor 0).tasks = [w.tasks.table.length, w.tasks.table.length + 1] ∧
      ((watching x w).supervisor 0).launched =
        [w.tasks.table.length, w.tasks.table.length + 1] := by
  have hcount : 0 < (owning x w).supervisors.length := by
    rw [supervisors_owning hnone]
    exact Nat.one_pos
  have hmade : (owning x w).supervisor 0 = x := by
    rw [World.supervisor, supervisors_owning hnone]
    rfl
  rw [watching, hnone, List.length_nil, Duty.supervisor_started hcount, hmade, hx, List.append_nil]
  exact ⟨rfl, rfl, rfl⟩

theorem supervisor_watching_succ : (watching x w).supervisor (s + 1) = default := by
  have hout : (watching x w).supervisors[s + 1]? = none := by
    rw [List.getElem?_eq_none_iff, supervisors_watching hnone]
    exact Nat.succ_le_succ (Nat.zero_le s)
  rw [World.supervisor, hout]
  rfl

/-- A supervisor watches over all tasks that it was given, -/
theorem tasks_watching (hx : x.launched = []) (s : SupervisorId) :
    ((watching x w).supervisor s).tasks = ((watching x w).supervisor s).launched := by
  obtain ⟨-, htasks, hlaunched⟩ := supervisor_watching hnone hx
  cases s with
  | zero => rw [htasks, hlaunched]
  | succ s =>
    rw [supervisor_watching_succ hnone]
    rfl

/-- and there is only one, which was given the two newest. -/
theorem launched_watching (hx : x.launched = [])
    (hu : u ∈ ((watching x w).supervisor s).launched) :
    s = 0 ∧ w.tasks.table.length ≤ u ∧ u < w.tasks.table.length + 2 := by
  cases s with
  | zero =>
    rw [(supervisor_watching hnone hx).2.2] at hu
    rcases List.mem_cons.mp hu with rfl | hu
    · exact ⟨rfl, Nat.le_refl _, Nat.lt_add_of_pos_right Nat.two_pos⟩
    · rw [List.mem_singleton.mp hu]
      exact ⟨rfl, Nat.le_succ _, Nat.lt_succ_self _⟩
  | succ s =>
    rw [supervisor_watching_succ hnone] at hu
    cases hu

end Watching

/-- The first supervisor belongs to the application, and its tasks have just been launched. -/
theorem Founding.standing_watching (h : Founding w₀ w) (hw : Founded w) {x : Supervisor}
    (hlogging : x.handler = .logging) (hx : x.launched = []) : (watching x w).Standing := by
  obtain ⟨hnone, hhad⟩ := hw
  have hcount := supervisors_watching (x := x) hnone
  have hwithin : w.tasks.Within (ResumableWatch.watching x w).tasks :=
    (Duty.tasks_started w.supervisors.length (owning x w)).1
  have hgrown : (ResumableWatch.watching x w).tasks.table.length = w.tasks.table.length + 2 :=
    Duty.length_started w.supervisors.length (owning x w)
  have hnew {s : SupervisorId} {u : TaskId}
      (hu : u ∈ ((ResumableWatch.watching x w).supervisor s).launched) :=
    launched_watching hnone hx hu
  have hunended : ¬ (ResumableWatch.watching x w).tasks.Ended 0 :=
    fun hended => h.unended ((hwithin.ended 0).mp hended)
  refine
    { logging := fun s hs => ?logging
      known := fun s u hu => hgrown ▸ (hnew hu).2.2
      given := fun s u hu => tasks_watching hnone hx s ▸ hu
      watched := fun s u hu => .inl (tasks_watching hnone hx s ▸ hu)
      owned := fun s hs u hu => ?owned
      fresh := fun hfresh => absurd (hfresh.symm.trans hhad) Bool.false_ne_true
      bare := fun hbare => ?bare
      requested := fun t ht => ?requested
      carried := fun t ht _ => .inr fun s u hu => ?carried
      quits := fun hok => absurd hok.ended hunended
      failed := fun _ hout => absurd hout.ended hunended }
  case logging =>
    rw [hcount, Nat.lt_one_iff] at hs
    rw [hs, (supervisor_watching hnone hx).1, hlogging]
  case owned =>
    -- the application keeps the only supervisor
    refine absurd ?_ hs
    rw [(hnew hu).1]
    exact congrArg (fun l => some l.length) hnone
  case bare =>
    rw [hbare] at hcount
    cases hcount
  case requested =>
    obtain ⟨hrequested, hpos, hlt⟩ := h.inv.requested t ht
    exact ⟨hrequested, hpos, Nat.lt_of_lt_of_le hlt hwithin.length⟩
  case carried =>
    exact Nat.lt_of_lt_of_le (h.before t (h.shutdown.symm.trans ht))
      (Nat.le_trans h.within.length (hnew hu).2.1)

/-- The tasks of the first supervisor are younger than anything that anybody knows of. -/
theorem Founding.watching (h : Founding w₀ w) (hw : Founded w) {x : Supervisor}
    (hlogging : x.handler = .logging) (hx : x.launched = []) :
    Founding w₀ (watching x w) := by
  obtain ⟨hwithin, hstarts⟩ := Duty.tasks_started w.supervisors.length (owning x w)
  refine h.follows hwithin (fun u job hmem => ?starts) (h.standing_watching hw hlogging hx) rfl
    ?supervisors fun s u hu =>
      Nat.le_trans h.within.length (launched_watching hw.1 hx hu).2.1
  case starts =>
    -- the two loops are new, and the poll loop is one of a supervisor that is there
    rcases hstarts u job hmem with hold | ⟨rfl, rfl⟩ | ⟨rfl, rfl⟩
    · exact .inl hold
    · refine .inr ⟨Nat.le_refl _, ?_⟩
      rw [Admits, supervisors_watching hw.1, hw.1]
      exact Nat.one_pos
    · exact .inr ⟨Nat.le_succ _, trivial⟩
  case supervisors =>
    rw [hw.1]
    exact Nat.zero_le _

/-- A supervisor has been made. -/
def Supervising (w : World) : Prop := w.supervisors ≠ [] ∧ w.application.hadClient = true

theorem lasting_supervising : Lasting Supervising :=
  fun _ _ hl h => ⟨fun hnone => h.1 (hl.no_supervisors.mp hnone), hl.hadClient.trans h.2⟩

namespace Act

/-- The supervisor is made and started, and nothing can keep it from that. -/
theorem startWatching_meets (h : Founding w₀ w) (hw : Founded w) (informer : InformerId) :
    (startWatching c informer).Meets (mainDiscipline.terms 0)
      (byOutcome (fun w₀ _ w => Founding w₀ w ∧ Supervising w) fun _ _ _ => False) w₀ w := by
  let x : Supervisor := {
    informer
    handler := .logging
    retryDelay := c.recovery.retryDelay
    statusInterval := c.recovery.statusInterval }
  have hwatching := h.watching hw (x := x) rfl rfl
  have hsupervised : (watching x w).supervisors ≠ [] := by
    intro hbare
    have hcount := supervisors_watching (x := x) hw.1
    rw [hbare] at hcount
    cases hcount
  -- a supervisor that has just been made does not run
  have hidle : ((owning x w).supervisor w.supervisors.length).running = false := by
    rw [World.supervisor, supervisors_owning hw.1, hw.1]
    rfl
  have hlog (component : String) (fields : List (String × Json)) : Bystands (watching x w) _ :=
    bystands_log (watching x w) .info component "runner_started" fields 0
  have hstart : (startSupervisor w.supervisors.length).Meets (mainDiscipline.terms 0)
      (byOutcome (fun w₀ _ w => Founding w₀ w ∧ Supervising w) fun _ _ _ => False)
      w₀ (owning x w) := by
    refine Duty.startSupervisor_meets ?there (fun _ _ _ _ _ => ⟨.of_eq rfl, rfl⟩)
      (fun v job context => ?spawns) (fun hruns => ?idle) fun _ => ?begins
    case there =>
      rw [supervisors_owning hw.1, hw.1]
      exact Nat.one_pos
    case spawns =>
      have hop : Tasks.Op (fun _ => True) v.tasks (v.spawn job context).tasks :=
        .spawn job context trivial
      exact ⟨hop.within, rfl⟩
    case idle =>
      rw [hidle] at hruns
      cases hruns
    case begins =>
      -- what is left of the start is a line to log
      exact ⟨(hwatching.step (hlog _ _)).1, hwatching.bystands (hlog _ _),
        lasting_supervising _ _ (hlog _ _).lowers ⟨hsupervised, hw.2⟩⟩
  exact ⟨⟨.of_eq rfl, rfl⟩, ⟨.of_eq rfl, rfl⟩, hstart⟩

/-- **A start.**  When a start has come to its end, the application runs.  If it fails, no supervisor
has been made; and where the surroundings are mild, no client either, unless the failure is one of a
component. -/
theorem startApplication_meets (h : Founding w₀ w) (hfresh : w.application.hadClient = false) :
    startApplication.Meets (mainDiscipline.terms 0)
      (byOutcome (fun w₀ _ w => Founding w₀ w ∧ w.supervisors ≠ [] ∧ w.application.running = true)
        fun w₀ e w => Founding w₀ w ∧ w.supervisors = [] ∧
          ((∀ name cause, e ≠ .component name cause) → w.surroundings.Mild →
            w.application.hasClient = false)) w₀ w := by
  -- nothing has been made yet
  have hnothing (e : Failure) (w₀ w : World) (h : Founding w₀ w)
      (hfresh : w.application.hadClient = false) : Founding w₀ w ∧ w.supervisors = [] ∧
        ((∀ name cause, e ≠ .component name cause) → w.surroundings.Mild →
          w.application.hasClient = false) :=
    ⟨h, (h.inv.fresh hfresh).1, fun _ _ => (h.inv.fresh hfresh).2⟩
  rw [startApplication]
  refine h.and_then configuration_bystands lasting_fresh hfresh (fun c w₀ w h hfresh => ?_) hnothing
  refine h.and_then (setUpLogging_bystands c) lasting_fresh hfresh (fun _ w₀ w h hfresh => ?_) hnothing
  refine h.and_then (logApplication_steady bystands_polling.toTolerantOfLogs _ _ _) lasting_fresh
    hfresh (fun _ w₀ w h hfresh => ?_) hnothing
  rw [meets_bind]
  refine (startClient_meets h hfresh).mono fun w₀ r w hr => ?_
  rcases r with e | _
  · exact hnothing e w₀ w hr.1 hr.2
  rw [byOutcome_ok, meets_bind]
  refine (startMetrics_meets hr.1 hr.2 c.metricsPort).mono fun w₀ r w hr => ?_
  rcases r with e | _
  · exact ⟨hr.1, hr.2.1.1, fun _ hmild => absurd hmild hr.2.2⟩
  rw [byOutcome_ok, meets_bind]
  refine (buildInformer_meets hr.1 hr.2).mono fun w₀ r w hr => ?_
  rcases r with e | informer
  · obtain ⟨h, hw, name, cause, he⟩ := hr
    exact ⟨h, hw.1, fun hnot => absurd he (hnot name cause)⟩
  have hinformer : Bystands w
      (w.changeApplication fun app => { app with informer := some informer }) :=
    .of_same .same rfl rfl ⟨rfl, rfl, rfl, rfl, rfl, rfl⟩
  obtain ⟨hchange, hnext⟩ := hr.1.step hinformer
  rw [byOutcome_ok, meets_bind, meets_changeApplication, byOutcome_ok, meets_bind]
  refine ⟨hchange, (startWatching_meets hnext (lasting_founded _ _ hinformer.lowers hr.2)
    informer).mono fun w₀ r w hr => ?_⟩
  rcases r with e | _
  · exact hr.elim
  obtain ⟨hchange, hnext⟩ := hr.1.changeApplication (f := fun app => { app with running := true })
    rfl rfl rfl hr.2.2 fun hnone => absurd hnone hr.2.1
  have hlog := bystands_log (w.changeApplication fun app => { app with running := true }) .info
    applicationComponent "kubeinformer started"
    [("kind", .text c.watch.kind), ("namespace", .text c.watch.namespaceName)] 0
  obtain ⟨hchange', hnext'⟩ := hnext.step hlog
  exact ⟨hchange, hchange', hnext', (lasting_supervising _ _ hlog.lowers hr.2).1,
    hlog.application.running⟩

end Act

end ResumableWatch
