import ResumableWatch.Proofs.Application.Shutdown
import ResumableWatch.Proofs.Application.Steady
import ResumableWatch.Proofs.CommandLine.Options
/-!
# The requests of the application

What the application asks the server for.  The settings pass through many hands until they are the
arguments of a watch request; what is proved here is that nothing is lost or mixed up on the way
(`requests_follow_settings`).

An informer is made once, for the configuration that the application has (`Informer.Obeys`), and from
then on nobody changes what it asks for (`World.Retains`).  So whatever the tasks of a run do, there
is at most one informer, and each request is the one of that informer from where its cursor stands
(`World.Directs`).
-/

namespace ResumableWatch

open ResumableWatch.Fiber World

/-! ### What an informer asks for -/

/-- What an informer asks for: how it reaches the server, its query, and its cursor. -/
def Informer.wire (it : Informer) : Transport × Query × CursorId :=
  (it.transport, it.query, it.cursor)

/-- The informer was made for these settings. -/
def Informer.Obeys (watch : WatchSettings) (it : Informer) : Prop :=
  ∃ client kind listing, Act.listing watch = .ok (kind, listing) ∧
    it.transport = .http (Act.endpointOf client watch kind listing) ∧ it.query = Act.queryOf watch

variable {α : Type} {t u : TaskId} {i : InformerId} {it it' : Informer} {c : Configuration}
  {w₀ w w' w'' : World} {watch : WatchSettings}

/-- An informer obeys by what it is wired to. -/
theorem Informer.Obeys.of_wire (h : it.Obeys watch) (hwire : it'.wire = it.wire) :
    it'.Obeys watch := by
  obtain ⟨client, kind, listing, hlisting, htransport, hquery⟩ := h
  have htransport' : it'.transport = it.transport := congrArg Prod.fst hwire
  have hquery' : it'.query = it.query := congrArg (fun wire => wire.2.1) hwire
  exact ⟨client, kind, listing, hlisting, htransport'.trans htransport, hquery'.trans hquery⟩

/-- Informers that ask for the same ask for the same from the same version. -/
theorem Informer.request_of_wire (hwire : it'.wire = it.wire) (w : World) :
    it'.request (w.cursor it'.cursor).version = it.request (w.cursor it.cursor).version := by
  have htransport : it'.transport = it.transport := congrArg Prod.fst hwire
  have hquery : it'.query = it.query := congrArg (fun wire => wire.2.1) hwire
  have hcursor : it'.cursor = it.cursor := congrArg (fun wire => wire.2.2) hwire
  rw [Informer.request, Informer.request, htransport, hquery, hcursor]

namespace World

/-- The application has this configuration, or will find it in its environment. -/
def Intends (c : Configuration) (w : World) : Prop :=
  w.application.configuration = some c ∨
    (w.application.configuration = none ∧
      Configuration.load w.surroundings.environment = .ok c)

/-- What holds between any two turns: there is at most one informer, which was made for the settings,
and the supervisors serve it. -/
structure Wired (c : Configuration) (w : World) : Prop where
  intends : w.Intends c
  informers : w.informers = [] ∨ ∃ it, w.informers = [it] ∧ it.Obeys c.watch
  supervised : ∀ i ∈ w.supervisors.map Supervisor.informer, i < w.informers.length

/-- The request is the one of the only informer, from where its cursor stands. -/
def Directs (c : Configuration) (w : World) (r : WatchRequest) : Prop :=
  ∃ it, w.informers = [it] ∧ it.Obeys c.watch ∧ r = it.request (w.cursor it.cursor).version

/-- A change that makes no informer and no supervisor, and leaves alone what these ask for. -/
structure Retains (w w' : World) : Prop where
  tasks : Tasks.Op (· ≠ Job.launch) w.tasks w'.tasks
  surroundings : w'.surroundings = w.surroundings
  configuration : w'.application.configuration = w.application.configuration
  informers : w'.informers.map Informer.wire = w.informers.map Informer.wire
  supervisors : w'.supervisors.map Supervisor.informer = w.supervisors.map Supervisor.informer
  quiet : asked? w w' = none

/-- What a task may count on that does not act.  The main task is the only one that makes
informers. -/
structure Inherits (t : TaskId) (w w' : World) : Prop where
  informers : w.informers.map Informer.wire <+: w'.informers.map Informer.wire
  first : t = 0 → w.informers = [] → w'.informers = []

namespace Inherits

theorem of_eq (h : w'.informers = w.informers) : Inherits t w w' := by
  refine ⟨⟨[], ?_⟩, fun _ hnone => h.trans hnone⟩
  rw [h, List.append_nil]

theorem trans (h₁ : Inherits t w w') (h₂ : Inherits t w' w'') : Inherits t w w'' where
  informers := h₁.informers.trans h₂.informers
  first ht hnone := h₂.first ht (h₁.first ht hnone)

end Inherits

namespace Retains

theorem inherits (h : Retains w w') (t : TaskId) : Inherits t w w' := by
  refine ⟨⟨[], ?_⟩, fun _ hnone => ?_⟩
  · rw [h.informers, List.append_nil]
  · have hmap := h.informers
    rw [hnone] at hmap
    exact List.map_eq_nil_iff.mp hmap

/-- What retains the wiring keeps all requests directed by the settings. -/
theorem wired (h : Retains w w') (hw : w.Wired c) : w'.Wired c where
  intends := by
    rw [Intends, h.configuration, h.surroundings]
    exact hw.intends
  informers := by
    -- the one informer, if it is there, is wired as it was
    have hmap := h.informers
    rcases hw.informers with hnone | ⟨it, hone, hobeys⟩
    · rw [hnone] at hmap
      exact .inl (List.map_eq_nil_iff.mp hmap)
    · rw [hone] at hmap
      obtain ⟨it', hone', hwire⟩ := List.map_eq_singleton_iff.mp hmap
      exact .inr ⟨it', hone', hobeys.of_wire hwire⟩
  supervised := by
    have hlength := congrArg List.length h.informers
    rw [List.length_map, List.length_map] at hlength
    rw [h.supervisors, hlength]
    exact hw.supervised

/-- The informers, the supervisors and the configuration are as they were. -/
theorem of_same (htasks : Tasks.Op (· ≠ Job.launch) w.tasks w'.tasks)
    (hsurroundings : w'.surroundings = w.surroundings)
    (hconfiguration : w'.application.configuration = w.application.configuration)
    (hinformers : w'.informers = w.informers) (hsupervisors : w'.supervisors = w.supervisors)
    (hquiet : asked? w w' = none) : Retains w w' :=
  ⟨htasks, hsurroundings, hconfiguration, by rw [hinformers], by rw [hsupervisors], hquiet⟩

end Retains

theorem Retains.changeInformer (w : World) (i : InformerId) {f : Informer → Informer}
    (hf : ∀ it, (f it).wire = it.wire) : Retains w (w.changeInformer i f) where
  tasks := .same
  surroundings := rfl
  configuration := rfl
  informers := (map_modify_through (g := id) hf w.informers i).trans (List.modify_id ..)
  supervisors := rfl
  quiet := asked?_of_journal rfl

end World

/-- A running application is not wired anew. -/
theorem retains_running : TolerantOfRunning Retains where
  log w level component event fields lines := by
    have hquiet := asked?_log w level component event fields lines
    obtain ⟨entries, heq, -⟩ := log_eq w level component event fields lines
    rw [heq] at hquiet ⊢
    exact .of_same .same rfl rfl rfl rfl hquiet
  record _ _ hwhat := .of_same .same rfl rfl rfl rfl <| asked?_of_entry rfl fun _ _ heq =>
    Bool.false_ne_true (hwhat.symm.trans (congrArg Happening.isExchange heq))
  closed _ _ _ := .of_same .same rfl rfl rfl rfl (asked?_of_entry rfl nofun)
  metrics _ _ := .of_same .same rfl rfl rfl rfl (asked?_of_journal rfl)
  connection _ _ _ _ := .of_same .same rfl rfl rfl rfl (asked?_of_journal rfl)
  keep _ _ _ := .of_same .same rfl rfl rfl rfl (asked?_of_journal rfl)
  handedOver _ _ _ := .of_same .same rfl rfl rfl rfl (asked?_of_entry rfl nofun)
  stream _ _ _ _ := .of_same .same rfl rfl rfl rfl (asked?_of_journal rfl)
  cursor _ _ _ := .of_same .same rfl rfl rfl rfl (asked?_of_journal rfl)
  books _ _ _ hop := .of_same hop rfl rfl rfl rfl (asked?_of_journal rfl)
  rehearsal _ _ := .of_same .same rfl rfl rfl rfl (asked?_of_journal rfl)
  application w f hf := .of_same .same rfl (hf w.application) rfl rfl (asked?_of_journal rfl)
  -- The phase and the gauges of an informer may change, but not what it asks for.
  informer w i f hf := .changeInformer w i fun it => by
    rw [Informer.wire, (hf it).transport, (hf it).query, (hf it).cursor]
    rfl
  observed w i item := .changeInformer w i fun _ => rfl
  supervisor w s f hf := ⟨.same, rfl, rfl, rfl,
    (map_modify_through (g := id) hf w.supervisors s).trans (List.modify_id ..),
    asked?_of_journal rfl⟩

/-- Nor is it by a poll. -/
theorem retains_opening : TolerantOfOpening Retains where
  toTolerantOfStreams := retains_running.toTolerantOfStreams
  opened _ _ _ := .of_same .same rfl rfl rfl rfl (asked?_of_journal rfl)
  added _ _ := .of_same .same rfl rfl rfl rfl (asked?_of_journal rfl)

/-! ### The discipline -/

/-- What the tasks of an application keep to, so that all its requests are for the configuration. -/
def directing (c : Configuration) : Discipline where
  Inv := Wired c
  Spares := Inherits
  Plays t job w := job = .launch → t = 0 ∧ w.informers = []
  Rests _ _ _ := True
  change w w' := ∀ r, asked? w w' = some r → w.Directs c r
  refl _ _ := .of_eq rfl
  trans := .trans
  books h _ _ := ⟨h.intends, h.informers, h.supervised⟩
  ends h _ _ _ := ⟨h.intends, h.informers, h.supervised⟩
  spared _ _ _ := .of_eq rfl
  spared_end _ _ _ _ _ _ := .of_eq rfl
  plays h hspares _ _ hlaunch := by
    obtain ⟨ht, hnone⟩ := h hlaunch
    exact ⟨ht, hspares.first ht hnone⟩
  rests _ _ := trivial

/-- A change that issues no request is as it has to be. -/
theorem directing_of_quiet (hwithin : w.tasks.Within w'.tasks) (hquiet : asked? w w' = none) :
    ((directing c).terms t).change w w' := by
  refine ⟨hwithin, fun r hasked => ?_⟩
  rw [hquiet] at hasked
  cases hasked

/-- What a task knows in the midst of a turn that it began in `w₀`. -/
structure Wiring (c : Configuration) (t : TaskId) (w₀ w : World) : Prop where
  yields : (directing c).Yields t w₀ w
  orderly : w.tasks.Orderly (some t)

/-- What is known of the world lasts while the others act. -/
def Inherited (t : TaskId) (K : World → Prop) : Prop := ∀ w w', Inherits t w w' → K w → K w'

namespace Wiring

theorem wired (h : Wiring c t w₀ w) : w.Wired c := h.yields.inv

/-- The turn goes on by a change that the others may count on. -/
theorem step (h : Wiring c t w₀ w) (hop : Tasks.Op (· ≠ Job.launch) w.tasks w'.tasks)
    (hinv : w'.Wired c) (hspares : ∀ u, u ≠ t → Inherits u w w') : Wiring c t w₀ w' := by
  have hwithin := hop.within
  refine ⟨h.yields.trans ⟨hinv, fun u hu _ => hspares u hu, fun u job hmem => ?_⟩ h.orderly hwithin,
    hwithin.orderly _ h.orderly⟩
  rcases hop.starts hmem with hold | ⟨hjob, -⟩
  · exact .inl hold
  · exact .inr fun hlaunch => absurd hlaunch hjob

theorem retains (h : Wiring c t w₀ w) (hr : Retains w w') : Wiring c t w₀ w' :=
  h.step hr.tasks (hr.wired h.wired) fun u _ => hr.inherits u

/-- Whatever is entered into the journal. -/
theorem record (h : Wiring c t w₀ w) (what : Happening) : Wiring c t w₀ (w.record what) :=
  h.step .same ⟨h.wired.intends, h.wired.informers, h.wired.supervised⟩ fun _ _ => .of_eq rfl

/-- A wait is over, and a new turn begins. -/
theorem of_resumed {what : Wait} {answer : Wakeup}
    (hresumed : (directing c).Resumed t w what answer w') : Inherits t w w' ∧ Wiring c t w' w' := by
  obtain ⟨found, hspares, heq, -⟩ := hresumed.meanwhile
  refine ⟨?_, .refl hresumed.inv t, hresumed.orderly⟩
  have hbefore : Inherits t w (w.withTasks (w.tasks.suspend t what)) := .of_eq rfl
  have hafter : Inherits t found w' := by
    rw [heq]
    exact .of_eq rfl
  exact hbefore.trans (hspares.trans hafter)

/-- Who retains what is asked for keeps to the discipline, and what is known lasts. -/
theorem meets_knowing (h : Wiring c t w₀ w) {m : Act α} (hm : Steady Retains Act.anyWait m)
    {K : World → Prop} (hK : Inherited t K) (hw : K w) :
    m.Meets ((directing c).terms t) (fun w₀ _ w => Wiring c t w₀ w ∧ K w) w₀ w := by
  refine hm.meets (fun w₀ w => Wiring c t w₀ w ∧ K w) ?resumed ?change ?pause
    (fun _ _ _ hv => hv) ⟨h, hw⟩
  case resumed =>
    rintro v₀ what v answer v' hv - hresumed
    obtain ⟨hinherits, hnext⟩ := of_resumed hresumed
    exact ⟨hnext, hK v v' hinherits hv.2⟩
  case change =>
    rintro v₀ v v' hv hr
    exact ⟨directing_of_quiet hr.tasks.within hr.quiet, hv.1.retains hr,
      hK v v' (hr.inherits t) hv.2⟩
  case pause =>
    rintro v₀ what v hv -
    exact hv.1.yields

/-- Whoever only retains the wiring keeps to the discipline. -/
theorem meets (h : Wiring c t w₀ w) {m : Act α} (hm : Steady Retains Act.anyWait m) :
    m.Meets ((directing c).terms t) (fun w₀ _ w => Wiring c t w₀ w) w₀ w :=
  (h.meets_knowing hm (fun _ _ _ _ => trivial) (K := fun _ => True) trivial).mono
    fun _ _ _ hr => hr.1

/-- After that it goes on. -/
theorem and_then {β : Type} (h : Wiring c t w₀ w) {m : Act α} {f : α → Act β}
    {post : World → Except Failure β → World → Prop} (hm : Steady Retains Act.anyWait m)
    {K : World → Prop} (hK : Inherited t K) (hw : K w)
    (hnext : ∀ a w₀ w, Wiring c t w₀ w → K w → (f a).Meets ((directing c).terms t) post w₀ w)
    (hfail : ∀ e w₀ w, Wiring c t w₀ w → K w → post w₀ (.error e) w) :
    (m >>= f).Meets ((directing c).terms t) post w₀ w := by
  rw [meets_bind]
  refine (h.meets_knowing hm hK hw).mono fun w₀ r w hr => ?_
  cases r with
  | ok a => exact hnext a w₀ w hr.1 hr.2
  | error e => exact hfail e w₀ w hr.1 hr.2

end Wiring

/-! ### Polls -/

/-- The informer is there, and asks for what it asked for. -/
def Serving (i : InformerId) (it : Informer) (w : World) : Prop :=
  (w.informers.map Informer.wire)[i]? = some it.wire

/-- An informer that serves is not replaced. -/
theorem inherited_serving (t : TaskId) (i : InformerId) (it : Informer) :
    Inherited t (Serving i it) := by
  intro w w' h hw
  obtain ⟨rest, hrest⟩ := h.informers
  have hlt := (List.getElem?_eq_some_iff.mp hw).1
  rw [Serving, ← hrest, List.getElem?_append_left hlt]
  exact hw

/-- Where an informer is there, it is the only one, and a request of it is directed. -/
theorem Serving.directs (h : Serving i it w) (hwired : w.Wired c) :
    w.Directs c (it.request (w.cursor it.cursor).version) := by
  rcases hwired.informers with hnone | ⟨only, hone, hobeys⟩
  · rw [Serving, hnone] at h
    cases h
  · rw [Serving, hone] at h
    cases i with
    | succ i => cases h
    | zero =>
      have hwire : only.wire = it.wire := Option.some.inj h
      exact ⟨only, hone, hobeys, (Informer.request_of_wire hwire w).symm⟩

namespace Act

/-- A poll that asks directs its request. -/
theorem ask_meets (h : Wiring c t w₀ w) (hit : Serving i it w) :
    (ask i it).Meets ((directing c).terms t) (fun w₀ _ w => Wiring c t w₀ w) w₀ w := by
  have hnoted : Retains w (noted it w) := retains_running.log w _ _ _ _ 0
  have hcounted : Retains (noted it w) (counted it w) := retains_running.metrics _ _
  have hasking : Retains (counted it w) (asking it w) :=
    .of_same .same rfl rfl rfl rfl (asked?_of_journal rfl)
  have hbefore := ((h.retains hnoted).retains hcounted).retains hasking
  have hserving : Serving i it (asking it w) :=
    inherited_serving t i it _ _ (((hnoted.inherits t).trans (hcounted.inherits t)).trans
      (hasking.inherits t)) hit
  have hchange {v v' : World} (hr : Retains v v') : ((directing c).terms t).change v v' :=
    directing_of_quiet hr.tasks.within hr.quiet
  -- three changes that ask nothing, the request, and what its answer takes
  obtain ⟨rest, hgo, hrest⟩ := ask_goes i it w
  refine hgo.meets_iff.mpr
    ⟨fun change hmem => ?before, ⟨.refl _, fun r hasked => ?request⟩, ?after⟩
  case before =>
    simp only [List.mem_cons, List.not_mem_nil, or_false] at hmem
    rcases hmem with rfl | rfl | rfl
    · exact hchange hnoted
    · exact hchange hcounted
    · exact hchange hasking
  case request =>
    -- the request is made for the version that its cursor had then, which the
    -- three changes left as it was
    rw [asked?_record_request] at hasked
    obtain rfl := Option.some.inj hasked
    have hdirects := hserving.directs hbefore.wired
    rw [World.cursor_of_cursors (cursors_asking it w)] at hdirects
    exact hdirects
  case after =>
    have hrest := (hrest retains_opening).mono (fun _ _ hr => hr) fun _ _ => trivial
    exact (hbefore.record _).meets hrest

/-- So does a poll of an informer that is there, whatever happens while it waits. -/
theorem poll_meets (h : Wiring c t w₀ w) (hi : i < w.informers.length) :
    (poll i).Meets ((directing c).terms t) (fun w₀ _ w => Wiring c t w₀ w) w₀ w := by
  have hit : Serving i (w.informer i) w := by
    rw [Serving, World.informer, List.getElem?_map, List.getElem?_eq_getElem hi]
    rfl
  have hserving := inherited_serving t i (w.informer i)
  rw [poll_eq, meets_bind, informer, meets_gets, byOutcome_ok]
  refine h.and_then (noteResync_steady retains_running.toTolerant i _) hserving hit
    (fun _ w₀ v h hit => ?_) fun _ _ _ h _ => h
  refine h.and_then (resync_steady retains_running.rewinding (fun _ => trivial) _ _ _) hserving hit
    (fun _ w₀ v h hit => ?_) fun _ _ _ h _ => h
  exact ask_meets h hit

/-- So does a round of a poll loop. -/
theorem pollRound_meets (h : Wiring c t w₀ w) (s : SupervisorId) :
    (pollRound (handle s) s).Meets ((directing c).terms t) (fun w₀ _ w => Wiring c t w₀ w) w₀ w := by
  rw [meets_pollRound]
  split
  · rename_i hrunning
    -- a supervisor that runs is there, and so is its informer
    have hs : s < w.supervisors.length := by
      by_contra hnot
      rw [World.supervisor, List.getElem?_eq_none (Nat.le_of_not_lt hnot)] at hrunning
      cases hrunning
    have hi : (w.supervisor s).informer < w.informers.length := by
      refine h.wired.supervised _ (List.mem_map_of_mem ?_)
      rw [World.supervisor, List.getElem?_eq_getElem hs]
      exact List.getElem_mem hs
    have honce : (pollOnce (handle s) s).Meets ((directing c).terms t)
        (fun w₀ _ w => Wiring c t w₀ w) w₀ w := by
      rw [meets_pollOnce]
      refine (poll_meets h hi).mono fun w₀ r v hr => ?_
      cases r with
      | error e => exact hr
      | ok stream =>
        have hdrain := drain_passes .of_steady retains_running.toTolerantOfReading (fun _ => trivial)
          (dispatch_passes .of_steady retains_running.handing (handle_steady retains_running s) s)
          stream
        exact hr.meets hdrain
    refine honce.mono fun w₀ r v hr => ?_
    cases r with
    | ok _ => exact hr
    | error e =>
      have hanswer := answerFailure_steady retains_running.toTolerantOfLogs
        (fun _ => trivial) s e
      exact hr.meets hanswer
  · exact h

/-! ### The start -/

/-- The main task may count on that nobody else makes an informer. -/
theorem inherited_none : Inherited 0 fun w => w.informers = [] := fun _ _ h => h.first rfl

/-- The configuration is the one that the application has, or will find. -/
theorem configuration_meets (h : Wiring c 0 w₀ w) (hnone : w.informers = []) :
    configuration.Meets ((directing c).terms 0)
      (fun w₀ r w => Wiring c 0 w₀ w ∧ w.informers = [] ∧ ∀ c', r = .ok c' → c' = c) w₀ w := by
  rw [configuration, meets_bind, application, meets_gets, byOutcome_ok]
  rcases h.wired.intends with hsome | ⟨hmissing, hload⟩
  · -- the application has been given its configuration
    rw [hsome]
    refine ⟨h, hnone, fun c' hc' => ?_⟩
    cases hc'
    rfl
  · -- it loads one from its surroundings, and keeps that
    rw [hmissing]
    dsimp only
    rw [meets_bind, meets_state, byOutcome_ok, hload]
    dsimp only
    rw [meets_bind, meets_changeApplication, byOutcome_ok]
    let found := w.changeApplication fun app => { app with configuration := some c }
    have hinv : found.Wired c := ⟨.inl rfl, h.wired.informers, h.wired.supervised⟩
    refine ⟨directing_of_quiet (.refl _) (asked?_of_journal rfl),
      h.step .same hinv fun _ _ => .of_eq rfl, hnone, fun c' hc' => ?_⟩
    cases hc'
    rfl

/-- The informer that is made is the first one, and obeys the settings. -/
theorem buildInformer_obeys (h : Wiring c 0 w₀ w) (hnone : w.informers = []) :
    (buildInformer c).Meets ((directing c).terms 0)
      (byOutcome (fun w₀ i w => Wiring c 0 w₀ w ∧ i < w.informers.length)
        fun w₀ _ w => Wiring c 0 w₀ w) w₀ w := by
  rw [buildInformer, meets_bind, component, meets_recover, meets_ofExcept]
  cases hlisting : listing c.watch with
  -- settings that cannot be listed make no informer
  | error failure => exact h
  | ok found =>
    obtain ⟨kind, list⟩ := found
    let it : Informer := {
      transport := .http (endpointOf w.surroundings.client c.watch kind list)
      query := queryOf c.watch
      name := c.watch.kind
      backoff := c.recovery.backoff
      cursor := w.cursors.length }
    have hobeys : it.Obeys c.watch := ⟨w.surroundings.client, kind, list, hlisting, rfl, rfl⟩
    let made : World := { w with cursors := w.cursors ++ [{}] }
    have hmade : Retains w made := .of_same .same rfl rfl rfl rfl (asked?_of_journal rfl)
    have hwiring := h.retains hmade
    -- nobody has made an informer before, so this is the only one
    have hone : made.informers ++ [it] = [it] := by
      show w.informers ++ [it] = [it]
      rw [hnone, List.nil_append]
    have hinv : Wired c { made with informers := made.informers ++ [it] } := by
      refine ⟨hwiring.wired.intends, .inr ⟨it, hone, hobeys⟩, fun i hi => ?_⟩
      have hlt := h.wired.supervised i hi
      rw [hnone] at hlt
      exact absurd hlt (Nat.not_lt_zero i)
    refine ⟨directing_of_quiet (.refl _) hmade.quiet,
      directing_of_quiet (.refl _) (asked?_of_journal rfl),
      hwiring.step .same hinv fun u hu => ⟨?_, fun hmain => absurd hmain hu⟩, ?_⟩
    · rw [List.map_append]
      exact List.prefix_append _ _
    · show w.informers.length < (w.informers ++ [it]).length
      rw [List.length_append]
      exact Nat.lt_succ_self _

/-- The supervisor that is made serves an informer that is there. -/
theorem startWatching_serves (h : Wiring c 0 w₀ w) (hi : i < w.informers.length) :
    (startWatching c i).Meets ((directing c).terms 0) (fun w₀ _ w => Wiring c 0 w₀ w) w₀ w := by
  let x : Supervisor := {
    informer := i
    handler := .logging
    retryDelay := c.recovery.retryDelay
    statusInterval := c.recovery.statusInterval }
  have hinv : Wired c { w with supervisors := w.supervisors ++ [x] } := by
    refine ⟨h.wired.intends, h.wired.informers, fun j hj => ?_⟩
    rw [List.map_append, List.mem_append] at hj
    -- the new supervisor serves the informer that was just made
    rcases hj with hj | hj
    · exact h.wired.supervised j hj
    · rw [List.mem_singleton.mp hj]
      exact hi
  have hmade : Wiring c 0 w₀ { w with supervisors := w.supervisors ++ [x] } :=
    h.step .same hinv fun _ _ => .of_eq rfl
  have hstart : Steady Retains anyWait (do
      changeApplication fun app => { app with supervisor := some w.supervisors.length }
      startSupervisor w.supervisors.length) :=
    Steady.bind (changeApplication_steady retains_running fun _ => rfl) fun _ =>
      startSupervisor_steady retains_running _
  exact ⟨directing_of_quiet (.refl _) (asked?_of_journal rfl), hmade.meets hstart⟩

/-- A start makes one informer at most, for the configuration. -/
theorem startApplication_obeys (h : Wiring c 0 w₀ w) (hnone : w.informers = []) :
    startApplication.Meets ((directing c).terms 0) (fun w₀ _ w => Wiring c 0 w₀ w) w₀ w := by
  have hfail {w₀ w : World} (h : Wiring c 0 w₀ w) (_ : w.informers = []) : Wiring c 0 w₀ w := h
  rw [startApplication, meets_bind]
  refine (configuration_meets h hnone).mono fun w₀ r w hr => ?_
  obtain ⟨h, hnone, hc⟩ := hr
  rcases r with e | c'
  · exact h
  obtain rfl := hc c' rfl
  rw [byOutcome_ok]
  -- up to the informer, that there is none is all that has to be carried along
  refine h.and_then (setUpLogging_steady retains_running _) inherited_none hnone
    (fun _ w₀ w h hnone => ?_) fun _ _ _ => hfail
  refine h.and_then (logApplication_steady retains_running.toTolerantOfLogs _ _ _) inherited_none hnone
    (fun _ w₀ w h hnone => ?_) fun _ _ _ => hfail
  refine h.and_then (startClient_steady retains_running) inherited_none hnone
    (fun _ w₀ w h hnone => ?_) fun _ _ _ => hfail
  refine h.and_then (startMetrics_steady retains_running _) inherited_none hnone
    (fun _ w₀ w h hnone => ?_) fun _ _ _ => hfail
  rw [meets_bind]
  refine (buildInformer_obeys h hnone).mono fun w₀ r w hr => ?_
  rcases r with e | i
  · exact hr
  obtain ⟨h, hi⟩ := hr
  have hthere : Inherited 0 fun w => i < w.informers.length := by
    intro w w' hinherits hi
    have hle := hinherits.informers.length_le
    rw [List.length_map, List.length_map] at hle
    exact Nat.lt_of_lt_of_le hi hle
  rw [byOutcome_ok]
  refine h.and_then (changeApplication_steady retains_running fun _ => rfl) hthere hi
    (fun _ w₀ w h hi => ?_) fun _ _ _ h _ => h
  rw [meets_bind]
  refine (startWatching_serves h hi).mono fun w₀ r w hr => ?_
  rcases r with e | _
  · exact hr
  refine hr.meets ?_
  exact Steady.bind (changeApplication_steady retains_running fun _ => rfl) fun _ =>
    logApplication_steady retains_running.toTolerantOfLogs _ _ _

/-- **A launch** makes one informer at most, and that obeys the settings. -/
theorem launch_obeys (h : Wiring c 0 w₀ w) (hnone : w.informers = []) :
    launch.Meets ((directing c).terms 0) (fun w₀ _ w => Wiring c 0 w₀ w) w₀ w := by
  rw [launch, proceed, meets_bind, meets_attempt]
  refine (startApplication_obeys h hnone).mono fun w₀ r w hr => ?_
  cases r with
  | ok _ => exact hr
  | error e =>
    have hgiveUp : Steady Retains anyWait (do giveUp e; return false) :=
      (giveUp_steady retains_running e).bind fun _ => Steady.pure false
    exact hr.meets hgiveUp

end Act

/-! ### All tasks together -/

/-- Nobody goes on as the start of an application. -/
theorem Wiring.goes_on {next : Job} (hnext : next ≠ .launch) {round : Act Bool}
    (h : round.Meets ((directing c).terms t) (fun w₀ _ w => Wiring c t w₀ w) w₀ w) :
    (Job.continuedBy next round).Meets ((directing c).terms t) ((directing c).post t) w₀ w := by
  rw [Job.continuedBy, meets_bind]
  refine h.mono fun w₀ r w hr => ?_
  rcases r with e | _ | _
  · exact ⟨hr.yields, trivial⟩
  · exact ⟨hr.yields, trivial⟩
  · exact ⟨hr.yields, fun hlaunch => absurd hlaunch hnext⟩

/-- A task that does this and ends leaves all wired. -/
theorem Wiring.ends (h : Wiring c t w₀ w) {m : Act α} (hm : Steady Retains Act.anyWait m) :
    (m >>= fun _ => pure none).Meets ((directing c).terms t) ((directing c).post t) w₀ w := by
  rw [meets_bind]
  refine (h.meets hm).mono fun w₀ r w hr => ?_
  cases r with
  | ok _ => exact ⟨hr.yields, trivial⟩
  | error _ => exact ⟨hr.yields, trivial⟩

/-- Every task of a run of the main task directs its requests. -/
theorem directing_binds : (directing c).Binds (Job.body Session.interruptions) := by
  intro t job w hinv hplays _ horderly
  have h : Wiring c t w w := ⟨.refl hinv t, horderly⟩
  have hsteady {round : Act Bool} (hround : Steady Retains Act.anyWait round) :
      round.Meets ((directing c).terms t) (fun w₀ _ w => Wiring c t w₀ w) w w :=
    h.meets hround
  -- only the start makes informers and only poll loops ask; the others do nothing but run (`hsteady`)
  cases job with
  | launch =>
    obtain ⟨rfl, hnone⟩ := hplays rfl
    exact Wiring.goes_on Job.noConfusion (Act.launch_obeys h hnone)
  | pollLoop s => exact Wiring.goes_on Job.noConfusion (Act.pollRound_meets h s)
  | statusLoop s =>
    refine Wiring.goes_on Job.noConfusion (hsteady ?_)
    exact Act.statusRound_steady retains_running.toTolerantOfLogs (fun _ => trivial) s
  | attend => exact Wiring.goes_on Job.noConfusion (hsteady (Act.attend_steady retains_running))
  | shutdown => exact h.ends (Act.stopApplication_steady retains_running)
  | cancellation u => exact h.ends (Act.cancel_steady retains_running u)
  | session path => exact h.ends (Act.interruptions_steady retains_running path)
  | closeAbandoned s =>
    rw [Job.body, meets_bind]
    refine (h.meets (Steady.await trivial)).mono fun w₀ r w hr => ?_
    cases r with
    | ok _ =>
      exact hr.ends (Act.closeObservation_steady retains_running.toTolerantOfStreams s)
    | error _ => exact ⟨hr.yields, trivial⟩

/-- Before the main task begins nothing has been made, and the discipline holds. -/
theorem directing_sound {interruptions : Session.Interruptions} {surroundings : Surroundings}
    {server : Server} {configuration : Option Configuration}
    (h : (mainWorld interruptions surroundings server configuration).Intends c) :
    (directing c).Sound { world := mainWorld interruptions surroundings server configuration } := by
  have hopening : Opening (mainWorld interruptions surroundings server configuration) :=
    opening_mainWorld
  have hnone : (mainWorld interruptions surroundings server configuration).informers = [] := by
    obtain ⟨ts, hts⟩ := mainWorld_eq interruptions surroundings server configuration
    rw [hts]
    rfl
  refine .of_idle rfl ⟨hopening.orderly, ⟨h, .inl hnone, fun i hi => ?_⟩,
    (fun _ hmem => nomatch hmem), fun u job hmem hlaunch => ⟨?_, hnone⟩⟩
  · rw [hopening.supervisors] at hi
    cases hi
  · -- the main task is the only one that launches
    rcases hopening.starts u job hmem with ⟨hmain, -⟩ | ⟨-, path, hpath⟩
    · exact hmain
    · rw [hpath] at hlaunch
      cases hlaunch

/-! ### On the wire -/

/-- The operation lists objects of the kind: those of a namespace, or all if none is named. -/
def Kind.Lists (kind : Kind) (namespaceName operation : String) : Prop :=
  if namespaceName.isEmpty then operation = kind.api ++ "." ++ kind.clusterListing
  else ∃ listing, kind.namespacedListing = some listing ∧ operation = kind.api ++ "." ++ listing

/-- The arguments of a watch request for these settings. -/
def WatchSettings.arguments (watch : WatchSettings) (version : String) : List (String × Json) :=
  (if watch.namespaceName.isEmpty then [] else [("namespace", .text watch.namespaceName)])
    ++ [("watch", .bool true), ("_preload_content", .bool false)]
    ++ (if watch.labelSelector.isEmpty then [] else [("label_selector", .text watch.labelSelector)])
    ++ (if watch.fieldSelector.isEmpty then [] else [("field_selector", .text watch.fieldSelector)])
    ++ [("timeout_seconds", .int watch.timeoutSeconds), ("resource_version", .text version)]

/-- A selector that is not set is left out of the query. -/
theorem Query.selector_selectorOf (name source : String) :
    Query.selector name (Act.selectorOf source)
      = if source.isEmpty then [] else [(name, .text source)] := by
  rw [Act.selectorOf]
  split
  · rfl
  · rename_i hsome
    rw [Query.selector, if_neg hsome]

/-- The listing of settings is one of their kind. -/
theorem Act.listing_ok {kind : Kind} {listing : Kind.Listing}
    (h : Act.listing watch = .ok (kind, listing)) :
    Kind.find? watch.kind = some kind ∧
      kind.Lists watch.namespaceName (kind.api ++ "." ++ listing.operation) ∧
      listing.namespaceName
        = if watch.namespaceName.isEmpty then none else some watch.namespaceName := by
  rw [Act.listing] at h
  split at h
  · cases h
  · rename_i found hfound
    split at h
    · cases h
    · rename_i list hlist
      cases h
      refine ⟨hfound, ?_⟩
      rw [Kind.listing, Kind.lower_name hfound, hfound] at hlist
      dsimp only at hlist
      rw [Kind.Lists]
      -- with no namespace the listing is that of the cluster
      split at hlist
      · rename_i hempty
        cases hlist
        rw [if_pos hempty, if_pos hempty]
        exact ⟨rfl, rfl⟩
      · rename_i hnamed
        split at hlist
        · cases hlist
        · -- in a namespace the kind has to have an operation for it
          rename_i operation hoperation
          cases hlist
          rw [if_neg hnamed, if_neg hnamed]
          exact ⟨⟨operation, hoperation, rfl⟩, rfl⟩

/-- What an informer asks for that was made for the settings. -/
theorem Informer.Obeys.request (h : it.Obeys watch) (version : String) :
    ∃ kind operation, Kind.find? watch.kind = some kind ∧
      kind.Lists watch.namespaceName operation ∧
      it.request version = ⟨some operation, watch.arguments version⟩ := by
  obtain ⟨client, kind, listing, hlisting, htransport, hquery⟩ := h
  obtain ⟨hfound, hlists, hnamespace⟩ := Act.listing_ok hlisting
  refine ⟨kind, _, hfound, hlists, ?_⟩
  rw [Informer.request, htransport, hquery]
  refine congrArg (WatchRequest.mk _) ?_
  rw [Transport.arguments, Act.endpointOf, hnamespace, WatchSettings.arguments, Query.withVersion,
    Query.arguments, Act.queryOf]
  dsimp only
  rw [Query.selector_selectorOf, Query.selector_selectorOf]
  split <;> split <;> split <;> rfl

/-- **Settings reach the wire unchanged.**  The environment was accepted, and so were the options of
the command line.  In whatever a run of the application can come to, each watch request calls the
operation that lists the kind in effect, in the namespace in effect or everywhere, with just the
arguments that the settings in effect ask for, from the version at which the cursor of the only
informer stands. -/
theorem requests_follow_settings {environment : Configuration.Environment}
    {given : List (CommandLine.Topic × String)} {o : Overrides} {loaded : Configuration}
    (hload : Configuration.load environment = .ok loaded)
    (hgiven : CommandLine.overrides given = .ok o)
    {interruptions : Session.Interruptions} {surroundings : Surroundings} {server : Server}
    {configuration : Option Configuration}
    (hintends : (mainWorld interruptions surroundings server configuration).Intends (o.apply loaded))
    {r : Run} (hr : MainReaches interruptions surroundings server configuration r)
    {change : World × World} (hmem : change ∈ r.changes) {request : WatchRequest}
    (hasked : asked? change.1 change.2 = some request) :
    ∃ watch kind operation it, Effective environment o watch ∧
      Kind.find? watch.kind = some kind ∧ kind.Lists watch.namespaceName operation ∧
      change.1.informers = [it] ∧
      request = ⟨some operation, watch.arguments (change.1.cursor it.cursor).version⟩ := by
  have hsound := Run.Reaches.sound hr directing_binds (directing_sound hintends)
  obtain ⟨it, hone, hobeys, heq⟩ := hsound.change change hmem request hasked
  obtain ⟨kind, operation, hfound, hlists, hrequest⟩ :=
    hobeys.request (change.1.cursor it.cursor).version
  exact ⟨_, kind, operation, it, effective_apply hload hgiven, hfound, hlists, hone,
    heq.trans hrequest⟩

/-- An environment that names a namespace and a timeout beyond the bound. -/
def production : Configuration.Environment := [("NAMESPACE", "prod"), ("WATCH_TIMEOUT", "9999")]

/-- The configuration that is loaded from it. -/
def inProduction : Configuration where
  watch := { namespaceName := "prod", timeoutSeconds := 3600 }

/-- What is laid over it on a command line that asks for services. -/
def services : Overrides := { kind := some "service" }

/-- The poll loop of the application is about to issue its first request. -/
def aboutToAsk : Run :=
  Run.go (Job.body Session.interruptions) (fun _ => false) 6
    { world := mainWorld {} {} endlessBody (some (services.apply inProduction)) }

/-- This run is one of the application. -/
theorem aboutToAsk_reached :
    MainReaches {} {} endlessBody (some (services.apply inProduction)) aboutToAsk :=
  Run.Reaches.start.go (fun _ => false) 6

/-- Services in the namespace are asked for, with the timeout that the bound allows. -/
theorem aboutToAsk_asks_for_services :
    ∃ change ∈ aboutToAsk.changes, ∃ request, asked? change.1 change.2 = some request ∧
      request.operation = some "CoreV1Api.list_namespaced_service" ∧
      request.arguments.lookup "namespace" = some (.text "prod") ∧
      request.arguments.lookup "timeout_seconds" = some (.int 3600) := by
  have hload : Configuration.load production = .ok inProduction := by decide +kernel
  have hgiven : CommandLine.overrides [(.kind, "Service")] = .ok services := by rfl
  have hsome : requestsOf aboutToAsk.changes ≠ [] := by decide +kernel
  obtain ⟨request, hrequest⟩ := List.exists_mem_of_ne_nil _ hsome
  obtain ⟨change, hmem, hasked⟩ := List.mem_filterMap.mp hrequest
  obtain ⟨watch, kind, operation, it, heffective, hfound, hlists, -, rfl⟩ :=
    requests_follow_settings hload hgiven (.inl rfl) aboutToAsk_reached hmem hasked
  -- what is in effect is known, and with it the operation and the arguments
  have hkind : watch.kind = "service" := heffective.kind.trans (by decide +kernel)
  have hnamespace : watch.namespaceName = "prod" := heffective.namespaceName
  have hlabel : watch.labelSelector = "" := heffective.labelSelector
  have hfield : watch.fieldSelector = "" := heffective.fieldSelector
  have htimeout : watch.timeoutSeconds = 3600 := by
    obtain ⟨n, hn, htimeout⟩ := heffective.timeoutSeconds
    have hread : Number.integer "9999" = .ok 9999 := by decide +kernel
    obtain rfl : n = 9999 := Except.ok.inj (hn.symm.trans hread)
    exact htimeout
  have hservice : (Kind.find? "service").map (fun kind => (kind.api, kind.namespacedListing))
      = some ("CoreV1Api", some "list_namespaced_service") := by decide +kernel
  rw [← hkind, hfound] at hservice
  obtain ⟨hapi, hoperation⟩ := Prod.mk.inj (Option.some.inj hservice)
  rw [hnamespace] at hlists
  obtain ⟨listing, hlisting, rfl⟩ := hlists
  obtain rfl := Option.some.inj (hlisting.symm.trans hoperation)
  refine ⟨change, hmem, _, hasked, ?_, ?_, ?_⟩
  · rw [hapi]
    rfl
  · rw [WatchSettings.arguments, hnamespace]
    rfl
  · rw [WatchSettings.arguments, hnamespace, hlabel, hfield, htimeout]
    rfl

end ResumableWatch
