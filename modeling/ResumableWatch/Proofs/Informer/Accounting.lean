import ResumableWatch.Proofs.Informer.Ledger
import ResumableWatch.Proofs.Informer.Receipts
import ResumableWatch.Proofs.Informer.Runs
/-!
# The metrics account for runs

What occurs in a stretch of a call can be read off it (`Stretch.occurrences`), and nothing but that is
entered into the metrics (`Stretch.Balanced`).  Calls may be made in any order, go on in any order,
and be struck by anything while they wait; `metrics_account_for_calls` sums up all of their stretches.
-/

namespace ResumableWatch

open ResumableWatch.Fiber Interplay

/-! ### What occurs in a stretch -/

namespace Stretch

variable (x : Stretch World Call Told)

/-- The wait that a poll is to make, when it begins and finds its cursor armed. -/
def armed? : Option Double :=
  match x.call with
  | .poll i =>
    let it := x.origin.informer i
    if x.number = 0 ∧ (x.before.cursor it.cursor).expired = true then some it.backoff else none
  | _ => none

/-- A poll finds its cursor armed, and leaves it at the origin and not armed. -/
def Rewinds : Prop :=
  match x.call with
  | .poll i =>
    let c := (x.origin.informer i).cursor
    (x.before.cursor c).expired = true ∧ x.after.cursor c = ⟨Version.origin, false⟩
  | _ => False

instance : Decidable x.Rewinds := by
  unfold Rewinds
  split <;> infer_instance

/-- The item that a read receives from the server. -/
def received? : Option Item :=
  match x.call, x.ending with
  | .next _, .done told => told.received
  | _, _ => none

/-- What occurs in a stretch, in order. -/
def occurrences : List Occurrence :=
  x.armed?.toList.map .armed ++ (if x.Rewinds then [.rewound] else [])
    ++ (World.requestsOf x.changes).map .asked ++ x.received?.toList.map .received

/-- The same, under the kind of the call. -/
def entries : List (String × Occurrence) := x.occurrences.map (Prod.mk (x.call.kind x.origin))

/-- What occurs in a stretch is entered into the metrics, and nothing else. -/
def Balanced : Prop := x.after.metrics = x.before.metrics.postAll x.entries

end Stretch

/-- What occurred in the stretches of a run. -/
def ledger (past : List (Stretch World Call Told)) : List (String × Occurrence) :=
  past.flatMap Stretch.entries

/-! ### Changes that count nothing -/

/-- A change that leaves the cursors and the metrics alone, and issues no request. -/
structure Uncounted (w t : World) : Prop where
  still : Still w t
  metrics : t.metrics = w.metrics

/-- What opens a stream is not counted. -/
theorem uncounted_opening : TolerantOfOpening Uncounted where
  log w level component event fields lines :=
    ⟨still_opening.log w level component event fields lines,
      World.log_metrics w level component event fields lines⟩
  closed w c hopen := ⟨still_opening.closed w c hopen, rfl⟩
  connection w c f hf := ⟨still_opening.connection w c f hf, rfl⟩
  opened w connection hopen := ⟨still_opening.opened w connection hopen, rfl⟩
  informer w i f hf := ⟨still_opening.informer w i f hf, rfl⟩
  stream w s f hf := ⟨still_opening.stream w s f hf, rfl⟩
  added w stream := ⟨still_opening.added w stream, rfl⟩

/-- Nor is what is read before it is observed. -/
theorem uncounted_reads : TolerantOfConnections Uncounted where
  toTolerantOfClosing := uncounted_opening.toTolerantOfClosing
  keep w c pending := ⟨still_reads.keep w c pending, rfl⟩
  handedOver w text model := ⟨still_reads.handedOver w text model, rfl⟩

/-- A change that counts nothing and issues no request. -/
structure Silent (w t : World) : Prop where
  quiet : World.asked? w t = none
  metrics : t.metrics = w.metrics

theorem Uncounted.silent {w t : World} (h : Uncounted w t) : Silent w t := ⟨h.still.2, h.metrics⟩

theorem Silent.of_journal {w t : World} (hjournal : t.journal = w.journal)
    (hmetrics : t.metrics = w.metrics) : Silent w t :=
  ⟨World.asked?_of_journal hjournal, hmetrics⟩

/-! ### Calls that keep their books -/

/-- No request is issued, and nothing is counted before a wait. -/
def booking : Terms World where
  change w t := World.asked? w t = none
  pause w _ t := t.metrics = w.metrics ∧ t.cursors = w.cursors

/-- What the last stretch of a call enters into the metrics, under a kind, unless it asks. -/
def Call.Books (kind : String) (call : Call) (w : World) (r : Except Failure Told) (t : World) :
    Prop :=
  match call, r with
  | .poll _, _ => t.metrics = w.metrics ∧ t.cursors = w.cursors
  | .next _, .ok told =>
    t.metrics = w.metrics.postAll (told.received.toList.map fun item => (kind, .received item))
  | _, _ => t.metrics = w.metrics

/-- What a poll goes on with when its backoff has come to something. -/
def Call.tellAfterBackoff (i : InformerId) (it : Informer) (answer : Wakeup) : Act Told :=
  Act.told (Call.afterBackoff i it answer)

/-- What is known of a call that waits. -/
inductive Tellable (u : Waiting World Call Told) : Prop where
  /-- A poll in its backoff. -/
  | resting (i : InformerId) :
    u.call = .poll i → u.number ≠ 0 → u.next = Call.tellAfterBackoff i (u.origin.informer i) →
    Tellable u
  /-- Any other call. -/
  | reading :
    (∀ i, u.call = .poll i → u.number ≠ 0) →
    (∀ answer w, (u.next answer).Meets booking (u.call.Books (u.call.kind u.origin)) w w) →
    Tellable u

/-- A stretch is balanced, and enough is known of its call if it waits. -/
def Stretch.Accountable (x : Stretch World Call Told) (pause : Pause World Told) : Prop :=
  x.Balanced ∧ ∀ u ∈ x.waiting? pause, Tellable u

namespace Stretch

variable {x : Stretch World Call Told}

theorem armed?_eq_none (h : ∀ i, x.call = .poll i → x.number ≠ 0) : x.armed? = none := by
  rw [armed?]
  split
  · rename_i i hcall
    exact if_neg fun hand => h i hcall hand.1
  · rfl

/-- A poll that leaves its cursor as it was takes it nowhere. -/
theorem not_rewinds (h : ∀ i, x.call = .poll i → x.after.cursors = x.before.cursors) :
    ¬ x.Rewinds := by
  rw [Rewinds]
  split
  · rename_i i hcall
    rintro ⟨hexpired, hafter⟩
    rw [World.cursor_of_cursors (h i hcall)] at hafter
    rw [hafter] at hexpired
    exact Bool.false_ne_true hexpired
  · exact id

theorem received?_eq_none (h : ∀ s, x.call ≠ .next s) : x.received? = none := by
  rw [received?]
  split
  · rename_i s told hcall _
    exact absurd hcall (h s)
  · rfl

/-- What occurs in a stretch that begins no poll, asks nothing and, if it is of a poll, changes no
cursor. -/
theorem entries_of_quiet (hpoll : ∀ i, x.call = .poll i → x.number ≠ 0)
    (hcursors : ∀ i, x.call = .poll i → x.after.cursors = x.before.cursors)
    (hrequests : World.requestsOf x.changes = []) :
    x.entries = x.received?.toList.map fun item => (x.call.kind x.origin, .received item) := by
  rw [entries, occurrences, armed?_eq_none hpoll, if_neg (not_rewinds hcursors), hrequests]
  exact List.map_map

/-- What occurs in a stretch of a poll. -/
theorem entries_of_poll {i : InformerId} (hcall : x.call = .poll i) :
    x.entries = (x.armed?.toList.map Occurrence.armed
      ++ (if x.Rewinds then [Occurrence.rewound] else [])
      ++ (World.requestsOf x.changes).map Occurrence.asked).map
        (Prod.mk (x.origin.informer i).name) := by
  have hnone : x.received? = none := received?_eq_none fun s h => by
    rw [hcall] at h
    cases h
  rw [entries, occurrences, hnone, hcall]
  exact congrArg _ (List.append_nil _)

end Stretch

section Accountable

variable {w : World}

/-- What a call has entered at the end of a stretch. -/
theorem books_of_atPause {call : Call} {origin : World} (number : Nat) (answer : Wakeup)
    {m : Act Told}
    (h : AtPause booking (call.Books (call.kind origin)) w (m.advance w).1 (m.advance w).2) :
    let x := Stretch.run call origin number answer m w
    x.after.metrics = w.metrics.postAll
        (x.received?.toList.map fun item => (call.kind origin, .received item)) ∧
      ∀ i, call = .poll i → x.after.cursors = w.cursors := by
  intro x
  obtain ⟨t, pause, hadvance⟩ : ∃ t pause, m.advance w = (t, pause) := ⟨_, _, rfl⟩
  have hx : x = ⟨call, origin, number, answer, w, m.changes w, t, pause.ending⟩ := by
    rw [← show (m.advance w).1 = t from congrArg Prod.fst hadvance,
      ← show (m.advance w).2 = pause from congrArg Prod.snd hadvance]
    rfl
  rw [hadvance] at h
  rw [hx]
  cases pause with
  | wait what next =>
    -- a stretch that ends in a wait has received nothing
    cases call <;> exact ⟨h.1.1, fun _ _ => h.1.2⟩
  | fail e =>
    cases call with
    -- a poll leaves the cursors as they are when it ends
    | poll i => exact ⟨h.1, fun _ _ => h.2⟩
    | _ => exact ⟨h, nofun⟩
  | done told =>
    cases call with
    | poll i => exact ⟨h.1, fun _ _ => h.2⟩
    | _ => exact ⟨h, nofun⟩

/-- Enough is known of a call that keeps its books and waits. -/
theorem tellable_of_atPause {x : Stretch World Call Told} {pause : Pause World Told}
    {s₀ s : World}
    (h : AtPause booking (x.call.Books (x.call.kind x.origin)) s₀ s pause) :
    ∀ u ∈ x.waiting? pause, Tellable u := by
  intro u hu
  cases pause with
  | done told => cases hu
  | fail e => cases hu
  | wait what next =>
    cases hu
    exact .reading (fun _ _ => Nat.succ_ne_zero _)
      fun answer w => h.2 answer w trivial trivial trivial

/-- A stretch in which nothing is asked is accountable, when it keeps its books. -/
theorem accountable_of_meets {call : Call} {origin : World} {number : Nat} {answer : Wakeup}
    {m : Act Told} (hpoll : ∀ i, call = .poll i → number ≠ 0)
    (hm : m.Meets booking (call.Books (call.kind origin)) w w) :
    (Stretch.run call origin number answer m w).Accountable (m.advance w).2 := by
  obtain ⟨hchanges, hpause⟩ := meets_iff_advance.mp hm
  have hrequests : World.requestsOf (m.changes w) = [] := World.requestsOf_eq_nil_iff.mpr hchanges
  obtain ⟨hmetrics, hcursors⟩ := books_of_atPause number answer hpause
  refine ⟨?_, tellable_of_atPause hpause⟩
  rw [Stretch.Balanced, Stretch.entries_of_quiet hpoll hcursors hrequests]
  exact hmetrics

/-! ### Calls in which nothing is asked -/

/-- What counts nothing keeps the books of every call. -/
theorem meets_of_uncounted {α : Type} {m : Act α} (hm : Steady Uncounted (fun _ => True) m)
    {post : World → Except Failure α → World → Prop} {s₀ s : World}
    (hpost : ∀ s₀ r s, s.metrics = s₀.metrics → s.cursors = s₀.cursors → post s₀ r s)
    (hmetrics : s.metrics = s₀.metrics) (hcursors : s.cursors = s₀.cursors) :
    m.Meets booking post s₀ s := by
  refine hm.meets (fun s₀ s => s.metrics = s₀.metrics ∧ s.cursors = s₀.cursors)
    (fun _ _ _ _ _ _ _ _ => ⟨rfl, rfl⟩) ?_ (fun _ _ _ h _ => h)
    (fun s₀ r s h => hpost s₀ r s h.1 h.2) ⟨hmetrics, hcursors⟩
  rintro s₀ s s' ⟨hmetrics, hcursors⟩ hchange
  exact ⟨hchange.still.2, hchange.metrics.trans hmetrics, hchange.still.1.trans hcursors⟩

/-- What is silent and does not wait leaves the metrics as they are. -/
theorem meets_of_silent {α : Type} {m : Act α} (hm : Steady Silent (fun _ => False) m)
    {post : World → Except Failure α → World → Prop} {s₀ s : World} {metrics : Metrics}
    (hpost : ∀ r t, t.metrics = metrics → post s₀ r t) (h : s.metrics = metrics) :
    m.Meets booking post s₀ s :=
  hm.meets_at_once (fun t => t.metrics = metrics)
    (fun _ _ ht hchange => ⟨hchange.quiet, hchange.metrics.trans ht⟩) hpost h

/-- Whatever receives nothing keeps its books when it leaves metrics and cursors alone. -/
theorem books_of_same {call : Call} {kind : String} {s₀ s : World} {r : Except Failure Outcome}
    (hmetrics : s.metrics = s₀.metrics) (hcursors : s.cursors = s₀.cursors) :
    call.Books kind s₀ (.ok { result := r }) s := by
  cases call with
  | poll i => exact ⟨hmetrics, hcursors⟩
  | _ => exact hmetrics

theorem told_meets {m : Act Outcome} (hm : Steady Uncounted (fun _ => True) m) (call : Call)
    (kind : String) {s₀ s : World} (hmetrics : s.metrics = s₀.metrics)
    (hcursors : s.cursors = s₀.cursors) : (Act.told m).Meets booking (call.Books kind) s₀ s := by
  rw [Act.told, meets_bind, meets_attempt]
  exact meets_of_uncounted hm (fun _ _ _ hmetrics hcursors => books_of_same hmetrics hcursors)
    hmetrics hcursors

/-- A call that does not wait and is no poll keeps its books when it is silent. -/
theorem told_meets_of_silent {call : Call} (hpoll : ∀ i, call ≠ .poll i)
    (hm : Steady Silent (fun _ => False) call.act) (kind : String) (w : World) :
    (Act.told call.act).Meets booking (call.Books kind) w w := by
  rw [Act.told, meets_bind, meets_attempt]
  refine meets_of_silent hm (fun r t ht => ?_) rfl
  rw [byOutcome_ok, meets_pure]
  cases call with
  | poll i => exact absurd rfl (hpoll i)
  | _ => exact ht

theorem log_silent {waits : Wait → Prop} (level : Log.Level) (component event : String)
    (fields : List (String × Json)) : Steady Silent waits (Act.log level component event fields) :=
  Act.log_steady (P := Silent)
    ⟨fun w level component event fields lines =>
      (uncounted_opening.log w level component event fields lines).silent⟩ _ _ _ _

theorem onCursor_silent {waits : Wait → Prop} (i : InformerId) (f : Cursor → Cursor) :
    Steady Silent waits (Call.onCursor i f) :=
  ((Steady.gets _).bind fun _ => Steady.update fun _ => .of_journal rfl rfl).bind fun _ =>
    Steady.pure _

/-- The calls that neither read nor poll. -/
theorem silent_calls {call : Call} (hwait : ¬ call.MayWait) :
    Steady Silent (fun _ => False) call.act := by
  cases call with
  | setVersion i version =>
    -- a line is logged, and the cursor is set
    refine Steady.bind (Steady.bind (Steady.gets _) fun _ =>
      Steady.bind (log_silent _ _ _ _) fun _ => ?_) fun _ => Steady.pure _
    exact Steady.update fun _ => .of_journal rfl rfl
  | resetVersion i =>
    refine Steady.bind (Steady.bind (Steady.gets _) fun _ =>
      Steady.bind (log_silent _ _ _ _) fun _ => ?_) fun _ => Steady.pure _
    exact Steady.update fun _ => .of_journal rfl rfl
  | arm i => exact onCursor_silent i _
  | clear i => exact onCursor_silent i _
  | copy i query =>
    exact ((Steady.gets _).bind fun _ => Steady.state.bind fun _ =>
      (Steady.update fun _ => .of_journal rfl rfl).bind fun _ => Steady.pure _).bind fun _ =>
        Steady.pure _
  | _ => exact absurd trivial hwait

/-! ### Reads -/

namespace Act

variable {s : StreamId} {stream : Stream} {w₀ t : World}

/-- Whatever an observation does beyond counting is silent. -/
theorem observeVersion_silent {waits : Wait → Prop} (stream : Stream) (incoming : String) :
    Steady Silent waits (observeVersion stream incoming) := by
  rw [observeVersion]
  split
  · exact Steady.pure ()
  · refine Steady.state.bind fun w => ?_
    split
    · exact Steady.fail _
    · exact (Steady.update fun _ => .of_journal rfl rfl).bind fun _ => log_silent _ _ _ _

/-- The phase of an informer is no matter of the metrics. -/
theorem markDesynced_silent {waits : Wait → Prop} (owner : Option InformerId) :
    Steady Silent waits (markDesynced owner) := by
  cases owner with
  | none => exact Steady.pure ()
  | some i => exact Steady.update fun _ => .of_journal rfl rfl

/-- Observing an item enters it into the metrics, before anything can fail. -/
theorem observe_posts (item : Item) {post : World → Except Failure Unit → World → Prop}
    (hpost : ∀ r u, u.metrics = t.metrics.post stream.name (.received item) → post w₀ r u) :
    (observe stream item).Meets booking post w₀ t := by
  have hquiet (f : Metrics → Metrics) (u : World) : World.asked? u (u.changeMetrics f) = none :=
    World.asked?_of_journal rfl
  cases item with
  | failure f =>
    rw [Metrics.post] at hpost
    rw [observe]
    split
    · rename_i hown
      rw [if_pos hown] at hpost
      rw [meets_bind, meets_update, byOutcome_ok]
      exact ⟨hquiet _ _, meets_of_silent (log_silent _ _ _ _) hpost rfl⟩
    · -- a failure of somebody else is not counted
      rename_i hforeign
      rw [if_neg hforeign] at hpost
      exact hpost _ t rfl
  | event e =>
    rw [Metrics.post] at hpost
    rw [observe, meets_bind, meets_update, byOutcome_ok]
    refine ⟨hquiet _ _, ?_⟩
    cases hs : e.status with
    | none =>
      -- an event is counted when it is received; merging its version counts nothing
      rw [hs] at hpost
      exact meets_of_silent ((Steady.ofExcept _).bind fun _ => observeVersion_silent stream _)
        hpost rfl
    | some status =>
      -- a status is counted twice, as an event and as an error
      rw [hs] at hpost
      show (observeStatus stream status).Meets booking _ _ _
      rw [observeStatus, meets_bind, meets_update, byOutcome_ok]
      refine ⟨hquiet _ _, meets_of_silent ?_ hpost rfl⟩
      split
      · exact (log_silent _ _ _ _).bind fun _ =>
          (Steady.update fun _ => .of_journal rfl rfl).bind fun _ => markDesynced_silent _
      · exact log_silent _ _ _ _

theorem setBusy_uncounted {waits : Wait → Prop} (s : StreamId) (busy : Bool) :
    Steady Uncounted waits (setBusy s busy) :=
  Steady.update fun w => uncounted_opening.stream w s _ fun _ => ⟨rfl, rfl, rfl⟩

theorem endObservation_silent {waits : Wait → Prop} (s : StreamId) :
    Steady Silent waits (endObservation s) :=
  (endObservation_steady uncounted_opening.toTolerantOfStreams s).mono
    (fun _ _ h => h.silent) fun _ hwait => hwait

theorem failObservation_silent {waits : Wait → Prop} {α : Type} (s : StreamId)
    (failure : Failure) : Steady Silent waits (failObservation s failure : Act α) :=
  (endObservation_silent s).bind fun _ => Steady.fail failure

/-- What is made of what was received enters it into the metrics. -/
theorem conclude_posts (taken : Except Failure (Option Item)) (h : t.metrics = w₀.metrics) :
    (conclude s stream taken).Meets booking
      (fun u₀ _ u => u.metrics = u₀.metrics.postAll
        (taken.toOption.join.toList.map fun item => (stream.name, .received item))) w₀ t := by
  rcases taken with failure | _ | item
  · exact meets_of_silent (failObservation_silent s failure) (fun _ _ hu => hu) h
  · exact meets_of_silent ((endObservation_silent s).bind fun _ => Steady.pure _)
      (fun _ _ hu => hu) h
  · -- the item is counted, and closing after a failure counts nothing more
    rw [conclude, meets_bind, meets_attempt]
    refine observe_posts item fun r u hu => ?_
    rw [h] at hu
    rw [byOutcome_ok]
    cases r with
    | error failure => exact meets_of_silent (failObservation_silent s failure) (fun _ _ hv => hv) hu
    | ok _ =>
      refine meets_of_silent (Steady.bind ?_ fun _ => Steady.pure _) (fun _ _ hv => hv) hu
      cases stream.owner with
      | none => exact Steady.pure ()
      | some i => exact Steady.update fun _ => .of_journal rfl rfl

theorem deliver_silent {waits : Wait → Prop} (s : StreamId) (item : Option Item) :
    Steady Silent waits (deliver s item) := by
  cases item with
  | some item => exact Steady.pure _
  | none =>
    refine Steady.bind ?_ fun _ => Steady.pure _
    exact (closeStream_steady uncounted_opening.toTolerantOfStreams s).mono
      (fun _ _ h => h.silent) fun _ hwait => hwait

/-- A read enters what it received, and nothing else. -/
theorem finish_posts (taken : Except Failure (Option Item)) (h : t.metrics = w₀.metrics) :
    (finish s stream taken).Meets booking
      (fun u₀ _ u => u.metrics = u₀.metrics.postAll
        (taken.toOption.join.toList.map fun item => (stream.name, .received item))) w₀ t := by
  rw [finish, meets_bind, meets_ensure]
  refine (conclude_posts taken h).mono fun u₀ r u hu => ?_
  refine meets_of_silent ((setBusy_uncounted s false).mono (fun _ _ h => h.silent) fun _ h => h)
    (fun r' v hv => ?_) hu
  cases r' with
  | error e => exact hv
  | ok _ =>
    cases r with
    | error e => exact hv
    | ok item => exact meets_of_silent (deliver_silent s item) (fun _ _ hv' => hv') hv

/-- A read keeps its books. -/
theorem tellNext_meets (s : StreamId) (w : World) :
    (tellNext s).Meets booking ((Call.next s).Books (w.stream s).name) w w := by
  rw [tellNext, meets_bind, meets_state, byOutcome_ok]
  dsimp only
  split
  · exact told_meets (Steady.fail _) _ _ rfl rfl
  · split
    · refine told_meets (Steady.bind ?_ fun _ => Steady.pure _) _ _ rfl rfl
      exact closeStream_steady uncounted_opening.toTolerantOfStreams s
    · rw [setProgress, meets_bind, meets_update, byOutcome_ok, setBusy, meets_bind, meets_update,
        byOutcome_ok, meets_bind, meets_state, byOutcome_ok]
      refine ⟨World.asked?_of_journal rfl, World.asked?_of_journal rfl, ?_⟩
      -- the stream keeps its name while it is marked as being read
      have hopened := World.part_changeStream Stream.name w s s
        (f := fun stream => { stream with progress := .open }) fun _ => rfl
      have hbusy := World.part_changeStream Stream.name
        (w.changeStream s fun stream => { stream with progress := .open }) s s
        (f := fun stream => { stream with busy := true }) fun _ => rfl
      rw [← hopened, ← hbusy, meets_bind, meets_attempt]
      refine meets_of_uncounted (nextItem_steady uncounted_reads (fun _ => trivial) _)
        (fun t₀ taken t ht _ => ?_) rfl rfl
      rw [byOutcome_ok, meets_bind, meets_attempt]
      refine (finish_posts taken ht).mono fun _ r u hu => ?_
      rw [byOutcome_ok, meets_pure]
      exact hu

end Act

/-! ### Polls -/

namespace Act

/-- A poll that asks is counted once, and issues one request. -/
theorem ask_books (i : InformerId) (it : Informer) (w : World) :
    ∃ changes rest t, Goes (ask i it) w changes rest t ∧
      World.requestsOf changes = [it.request (w.cursor it.cursor).version] ∧
      t.metrics = w.metrics.countPoll it.name ∧ t.cursors = w.cursors ∧
      Steady Uncounted (fun _ => True) rest := by
  obtain ⟨rest, hgo, hrest⟩ := ask_goes i it w
  refine ⟨_, rest, _, hgo.trans (.write .here), ?_, ?_, cursors_asking it w,
    (hrest uncounted_opening).mono (fun _ _ h => h) fun _ _ => trivial⟩
  · have hnoted : World.asked? w (noted it w) = none := World.asked?_log _ _ _ _ _ _
    have hcounted : World.asked? (noted it w) (counted it w) = none := World.asked?_of_journal rfl
    have hasking : World.asked? (counted it w) (asking it w) = none := World.asked?_of_journal rfl
    rw [World.requestsOf_append, World.requestsOf_eq_nil_iff.mpr, List.nil_append,
      World.requestsOf_cons_of_some (World.asked?_record_request (asking it w) _ _)]
    · rfl
    · simp only [List.mem_cons, List.not_mem_nil, or_false, forall_eq_or_imp, forall_eq]
      exact ⟨hnoted, hcounted, hasking⟩
  · show (noted it w).metrics.countPoll it.name = _
    rw [noted, World.log_metrics]

/-- A resync that has slept is counted if it goes back to the origin. -/
theorem settle_posts (c : CursorId) (name : String) (w : World) :
    (settle c name).Meets {} (fun _ _ t => t.metrics =
      if (w.cursor c).expired then w.metrics.countResync name else w.metrics) w w := by
  rw [settle, cursor, meets_bind, meets_gets, byOutcome_ok]
  cases (w.cursor c).expired with
  | true =>
    -- still armed: the cursor goes back, and that is counted
    show (rewind c name >>= fun _ => _ >>= fun _ => _).Meets _ _ w w
    rw [rewind, bind_assoc, changeCursor, meets_bind, meets_update, byOutcome_ok, bind_assoc,
      meets_bind, meets_update, byOutcome_ok, meets_bind, log, meets_update, byOutcome_ok,
      meets_bind, changeCursor, meets_update]
    refine ⟨trivial, trivial, trivial, trivial, ?_⟩
    exact World.log_metrics ..
  | false =>
    -- somebody has disarmed the cursor during the sleep, so it goes nowhere
    show (log _ _ _ _ >>= fun _ => _ >>= fun _ => _).Meets _ _ w w
    rw [log, meets_bind, meets_update, byOutcome_ok, meets_bind, changeCursor, meets_update]
    refine ⟨trivial, trivial, ?_⟩
    exact World.log_metrics ..

/-- A call that tells what it came to goes the same way. -/
theorem told_goes {m m' : Act Outcome} {w t : World} {changes : List (World × World)}
    (h : Goes m w changes m' t) : Goes (told m) w changes (told m') t := h.attempt.bind _

end Act

/-- A stretch of a poll that counts nothing any more, once it has come to some point. -/
theorem poll_stretch (i : InformerId) (origin : World) (number : Nat) (answer : Wakeup)
    {m rest : Act Outcome} {changes : List (World × World)} {t : World}
    (hgo : Goes m w changes rest t) (hrest : Steady Uncounted (fun _ => True) rest) :
    let x := Stretch.run (.poll i) origin number answer (Act.told m) w
    World.requestsOf x.changes = World.requestsOf changes ∧ x.after.metrics = t.metrics ∧
      x.after.cursors = t.cursors ∧ ∀ u ∈ x.waiting? ((Act.told m).advance w).2, Tellable u := by
  intro x
  -- telling what came of it does not change what is done
  have htold := Act.told_goes hgo
  obtain ⟨hchanges, hpause⟩ := meets_iff_advance.mp
    (@told_meets _ hrest (.poll i) ((Call.poll i).kind origin) t t rfl rfl)
  obtain ⟨hmetrics, hcursors⟩ := books_of_atPause number answer hpause
  have hadvance : (Act.told m).advance w = (Act.told rest).advance t := htold.advance_eq
  have hafter : x.after = ((Act.told rest).advance t).1 := congrArg Prod.fst hadvance
  refine ⟨?requests, ?metrics, ?cursors, ?tellable⟩
  case requests =>
    show World.requestsOf ((Act.told m).changes w) = _
    rw [htold.changes_eq, World.requestsOf_append, World.requestsOf_eq_nil_iff.mpr hchanges,
      List.append_nil]
  case metrics =>
    rw [hafter]
    exact hmetrics
  case cursors =>
    rw [hafter]
    exact hcursors i rfl
  case tellable =>
    rw [hadvance]
    exact tellable_of_atPause (x := x) hpause

namespace Stretch

variable {x : Stretch World Call Told} {i : InformerId} {r : WatchRequest}

/-- A stretch of a poll that asks without a backoff before it is balanced when the poll is counted. -/
theorem balanced_of_asks (hcall : x.call = .poll i) (harmed : x.armed? = none)
    (hrequests : World.requestsOf x.changes = [r])
    (hmetrics : x.after.metrics
      = (if x.Rewinds then x.before.metrics.countResync (x.origin.informer i).name
          else x.before.metrics).countPoll (x.origin.informer i).name) : x.Balanced := by
  rw [Balanced, entries_of_poll hcall, harmed, hrequests, hmetrics]
  by_cases hrewinds : x.Rewinds
  · rw [if_pos hrewinds, if_pos hrewinds]
    rfl
  · rw [if_neg hrewinds, if_neg hrewinds]
    rfl

end Stretch

/-- Noting that a resync is due changes neither metrics nor cursors. -/
theorem noteResync_books (i : InformerId) (it : Informer) (w : World) :
    ∃ changes t, Goes (Act.noteResync i it) w changes (pure ()) t ∧
      World.requestsOf changes = [] ∧ t.metrics = w.metrics ∧ t.cursors = w.cursors := by
  obtain ⟨changes, t, hgo, -, -, -⟩ := Act.noteResync_goes i it it.cursor w
  have hmeets : (Act.noteResync i it).Meets booking
      (fun s₀ _ s => s.metrics = s₀.metrics ∧ s.cursors = s₀.cursors) w w :=
    meets_of_uncounted (Act.noteResync_steady uncounted_opening.toTolerant i it)
      (fun _ _ _ hmetrics hcursors => ⟨hmetrics, hcursors⟩) rfl rfl
  obtain ⟨hchanges, hmetrics, hcursors⟩ := hgo.meets_iff.mp hmeets
  exact ⟨changes, t, hgo, World.requestsOf_eq_nil_iff.mpr hchanges, hmetrics, hcursors⟩

/-- The backoff of a resync is counted before it begins. -/
theorem resync_books {c : CursorId} {w : World} (h : (w.cursor c).expired = true) (name : String)
    (backoff : Double) :
    ∃ changes t,
      Goes (Act.resync c name backoff) w changes
        (.wait (.sleep backoff) fun answer =>
          Fiber.ofExcept answer >>= fun _ => Act.settle c name) t ∧
      World.requestsOf changes = [] ∧ t.metrics = w.metrics.observeBackoff name backoff ∧
      t.cursors = w.cursors := by
  have hgo : Goes (Act.resync c name backoff) w []
      (if !(w.cursor c).expired then pure false else Act.backOff c name backoff) w := by
    rw [Act.resync_eq]
    exact .read .here
  rw [h] at hgo
  refine ⟨_, _, hgo.trans (.read (.write (.read (.write .here)))), ?_, ?_, ?_⟩
  · refine World.requestsOf_eq_nil_iff.mpr fun change hchange => ?_
    rcases List.mem_cons.mp hchange with rfl | hchange
    · exact World.asked?_log _ _ _ _ _ _
    · rw [List.mem_singleton.mp hchange]
      exact World.asked?_of_journal rfl
  · exact congrArg (Metrics.observeBackoff name backoff) (World.log_metrics ..)
  · exact World.log_cursors ..

/-- From a cursor that is not armed a poll is accountable for its request. -/
theorem poll_accountable_of_clear {i : InformerId}
    (h : (w.cursor (w.informer i).cursor).expired = false) :
    (Stretch.first (Call.poll i) (Call.tell (.poll i)) w).Accountable
      ((Call.tell (.poll i)).advance w).2 := by
  obtain ⟨noted, t, hnote, hnoted, hmetrics, hcursors⟩ := noteResync_books i (w.informer i) w
  have hclear : (t.cursor (w.informer i).cursor).expired = false := by
    rw [World.cursor_of_cursors hcursors, h]
  obtain ⟨asked, rest, u, hask, hrequests, hcounted, -, hrest⟩ :=
    Act.ask_books i (w.informer i) t
  -- the note, no resync, and the request with its count
  have hpoll : Goes (Act.poll i) w (noted ++ asked) rest u := by
    rw [Act.poll_eq]
    exact .read ((hnote.bind _).trans (((Act.resync_goes_of_clear hclear _ _).bind _).trans hask))
  obtain ⟨hall, hafter, -, hwaiting⟩ := poll_stretch i w 0 (.ok ())
    (hpoll.bind fun s => pure (Outcome.opened s)) (hrest.bind fun _ => Steady.pure _)
  rw [World.requestsOf_append, hnoted, hrequests, List.nil_append] at hall
  refine ⟨Stretch.balanced_of_asks rfl ?_ hall ?_, hwaiting⟩
  · exact if_neg fun hand => Bool.false_ne_true (h.symm.trans hand.2)
  · refine hafter.trans (hcounted.trans (congrArg (Metrics.countPoll _) ?_))
    refine hmetrics.trans (if_neg fun hrewinds => ?_).symm
    exact Bool.false_ne_true (h.symm.trans hrewinds.1)

/-- From an armed cursor a poll is accountable for its backoff. -/
theorem poll_accountable_of_armed {i : InformerId}
    (h : (w.cursor (w.informer i).cursor).expired = true) :
    (Stretch.first (Call.poll i) (Call.tell (.poll i)) w).Accountable
      ((Call.tell (.poll i)).advance w).2 := by
  obtain ⟨noted, t, hnote, hnoted, hmetrics, hcursors⟩ := noteResync_books i (w.informer i) w
  have harmed : (t.cursor (w.informer i).cursor).expired = true := by
    rw [World.cursor_of_cursors hcursors, h]
  obtain ⟨logged, u, hresync, hlogged, hcounted, hsame⟩ :=
    resync_books harmed (w.informer i).name (w.informer i).backoff
  have hpoll : Goes (Act.poll i) w (noted ++ logged)
      (.wait (.sleep (w.informer i).backoff) (Act.afterBackoff i (w.informer i))) u := by
    rw [Act.poll_eq, ← Act.sleep_bind_ask]
    exact .read ((hnote.bind _).trans (hresync.bind _))
  have htold := Act.told_goes (hpoll.bind fun s => pure (Outcome.opened s))
  have hadvance : (Call.tell (.poll i)).advance w
      = (u, .wait (.sleep (w.informer i).backoff) (Call.tellAfterBackoff i (w.informer i))) :=
    htold.advance_eq
  have hchanges : (Call.tell (.poll i)).changes w = noted ++ logged :=
    htold.changes_eq.trans (List.append_nil _)
  have hx : Stretch.first (Call.poll i) (Call.tell (.poll i)) w
      = ⟨.poll i, w, 0, .ok (), w, noted ++ logged, u, .waits (.sleep (w.informer i).backoff)⟩ := by
    rw [Stretch.first, Stretch.run, hadvance, hchanges]
    rfl
  have hbackoff : (Stretch.first (Call.poll i) (Call.tell (.poll i)) w).armed?
      = some (w.informer i).backoff := if_pos ⟨rfl, h⟩
  rw [hx] at hbackoff
  rw [hx, hadvance]
  refine ⟨?_, fun v hv => ?_⟩
  · -- the cursors are as they were, so it is a backoff and not a rewinding
    rw [Stretch.Balanced, Stretch.entries_of_poll rfl, hbackoff,
      if_neg (Stretch.not_rewinds fun _ _ => hsame.trans hcursors),
      World.requestsOf_append, hnoted, hlogged]
    exact hcounted.trans (congrArg _ hmetrics)
  · cases hv
    exact .resting i rfl (Nat.succ_ne_zero 0) rfl

/-- A poll that goes on after its backoff is accountable, whatever it finds and whatever has struck
it. -/
theorem rested_accountable {i : InformerId} {origin : World} {number : Nat} (hnumber : number ≠ 0)
    (answer : Wakeup) :
    (Stretch.run (Call.poll i) origin number answer
      (Call.tellAfterBackoff i (origin.informer i) answer) w).Accountable
        ((Call.tellAfterBackoff i (origin.informer i) answer).advance w).2 := by
  cases answer with
  | error failure =>
    exact accountable_of_meets (fun _ _ => hnumber)
      (told_meets (Steady.fail failure) _ _ rfl rfl)
  | ok _ =>
    obtain ⟨settled, t, hsettle, hconf⟩ :=
      Act.settle_goes (origin.informer i).cursor (origin.informer i).name w
    have hmetrics : t.metrics = _ := (hsettle.meets_iff.mp (Act.settle_posts _ _ w)).2
    obtain ⟨asked, rest, u, hask, hrequests, hcounted, hsame, hrest⟩ :=
      Act.ask_books i (origin.informer i) t
    have hpoll : Goes (Act.afterBackoff i (origin.informer i) (.ok ())) w (settled ++ asked)
        rest u := (hsettle.bind _).trans hask
    obtain ⟨hall, hafter, hcursors, hwaiting⟩ := poll_stretch i origin number (.ok ())
      (hpoll.bind fun s => pure (Outcome.opened s)) (hrest.bind fun _ => Steady.pure _)
    rw [World.requestsOf_append, hconf.noRequest, hrequests, List.nil_append] at hall
    refine ⟨Stretch.balanced_of_asks rfl ?_ hall ?_, hwaiting⟩
    · exact if_neg fun hand => hnumber hand.1
    · -- the cursor is disarmed in any case, and at the origin exactly if it was armed
      have hcursor := (World.cursor_of_cursors (hcursors.trans hsame) _).trans hconf.cursor
      refine hafter.trans (hcounted.trans (congrArg (Metrics.countPoll _) ?_))
      refine hmetrics.trans (if_congr ?_ rfl rfl)
      refine ⟨fun hexpired => ⟨hexpired, hcursor.trans ?_⟩, fun hrewinds => hrewinds.1⟩
      rw [Act.settledVersion, if_pos hexpired]

/-- A call that waits makes an accountable stretch, whatever its wait comes to. -/
theorem Tellable.accountable {u : Waiting World Call Told} (hu : Tellable u) (answer : Wakeup) :
    (u.stretch answer w).Accountable ((u.next answer).advance w).2 := by
  obtain ⟨call, origin, number, next⟩ := u
  cases hu with
  | reading hpoll hmeets => exact accountable_of_meets hpoll (hmeets answer w)
  | resting i hcall hnumber hnext =>
    obtain rfl : call = .poll i := hcall
    obtain rfl : next = Call.tellAfterBackoff i (origin.informer i) := hnext
    exact rested_accountable hnumber answer

/-- Every call begins with an accountable stretch. -/
theorem Call.accountable (call : Call) :
    (Stretch.first call call.tell w).Accountable (call.tell.advance w).2 := by
  cases call with
  | poll i =>
    cases h : (w.cursor (w.informer i).cursor).expired with
    | false => exact poll_accountable_of_clear h
    | true => exact poll_accountable_of_armed h
  | next s => exact accountable_of_meets nofun (Act.tellNext_meets s w)
  | close s =>
    refine accountable_of_meets nofun (told_meets (Steady.bind ?_ fun _ => Steady.pure _) _ _ rfl rfl)
    exact Act.closeStream_steady uncounted_opening.toTolerantOfStreams s
  | _ => exact accountable_of_meets nofun (told_meets_of_silent (by simp) (silent_calls id) _ w)

end Accountable

/-! ### Runs -/

/-- Each stretch adds its own entries to the ledger. -/
theorem ledger_snoc (past : List (Stretch World Call Told)) (x : Stretch World Call Told) :
    ledger (past ++ [x]) = ledger past ++ x.entries := by
  rw [ledger, List.flatMap_append, List.flatMap_singleton]
  rfl

/-- All that occurred in a run is entered into the metrics, and nothing else. -/
theorem metrics_eq_ledger {w : World} {q : Interplay World Call Told} (h : Reaches telling w q) :
    q.state.metrics = w.metrics.postAll (ledger q.past) := by
  -- each stretch posts its own entries on top of those before
  have hsnoc : ∀ (t : World) (past : List (Stretch World Call Told))
      (x : Stretch World Call Told), t.metrics = w.metrics.postAll (ledger past) → x.before = t →
      x.Balanced → x.after.metrics = w.metrics.postAll (ledger (past ++ [x])) := by
    rintro t past x hlaw rfl hx
    rw [ledger_snoc, Metrics.postAll_append, ← hlaw]
    exact hx
  -- over the run; what others do changes no metrics
  refine (h.law (fun t past => t.metrics = w.metrics.postAll (ledger past)) Tellable rfl
    ?_ ?_ ?_).1
  · intro t past call hlaw _
    obtain ⟨hbalanced, hwaiting⟩ := call.accountable (w := t)
    exact ⟨hsnoc t past _ hlaw rfl hbalanced, hwaiting⟩
  · intro t past u answer hlaw hknown _
    obtain ⟨hbalanced, hwaiting⟩ := hknown.accountable (w := t) answer
    exact ⟨hsnoc t past _ hlaw rfl hbalanced, hwaiting⟩
  · intro t t' past hlaw hothers
    exact hothers.trans hlaw

/-- **The metrics account for the run.**  Calls about informers and streams are made in any order,
and each of their waits comes to anything, a cancellation say.  If the metrics were empty at first,
then afterwards, for every kind: the polls are the watch requests that were issued; the events of a
type are those that were received; the errors of a reason are this library's failures of that name
that were received, and the events with a status of that reason, or code; the resyncs are the polls
that took their cursor back to the origin; and the backoffs are the polls that found their cursor
armed, as long as no backoff is no number.  One that is none is lost. -/
theorem metrics_account_for_calls {w : World} (hw : w.metrics = {})
    {p : Interplay World Call Outcome} (h : Reaches calling w p) :
    ∃ q, Reaches telling w q ∧ q.through Told.result = p ∧
      ∀ kind, Accounts kind (occurrencesOf kind (ledger q.past)) p.state.metrics := by
  obtain ⟨q, hq, rfl⟩ := Reaches.told Told.result Call.act_eq_tell h
  refine ⟨q, hq, rfl, fun kind => ?_⟩
  show Accounts kind _ q.state.metrics
  rw [metrics_eq_ledger hq, hw]
  exact Metrics.accounts_postAll _ kind

/-- The session in which the version expires, once the second poll has slept. -/
def expiringRested : Interplay World Call Outcome :=
  expiringRead.wake expiringAsleep [] (.ok ())

/-- Two requests, an expiry, and a resync after it. -/
theorem expiringRested_accounted :
    ∃ q : Interplay World Call Told, q.through Told.result = expiringRested ∧
      Accounts "informer" (occurrencesOf "informer" (ledger q.past)) expiringRested.state.metrics ∧
      expiringRested.state.metrics.value "kubeinformer_polls_total" [("kind", "informer")] = 2 ∧
      expiringRested.state.metrics.value "kubeinformer_events_total"
        [("event_type", "ERROR"), ("kind", "informer")] = 1 ∧
      expiringRested.state.metrics.value "kubeinformer_errors_total"
        [("kind", "informer"), ("reason", "410")] = 1 ∧
      expiringRested.state.metrics.value "kubeinformer_resyncs_total" [("kind", "informer")] = 1 ∧
      (expiringRested.state.metrics.histogram "informer").count = 1 := by
  have hread : Reaches calling expiring expiringRead :=
    .begin (.begin (.begin .start trivial) trivial) trivial
  have hwaiting : expiringRead.waiting = [] ++ expiringAsleep :: [] := rfl
  have hrested : Reaches calling expiring expiringRested := hread.wake hwaiting trivial
  obtain ⟨q, -, hq, haccounts⟩ := metrics_account_for_calls rfl hrested
  refine ⟨q, hq, haccounts "informer", ?_⟩
  decide +kernel

/-- The same session of an informer whose backoff is no number. -/
def expiringNan : World :=
  { expiring with informers := [{ transport := .feed, backoff := .nan }] }

/-- What is told of it up to the second poll. -/
def expiringNanRead : Interplay World Call Told :=
  [Call.poll 0, .next 0, .poll 0].foldl (fun q call => q.begin call call.tell)
    { state := expiringNan }

/-- The second poll finds its cursor armed, and its backoff is not counted. -/
theorem expiringNanRead_unaccounted :
    Reaches telling expiringNan expiringNanRead ∧ expiringNan.metrics = {} ∧
      (occurrencesOf "informer" (ledger expiringNanRead.past)).countP (·.isArmed) = 1 ∧
      (expiringNanRead.state.metrics.histogram "informer").count = 0 := by
  refine ⟨.begin (.begin (.begin .start trivial) trivial) trivial, rfl, ?_, ?_⟩
  · decide +kernel
  · decide +kernel

end ResumableWatch
