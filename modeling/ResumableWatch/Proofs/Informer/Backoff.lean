import ResumableWatch.Proofs.Stream.Steady
import ResumableWatch.Informer
/-!
# Polls and their backoff

A poll looks at its cursor, sleeps when it is armed, looks again, goes back to the origin if the
cursor is armed still, and then asks for a stream.  While it sleeps anybody may do anything.

`poll_under_interference` describes a poll by its two possible beginnings.  From a cursor that is
not armed it issues its request within the same stretch.  From an armed one it sleeps, and its next
stretch issues the request from whatever state the others left behind.  No stretch gives up control
between a look at the cursor and the request.
-/

namespace ResumableWatch

open ResumableWatch.Fiber

/-- Within one stretch a fiber issues one request, while the cursor stands at a version and is not
armed; after that it leaves all cursors alone, issues no other request, and waits for nothing but
the answer. -/
def Asks {α : Type} (m : Act α) (found : World) (c : CursorId) (version : String)
    (r : WatchRequest) : Prop :=
  ∃ changes before after rest,
    Goes m found changes (.write after rest) before ∧
      World.requestsOf changes = [] ∧ World.asked? before after = some r ∧
      before.cursor c = ⟨version, false⟩ ∧ before.cursors.length = found.cursors.length ∧
      after.cursors = before.cursors ∧ Steady Still found.server.answer.1.Awaited rest

/-- What is done before, as long as it is confined, does not change what is asked. -/
theorem Asks.of_goes {α : Type} {m m' : Act α} {found t : World} {c : CursorId} {version : String}
    {r : WatchRequest} {k : Cursor} {changes : List (World × World)} (h : Asks m' t c version r)
    (hgoes : Goes m found changes m' t) (hconf : Confined c found k changes t) :
    Asks m found c version r := by
  obtain ⟨more, before, after, rest, hgo, hmore, hasked, hcursor, hlength, hcursors, hrest⟩ := h
  refine ⟨changes ++ more, before, after, rest, hgoes.trans hgo, ?_, hasked, hcursor, ?_, hcursors,
    ?_⟩
  · rw [World.requestsOf_append, hconf.noRequest, hmore, List.append_nil]
  · rw [hlength, hconf.length]
  · rw [← hconf.server]
    exact hrest

/-- A fiber asks as its beginning does, when what follows is as quiet. -/
theorem Asks.bind {α β : Type} {m : Act α} {f : α → Act β} {found : World} {c : CursorId}
    {version : String} {r : WatchRequest} (h : Asks m found c version r)
    (hf : ∀ a, Steady Still found.server.answer.1.Awaited (f a)) :
    Asks (m >>= f) found c version r := by
  obtain ⟨changes, before, after, rest, hgo, hnone, hasked, hcursor, hlength, hcursors, hrest⟩ := h
  exact ⟨changes, before, after, rest >>= f, hgo.bind f, hnone, hasked, hcursor, hlength, hcursors,
    hrest.bind hf⟩

namespace Act

open Log

/-! ### The parts of a poll -/

/-- What a poll begins with: it notes that it is about to start over, if it looks like that. -/
def noteResync (i : InformerId) (it : Informer) : Act Unit := do
  if it.phase = .desynced || (← cursor it.cursor).expired then setPhase i .resyncing

/-- Goes back to the origin. -/
def rewind (c : CursorId) (name : String) : Act Unit := do
  changeCursor c Cursor.reset
  Fiber.update (·.changeMetrics (·.countResync name))
  log .info ("resync." ++ name) "resync_reset" [("informer", .text name)]

/-- What a resync does once it has slept. -/
def settle (c : CursorId) (name : String) : Act Bool := do
  let expired := (← cursor c).expired
  if expired then rewind c name
  else log .debug ("resync." ++ name) "resync_skipped" [("informer", .text name)]
  changeCursor c Cursor.clear
  return expired

/-- What a resync does from an armed cursor. -/
def backOff (c : CursorId) (name : String) (backoff : Double) : Act Bool := do
  log .info ("resync." ++ name) "resync_backoff"
    [("informer", .text name), ("delay_s", .double backoff)]
  Fiber.update (·.changeMetrics (·.observeBackoff name backoff))
  sleep backoff
  settle c name

/-- What a poll does once its version is settled. -/
def ask (i : InformerId) (it : Informer) : Act StreamId := do
  let version := (← cursor it.cursor).version
  log .info ("informer." ++ it.name) "poll_start"
    [("informer", .text it.name), ("version", .text version)]
  Fiber.update (·.changeMetrics (·.countPoll it.name))
  let connection ← (openConnection it.transport (it.query.withVersion version)).recover
    fun failure => do
      setPhase i .idle
      Fiber.fail failure
  setPhase i .watching
  addStream { connection, cursor := it.cursor, name := it.name, owner := some i }

/-- What a poll goes on with when its backoff has come to something. -/
def afterBackoff (i : InformerId) (it : Informer) (answer : Wakeup) : Act StreamId := do
  Fiber.ofExcept answer
  let _ ← settle it.cursor it.name
  ask i it

theorem resync_eq (c : CursorId) (name : String) (backoff : Double) :
    resync c name backoff = (do
      if !(← cursor c).expired then return false
      else backOff c name backoff) := by
  refine congrArg (cursor c >>= ·) (funext fun now => ?_)
  refine congrArg (ite _ (pure false)) ?_
  show (_ >>= fun _ => _ >>= fun _ => _ >>= fun _ => _) = backOff c name backoff
  rw [backOff]
  refine congrArg (_ >>= ·) (funext fun _ => congrArg (_ >>= ·) (funext fun _ =>
    congrArg (_ >>= ·) (funext fun _ => congrArg (_ >>= ·) (funext fun found => ?_))))
  dsimp only
  split
  · simp only [rewind, bind_assoc]
  · rfl

theorem poll_eq (i : InformerId) : poll i = (do
    let it ← informer i
    noteResync i it
    let _ ← resync it.cursor it.name it.backoff
    ask i it) := by
  refine congrArg (informer i >>= ·) (funext fun it => ?_)
  rw [noteResync, bind_assoc]
  refine congrArg (cursor it.cursor >>= ·) (funext fun now => ?_)
  split
  · rfl
  · rfl

/-! ### Up to the backoff -/

theorem noteResync_steady {P : World → World → Prop} {waits : Wait → Prop} (h : Tolerant P)
    (i : InformerId) (it : Informer) : Steady P waits (noteResync i it) := by
  refine (Steady.gets _).bind fun k => ?_
  split
  · exact setPhase_steady h i .resyncing
  · exact Steady.pure ()

theorem noteResync_goes (i : InformerId) (it : Informer) (c : CursorId) (w : World) :
    ∃ changes t, Goes (noteResync i it) w changes (pure ()) t ∧
      Confined c w (w.cursor c) changes t ∧
      (∀ change ∈ changes, Still change.1 change.2) ∧ t.cursors = w.cursors := by
  have hgo : Goes (noteResync i it) w []
      (if it.phase = .desynced || (w.cursor it.cursor).expired then setPhase i .resyncing
        else pure ()) w := .read .here
  by_cases h : it.phase = .desynced || (w.cursor it.cursor).expired
  · rw [if_pos h] at hgo
    refine ⟨_, _, hgo.trans (.read (.write .here)), Confined.changeInformer c w i _, ?_, rfl⟩
    intro change hchange
    rw [List.mem_singleton.mp hchange]
    exact still_tolerant.informer w i _ fun _ => ⟨⟨rfl, rfl, rfl⟩, rfl⟩
  · rw [if_neg h] at hgo
    exact ⟨[], w, hgo, Confined.refl c w, by simp, rfl⟩

/-- A resync goes by the flag that it finds. -/
theorem resync_goes (c : CursorId) (name : String) (backoff : Double) (w : World) :
    Goes (resync c name backoff) w []
      (if !(w.cursor c).expired then pure false else backOff c name backoff) w := by
  rw [resync_eq]
  exact .read .here

theorem resync_goes_of_clear {c : CursorId} {w : World} (h : (w.cursor c).expired = false)
    (name : String) (backoff : Double) :
    Goes (resync c name backoff) w [] (pure false) w := by
  have hgo := resync_goes c name backoff w
  rw [h] at hgo
  exact hgo

/-- From an armed cursor a resync goes to sleep, and goes on as `settle`. -/
theorem resync_goes_of_armed {c : CursorId} {w : World} (h : (w.cursor c).expired = true)
    (name : String) (backoff : Double) :
    ∃ changes t,
      Goes (resync c name backoff) w changes
        (.wait (.sleep backoff) fun answer => Fiber.ofExcept answer >>= fun _ => settle c name) t ∧
      (∀ change ∈ changes, Still change.1 change.2) ∧ t.cursors = w.cursors := by
  have hgo := resync_goes c name backoff w
  rw [h] at hgo
  refine ⟨_, _, hgo.trans (.read (.write (.read (.write .here)))), ?_, ?_⟩
  · intro change hchange
    rcases List.mem_cons.mp hchange with rfl | hchange
    · exact still_tolerant.log w _ _ _ _ _
    · rw [List.mem_singleton.mp hchange]
      exact ⟨rfl, World.asked?_of_journal rfl⟩
  · exact World.log_cursors w _ _ _ _ _

/-! ### After the backoff -/

/-- The version that a resync settles on when it finds a cursor after its sleep. -/
def settledVersion (found : Cursor) : String :=
  if found.expired then Version.origin else found.version

/-- Going back to the origin disarms nothing yet. -/
theorem rewind_goes {c : CursorId} {w : World} (hc : c < w.cursors.length) (name : String) :
    ∃ changes t, Goes (rewind c name) w changes (pure ()) t ∧
      Confined c w (w.cursor c).reset changes t := by
  have hreset := Confined.changeCursor hc Cursor.reset
  have hcounted := hreset.trans (Confined.metrics c _ (·.countResync name))
  have hlogged := hcounted.trans
    (Confined.log c _ .info ("resync." ++ name) "resync_reset" [("informer", .text name)])
  rw [hcounted.cursor, hreset.cursor] at hlogged
  exact ⟨_, _, .read (.write (.read (.write (.read (.write .here))))), hlogged⟩

/-- A resync that has slept goes back to the origin from a cursor that is still armed, keeps the
version of any other, and disarms the cursor in both cases. -/
theorem settle_goes (c : CursorId) (name : String) (found : World) :
    ∃ changes t, Goes (settle c name) found changes (pure (found.cursor c).expired) t ∧
      Confined c found ⟨settledVersion (found.cursor c), false⟩ changes t := by
  have hgo : Goes (settle c name) found []
      ((if (found.cursor c).expired then rewind c name
        else log .debug ("resync." ++ name) "resync_skipped" [("informer", .text name)]) >>=
        fun _ => changeCursor c Cursor.clear >>= fun _ => pure (found.cursor c).expired) found := by
    rw [settle]
    refine .read ?_
    show Goes (if _ then _ else _) found _ _ _
    split
    · exact .here
    · exact .here
  -- the last change of either case, from whatever state it is made
  have hclear : ∀ (u : World) (expired : Bool),
      Goes (changeCursor c Cursor.clear >>= fun _ => pure expired) u
        [(u, u.changeCursor c Cursor.clear)] (pure expired) (u.changeCursor c Cursor.clear) :=
    fun u expired => .read (.write .here)
  rw [settledVersion]
  cases h : (found.cursor c).expired with
  | false =>
    rw [h] at hgo
    have hlogged := Confined.log c found .debug ("resync." ++ name) "resync_skipped"
      [("informer", .text name)]
    have hcleared := hlogged.trans (Confined.clear c _)
    rw [hlogged.cursor] at hcleared
    exact ⟨_, _, hgo.trans (.read (.write (hclear _ false))), hcleared⟩
  | true =>
    rw [h] at hgo
    obtain ⟨changes, t, hrewind, hreset⟩ := rewind_goes (World.lt_of_expired h) name
    have hcleared := hreset.trans (Confined.clear c t)
    rw [hreset.cursor] at hcleared
    exact ⟨_, _, hgo.trans ((hrewind.bind _).trans (hclear t true)), hcleared⟩

/-! ### Asking -/

/-- A request and all that follows it, up to the stream.  What follows is as steady as opening a
connection and a stream is, and waits for the answer only. -/
theorem openConnection_goes (transport : Transport) (query : Query) (w : World) :
    ∃ rest,
      Goes (openConnection transport query) w [(w, { w with server := w.server.answer.2 })]
        (.write (World.record (.request transport.operation (transport.arguments query))
          { w with server := w.server.answer.2 }) rest) { w with server := w.server.answer.2 } ∧
      ∀ {P : World → World → Prop}, TolerantOfOpening P →
        Steady P w.server.answer.1.Awaited rest := by
  have hmeet {P : World → World → Prop} :
      Steady P w.server.answer.1.Awaited (meet w.server.answer.1) :=
    meet_steady _ fun _ hwait => hwait
  cases transport with
  | feed =>
    refine ⟨_, .read (.read (.write (.read .here))), fun h => ?_⟩
    exact hmeet.bind fun _ => addConnection_steady fun w => h.opened w _ rfl
  | http endpoint =>
    refine ⟨_, .read (.read (.write (.read .here))), fun h => ?_⟩
    refine (hmeet.recover fun failure => Steady.fail _).bind fun _ => ?_
    refine (log_steady h.toTolerantOfLogs _ _ _ _).bind fun _ => ?_
    exact addConnection_steady fun w => h.opened w _ rfl

/-- The world once a poll has noted that it is about to ask. -/
def noted (it : Informer) (w : World) : World :=
  w.log .info ("informer." ++ it.name) "poll_start"
    [("informer", .text it.name), ("version", .text (w.cursor it.cursor).version)] 0

/-- The world once it has been counted as well. -/
def counted (it : Informer) (w : World) : World :=
  (noted it w).changeMetrics (·.countPoll it.name)

/-- The world from which the request is issued. -/
def asking (it : Informer) (w : World) : World :=
  { counted it w with server := (counted it w).server.answer.2 }

theorem cursors_asking (it : Informer) (w : World) : (asking it w).cursors = w.cursors :=
  World.log_cursors w _ _ _ _ _

/-- A poll that asks notes it, counts it, and issues the request of its informer for the version that
it found, all in one stretch. -/
theorem ask_goes (i : InformerId) (it : Informer) (w : World) :
    ∃ rest,
      Goes (ask i it) w
        [(w, noted it w), (noted it w, counted it w), (counted it w, asking it w)]
        (.write ((asking it w).record (.request (it.request (w.cursor it.cursor).version).operation
          (it.request (w.cursor it.cursor).version).arguments)) rest) (asking it w) ∧
      ∀ {P : World → World → Prop}, TolerantOfOpening P →
        Steady P w.server.answer.1.Awaited rest := by
  obtain ⟨rest, hopen, hrest⟩ := openConnection_goes it.transport
    (it.query.withVersion (w.cursor it.cursor).version) (counted it w)
  refine ⟨_, .read (.read (.write (.read (.write ((hopen.recover _).bind _))))), fun h => ?_⟩
  have hserver : (counted it w).server = w.server := World.log_server w _ _ _ _ _
  rw [hserver] at hrest
  -- a failure of what follows is passed on
  refine ((hrest h).recover fun failure => ?_).bind fun connection => ?_
  · exact (setPhase_steady h.toTolerant i .idle).bind fun _ => Steady.fail failure
  · exact (setPhase_steady h.toTolerant i .watching).bind fun _ => addStream_steady h _

/-- A poll whose cursor is not armed asks from the version there. -/
theorem ask_asks {i : InformerId} {it : Informer} {w : World} {version : String}
    (h : w.cursor it.cursor = ⟨version, false⟩) :
    Asks (ask i it) w it.cursor version (it.request version) := by
  obtain rfl : (w.cursor it.cursor).version = version := by rw [h]
  obtain ⟨rest, hgo, hrest⟩ := ask_goes i it w
  have hcursors := cursors_asking it w
  refine ⟨_, asking it w, _, rest, hgo, ?_, World.asked?_record_request (asking it w) _ _, ?_, ?_, rfl,
    hrest still_opening⟩
  · -- the line, the count and the taking of an answer ask nothing
    refine World.requestsOf_eq_nil_iff.mpr fun change hchange => ?_
    simp only [List.mem_cons, List.not_mem_nil, or_false] at hchange
    rcases hchange with rfl | rfl | rfl
    · exact World.asked?_log _ _ _ _ _ _
    · exact World.asked?_of_journal rfl
    · exact World.asked?_of_journal rfl
  · rw [World.cursor_of_cursors hcursors]
    exact h
  · rw [hcursors]

/-- A poll that has slept asks from the version it settles on, whatever it finds. -/
theorem afterBackoff_asks (i : InformerId) (it : Informer) (found : World) :
    Asks (afterBackoff i it (.ok ())) found it.cursor
      (settledVersion (found.cursor it.cursor))
      (it.request (settledVersion (found.cursor it.cursor))) := by
  obtain ⟨changes, t, hsettle, hconf⟩ := settle_goes it.cursor it.name found
  exact (ask_asks hconf.cursor).of_goes (hsettle.bind _) hconf

/-! ### A whole poll -/

/-- What is left of a poll after its sleep is the rest of the resync, and then the request. -/
theorem sleep_bind_ask (i : InformerId) (it : Informer) :
    (Fiber.wait (.sleep it.backoff)
        (fun answer => Fiber.ofExcept answer >>= fun _ => settle it.cursor it.name) >>=
        fun _ => ask i it)
      = Fiber.wait (.sleep it.backoff) (afterBackoff i it) :=
  congrArg (Fiber.wait _) (funext fun _ => Fiber.bind_bind _ _ _)

/-- From an armed cursor a poll sleeps its backoff.  Until then it has changed no cursor and issued
no request. -/
theorem poll_goes_of_armed {i : InformerId} {w : World}
    (h : (w.cursor (w.informer i).cursor).expired = true) :
    ∃ changes asleep,
      Goes (poll i) w changes
        (.wait (.sleep (w.informer i).backoff) (afterBackoff i (w.informer i))) asleep ∧
      (∀ change ∈ changes, Still change.1 change.2) ∧ asleep.cursors = w.cursors := by
  obtain ⟨noted, t, hnote, -, hnoted, hcursors⟩ :=
    noteResync_goes i (w.informer i) (w.informer i).cursor w
  -- the note on the phase leaves the cursors alone, so the resync finds this one armed
  have hstill : (t.cursor (w.informer i).cursor).expired = true := by
    rw [World.cursor_of_cursors hcursors, h]
  obtain ⟨slept, asleep, hsleep, hslept, hasleep⟩ :=
    resync_goes_of_armed hstill (w.informer i).name (w.informer i).backoff
  have hgo := hsleep.bind fun _ => ask i (w.informer i)
  rw [sleep_bind_ask] at hgo
  refine ⟨noted ++ slept, asleep, ?_, ?_, hasleep.trans hcursors⟩
  · rw [poll_eq]
    exact .read ((hnote.bind _).trans hgo)
  · intro change hchange
    rcases List.mem_append.mp hchange with hchange | hchange
    · exact hnoted change hchange
    · exact hslept change hchange

/-- From a cursor that is not armed a poll asks at once. -/
theorem poll_asks_of_clear {i : InformerId} {w : World} {version : String}
    (h : w.cursor (w.informer i).cursor = ⟨version, false⟩) :
    Asks (poll i) w (w.informer i).cursor version ((w.informer i).request version) := by
  obtain ⟨noted, t, hnote, hnoted, -, -⟩ :=
    noteResync_goes i (w.informer i) (w.informer i).cursor w
  have hcursor : t.cursor (w.informer i).cursor = ⟨version, false⟩ := by rw [hnoted.cursor, h]
  have hexpired : (t.cursor (w.informer i).cursor).expired = false := by rw [hcursor]
  have hresync := resync_goes_of_clear hexpired (w.informer i).name (w.informer i).backoff
  rw [poll_eq]
  exact (ask_asks hcursor).of_goes (.read ((hnote.bind _).trans (hresync.bind _)))
    (hnoted.trans (Confined.refl _ t))

/-- **Polls under interference.**  A poll that finds its cursor armed sleeps its backoff, having
changed no cursor and issued no request.  A failure that strikes the sleep, a cancellation say, ends
it there.  Otherwise, whatever the others have made of the state meanwhile, it issues its request
without another wait: from the origin if the cursor is armed still, else from the version that it
finds.  A poll that finds its cursor not armed issues its request without any wait, from the
version there.  In all cases the cursor is not armed when the request is issued. -/
theorem poll_under_interference (i : InformerId) (w : World) :
    let it := w.informer i
    if (w.cursor it.cursor).expired then
      ∃ changes asleep next,
        Goes (poll i) w changes (.wait (.sleep it.backoff) next) asleep ∧
          (∀ change ∈ changes, Still change.1 change.2) ∧ asleep.cursors = w.cursors ∧
          (∀ failure, next (.error failure) = .fail failure) ∧
          ∀ found : World,
            let version :=
              if (found.cursor it.cursor).expired then Version.origin
              else (found.cursor it.cursor).version
            Asks (next (.ok ())) found it.cursor version (it.request version)
    else
      let version := (w.cursor it.cursor).version
      Asks (poll i) w it.cursor version (it.request version) := by
  intro it
  cases h : (w.cursor it.cursor).expired with
  | false =>
    rw [if_neg Bool.false_ne_true]
    refine poll_asks_of_clear ?_
    rw [← h]
  | true =>
    rw [if_pos rfl]
    obtain ⟨changes, asleep, hgo, hstill, hcursors⟩ := poll_goes_of_armed h
    refine ⟨changes, asleep, afterBackoff i it, hgo, hstill, hcursors, fun failure => rfl, ?_⟩
    exact fun found => afterBackoff_asks i it found

end Act

end ResumableWatch
