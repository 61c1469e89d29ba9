import ResumableWatch.Proofs.Fiber.Courses
import ResumableWatch.Proofs.Supervisor.Loop
/-!
# The poll loop, attempt by attempt

A round of the poll loop is an attempt, which is one poll and the reading of its stream, and a pause
after it.  `polls_in_order` says what the loop does of its own accord, round after round and whatever
the others do meanwhile: one request an attempt at most, the backoff before it if the cursor is found
armed, one sleep of the retry delay after an attempt that failed, none after one that did not; and no
ordinary failure ends the loop.

What an attempt does on behalf of others has to be told apart: it waits as the server is slow, and it
runs the handler, which may wait and ask for itself.  A `Company` says what these waits and requests
can be.  `KeepsTo` is followed through the program, down to the elements of a body, for which one has
to know that the script of the server is as the company says (`World.Scripted`).
-/

namespace ResumableWatch

open ResumableWatch.Fiber

/-! ### The script of a server -/

/-- The waits that an element asks for. -/
def Element.Awaited : Element → Wait → Prop
  | .delay seconds, what => what = .sleep seconds
  | .block, what => what = .forever
  | .raise _, _ => False
  | .line _, _ => False
  | .item _ _, _ => False

/-- What is sent in answer to a request. -/
def Answer.elements (a : Answer) : List Element :=
  match a.reply with
  | .stream elements _ _ => elements
  | .raise _ => []
  | .block => []

/-- Elements that ask for such waits only. -/
def ElementsWithin (waits : Wait → Prop) (elements : List Element) : Prop :=
  ∀ e ∈ elements, ∀ what, e.Awaited what → waits what

/-- An answer that asks for such waits only, before it comes and within it. -/
structure Answer.Within (waits : Wait → Prop) (a : Answer) : Prop where
  awaited : ∀ what, a.Awaited what → waits what
  elements : ElementsWithin waits a.elements

/-- All that the server still sends asks for such waits only. -/
structure World.Scripted (waits : Wait → Prop) (w : World) : Prop where
  script : ∀ a ∈ w.server.script, a.Within waits
  afterwards : w.server.afterwards.Within waits
  pending : ∀ k, ElementsWithin waits (w.connection k).pending

namespace World.Scripted

variable {waits : Wait → Prop} {w w' : World}

/-- Only the server and its connections matter for what is still sent. -/
theorem of_same (h : w.Scripted waits) (hserver : w'.server = w.server)
    (hconnections : w'.connections = w.connections) : w'.Scripted waits where
  script := by
    rw [hserver]
    exact h.script
  afterwards := by
    rw [hserver]
    exact h.afterwards
  pending k := by
    rw [World.connection, hconnections]
    exact h.pending k

/-- The next answer is one of the script, and the others are left. -/
theorem answer (h : w.Scripted waits) :
    w.server.answer.1.Within waits ∧
      ({ w with server := w.server.answer.2 } : World).Scripted waits := by
  cases hscript : w.server.script with
  | nil =>
    have heq : w.server.answer = (w.server.afterwards, w.server) := by
      rw [Server.answer, hscript]
    rw [heq]
    exact ⟨h.afterwards, h⟩
  | cons first rest =>
    have heq : w.server.answer = (first, { w.server with script := rest }) := by
      rw [Server.answer, hscript]
    have hall : ∀ a ∈ first :: rest, a.Within waits := hscript ▸ h.script
    obtain ⟨hfirst, hrest⟩ := List.forall_mem_cons.mp hall
    rw [heq]
    exact ⟨hfirst, hrest, h.afterwards, h.pending⟩

/-- A change of a connection that adds nothing bad to what is pending there. -/
theorem changeConnection (h : w.Scripted waits) (k : ConnectionId) {f : Connection → Connection}
    (hf : ∀ x, ElementsWithin waits x.pending → ElementsWithin waits (f x).pending) :
    (w.changeConnection k f).Scripted waits where
  script := h.script
  afterwards := h.afterwards
  pending k' := by
    rcases World.connection_changeConnection_cases w k k' f with heq | heq
    · rw [heq]
      exact h.pending k'
    · rw [heq]
      exact hf _ (h.pending k')

/-- A connection that is opened brings its own elements. -/
theorem opened (h : w.Scripted waits) {connection : Connection}
    (hpending : ElementsWithin waits connection.pending) :
    ({ w with connections := w.connections ++ [connection] } : World).Scripted waits where
  script := h.script
  afterwards := h.afterwards
  pending k := by
    show ElementsWithin waits (((w.connections ++ [connection])[k]?).getD default).pending
    rw [List.getElem?_append]
    split
    · exact h.pending k
    · -- behind the others stands the new one, and behind that none
      rcases hk : [connection][k - w.connections.length]? with _ | found
      · exact fun e he => absurd he List.not_mem_nil
      · rw [List.mem_singleton.mp (List.mem_of_getElem? hk)]
        exact hpending

end World.Scripted

/-! ### Requests among steps -/

namespace Fiber.Step

/-- The watch request that a step issues, if it issues one. -/
def asked? : Step World → Option WatchRequest
  | .change before after => World.asked? before after
  | .wait _ => none

/-- The watch requests among some steps. -/
def asked (steps : List (Step World)) : List WatchRequest := steps.filterMap asked?

@[simp] theorem asked_nil : asked [] = [] := rfl

@[simp] theorem asked_append (first second : List (Step World)) :
    asked (first ++ second) = asked first ++ asked second := List.filterMap_append

@[simp] theorem asked_cons_wait (what : Wait) (steps : List (Step World)) :
    asked (.wait what :: steps) = asked steps := rfl

theorem asked_ofChanges (changes : List (World × World)) :
    asked (ofChanges changes) = World.requestsOf changes := List.filterMap_map

end Fiber.Step

/-! ### Those around a poll loop -/

/-- Those who act while a poll loop waits, and on whose behalf it waits and asks. -/
structure Company where
  /-- What the server and the handler may let a poll loop wait for. -/
  waits : Wait → Prop
  /-- What the handler may ask of the server on its own account. -/
  asks : WatchRequest → Prop
  /-- What happens during a wait. -/
  meanwhile : World → Wait → Wakeup → World → Prop
  /-- Nobody else makes the server slower. -/
  scripted : ∀ {w what answer w'}, meanwhile w what answer w' →
    w.Scripted waits → w'.Scripted waits
  /-- Only another task that is waited for lets a wait come to an ordinary failure. -/
  unfailing : ∀ {w what e w'}, meanwhile w what (.error e) w' → (∀ t, what ≠ .join t) →
    e.isOrdinary = false

namespace Company

variable {c : Company} {waits waits' : Wait → Prop} {asks asks' : WatchRequest → Prop}
  {α β : Type} {m : Act α} {w w' : World}

/-- To wait and ask for such things only, and to wait only while the script is as the company says. -/
def terms (c : Company) (waits : Wait → Prop) (asks : WatchRequest → Prop) : Terms World where
  resume := c.meanwhile
  change w w' := ∀ r, World.asked? w w' = some r → asks r
  pause _ what w := waits what ∧ w.Scripted c.waits

/-- As long as the script is as the company says, the fiber waits and asks for such things only, and
leaves the script as the company says. -/
def KeepsTo (c : Company) (waits : Wait → Prop) (asks : WatchRequest → Prop) (m : Act α) : Prop :=
  ∀ w₀ w, w.Scripted c.waits →
    m.Meets (c.terms waits asks) (fun _ _ w => w.Scripted c.waits) w₀ w

/-- A change that issues no request and leaves the script as the company says. -/
structure Plain (c : Company) (w w' : World) : Prop where
  quiet : World.asked? w w' = none
  scripted : w.Scripted c.waits → w'.Scripted c.waits

/-- What asks for nothing and leaves the server and the connections alone is plain. -/
theorem Plain.of_same (hquiet : World.asked? w w' = none) (hserver : w'.server = w.server)
    (hconnections : w'.connections = w.connections) : c.Plain w w' :=
  ⟨hquiet, fun h => h.of_same hserver hconnections⟩

/-- A change that enters nothing is plain if it leaves the server and the connections alone. -/
theorem Plain.of_journal (hjournal : w'.journal = w.journal) (hserver : w'.server = w.server)
    (hconnections : w'.connections = w.connections) : c.Plain w w' :=
  .of_same (World.asked?_of_journal hjournal) hserver hconnections

/-- What is done to a stream and its connection is plain: reading only takes elements away. -/
theorem plain_streams : TolerantOfStreams c.Plain where
  log w level component event fields lines :=
    .of_same (World.asked?_log w level component event fields lines)
      (World.log_server w level component event fields lines)
      (World.log_connections w level component event fields lines)
  closed _ k _ := by
    refine ⟨World.asked?_of_entry rfl nofun, fun h => ?_⟩
    have hmarked := h.changeConnection k (f := fun x => { x with closed := true }) fun _ hx => hx
    exact hmarked.of_same rfl rfl
  connection _ k f hf := by
    refine ⟨World.asked?_of_journal rfl, fun h => h.changeConnection k fun x hx => ?_⟩
    rw [(hf x).pending]
    exact hx
  informer _ _ _ _ := .of_journal rfl rfl rfl
  stream _ _ _ _ := .of_journal rfl rfl rfl

/-- What is noted of decoding is plain. -/
theorem plain_decoding : TolerantOfDecoding c.Plain where
  toTolerantOfClosing := plain_streams.toTolerantOfClosing
  handedOver _ _ _ := .of_same (World.asked?_of_entry rfl nofun) rfl rfl

/-- What rewinding a cursor takes is plain. -/
theorem plain_rewinding : TolerantOfRewinding c.Plain where
  toTolerant := plain_streams.toTolerant
  metrics _ _ := .of_journal rfl rfl rfl
  reset _ _ := .of_journal rfl rfl rfl
  clear _ _ := .of_journal rfl rfl rfl

/-- What observing an item takes is plain. -/
theorem plain_observing : Observing c.Plain where
  log w level component event fields := plain_streams.log w level component event fields 0
  metrics := plain_rewinding.metrics
  cursor _ _ _ := .of_journal rfl rfl rfl
  informer _ _ _ _ := .of_journal rfl rfl rfl

namespace KeepsTo

/-- What waits for such things only, and whose changes are plain. -/
theorem of_steady (hm : Steady c.Plain waits m) : c.KeepsTo waits asks m := by
  intro w₀ w hw
  -- the script is the invariant: waits keep it by the company, and changes because they are plain
  refine hm.meets (fun _ v => v.Scripted c.waits) (fun _ _ _ _ _ hv _ hresume => ?_)
    (fun _ v v' hv hplain => ?_) (fun _ _ _ hv hwhat => ?_) (fun _ _ _ hv => hv) hw
  · exact c.scripted hresume hv
  · refine ⟨fun r hr => ?_, hplain.scripted hv⟩
    rw [hplain.quiet] at hr
    cases hr
  · exact ⟨hwhat, hv⟩

theorem pure (a : α) : c.KeepsTo waits asks (pure a : Act α) := .of_steady (Steady.pure a)

theorem fail (e : Failure) : c.KeepsTo waits asks (Fiber.fail e : Act α) := .of_steady (Steady.fail e)

/-- First one, then the other, which may go by what the first came to. -/
theorem bind {f : α → Act β} (hm : c.KeepsTo waits asks m) (hf : ∀ a, c.KeepsTo waits asks (f a)) :
    c.KeepsTo waits asks (m >>= f) :=
  fun w₀ w hw => (hm w₀ w hw).before (fun a v₀ v hv => hf a v₀ v hv) fun _ _ _ hv => hv

theorem attempt (hm : c.KeepsTo waits asks m) : c.KeepsTo waits asks m.attempt := by
  intro w₀ w hw
  rw [meets_attempt]
  exact hm w₀ w hw

theorem ensure {last : Act Unit} (hlast : c.KeepsTo waits asks last) (hm : c.KeepsTo waits asks m) :
    c.KeepsTo waits asks (Fiber.ensure last m) :=
  hm.attempt.bind fun _ => hlast.bind fun _ => .of_steady (Steady.ofExcept _)

theorem recover {handler : Failure → Act α} (hm : c.KeepsTo waits asks m)
    (hhandler : ∀ e, c.KeepsTo waits asks (handler e)) :
    c.KeepsTo waits asks (m.recover handler) := by
  refine hm.attempt.bind fun r => ?_
  cases r with
  | ok a => exact .pure a
  | error e => exact hhandler e

/-- A wait of the kind that is allowed. -/
theorem await {what : Wait} (h : waits what) : c.KeepsTo waits asks (Fiber.await what : Act Unit) := by
  intro w₀ w hw
  rw [meets_await]
  exact ⟨⟨h, hw⟩, fun answer w' _ _ hanswer => c.scripted hanswer hw⟩

/-- Whoever keeps to less keeps to more. -/
theorem mono (h : c.KeepsTo waits asks m) (hwaits : ∀ what, waits what → waits' what)
    (hasks : ∀ r, asks r → asks' r) : c.KeepsTo waits' asks' m := by
  intro w₀ w hw
  -- the same run, with the same promises at the waits and weaker ones at the changes
  refine (h w₀ w hw).imp (fun w₀ w₁ => w₁ = w₀) (fun v v' hchange r hr => hasks r (hchange r hr))
    ?_ ?_ ?_ rfl
  · rintro v₀ _ what v rfl ⟨hwhat, hv⟩
    exact ⟨hwaits what hwhat, hv⟩
  · rintro v₀ _ what v answer v' rfl - - - hresume
    exact ⟨trivial, trivial, hresume, rfl⟩
  · rintro v₀ _ r v rfl hv
    exact hv

/-- What is kept to shows in every course. -/
theorem course (h : c.KeepsTo waits asks m) (hw : w.Scripted c.waits) {steps : List (Step World)}
    {m' : Act α} {t : World} (hcourse : Course c.meanwhile m w steps m' t) :
    (∀ what ∈ Step.waits steps, waits what) ∧ (∀ r ∈ Step.asked steps, asks r) ∧
      ∀ r, m' = ofExcept r → t.Scripted c.waits := by
  -- what was promised at each wait and each change, and what holds at the end
  obtain ⟨hsteps, t₀, hend⟩ :=
    (h w w hw).course hcourse fun _ _ _ _ hanswer => ⟨trivial, trivial, hanswer⟩
  refine ⟨fun what hwhat => ?_, fun r hr => ?_, fun r hr => ?_⟩
  · obtain ⟨_, _, hkept, -⟩ := hsteps _ (Step.mem_waits.mp hwhat)
    exact hkept
  · obtain ⟨step, hmem, hstep⟩ := List.mem_filterMap.mp hr
    cases step with
    | change before after => exact hsteps _ hmem r hstep
    | wait what => cases hstep
  · rw [hr, meets_ofExcept] at hend
    exact hend

end KeepsTo

/-- Who looks at the state finds the script as the company says. -/
theorem keepsTo_state {f : World → Act α}
    (hf : ∀ w, w.Scripted c.waits → c.KeepsTo waits asks (f w)) :
    c.KeepsTo waits asks (Fiber.state >>= f) := fun w₀ w hw => hf w hw w₀ w hw

theorem keepsTo_gets {f : World → β} {g : β → Act α} (hg : ∀ b, c.KeepsTo waits asks (g b)) :
    c.KeepsTo waits asks (Fiber.gets f >>= g) := .bind (.of_steady (Steady.gets f)) hg

/-! ### Reading -/

/-- What is left of the elements is kept with the connection. -/
theorem keep_keepsTo (k : ConnectionId) {pending : List Element}
    (hpending : ElementsWithin c.waits pending) : c.KeepsTo waits asks (Act.keep k pending) := by
  refine .of_steady (Steady.update fun w => ⟨World.asked?_of_journal rfl, fun hw => ?_⟩)
  exact hw.changeConnection k fun _ _ => hpending

/-- A read waits as the elements ask for it. -/
theorem readItem_keepsTo (k : ConnectionId) {elements : List Element}
    (h : ElementsWithin c.waits elements) : c.KeepsTo c.waits asks (Act.readItem k elements) := by
  induction elements with
  | nil => exact .pure none
  | cons element rest ih =>
    obtain ⟨hfirst, hrest⟩ := List.forall_mem_cons.mp h
    -- each element is taken off before it is met, so what is pending stays as the company says
    cases element with
    | delay seconds =>
      exact (keep_keepsTo k hrest).bind fun _ => .bind (.await (hfirst _ rfl)) fun _ => ih hrest
    | block =>
      exact (keep_keepsTo k hrest).bind fun _ => .bind (.await (hfirst _ rfl)) fun _ => ih hrest
    | raise failure => exact (keep_keepsTo k hrest).bind fun _ => .fail failure
    | line bytes => exact (keep_keepsTo k hrest).bind fun _ => ih hrest
    | item handedOver made =>
      -- an item is made, or fails to be, without a wait
      refine (keep_keepsTo k hrest).bind fun _ => .of_steady ?_
      exact (Act.recordHandedOver_steady plain_decoding handedOver).bind fun _ =>
        (Steady.ofExcept made).bind fun _ => Steady.pure _

/-- A line is read in the same way, over as many elements as it takes. -/
theorem readLine_keepsTo (k : ConnectionId) {elements : List Element}
    (h : ElementsWithin c.waits elements) : c.KeepsTo c.waits asks (Act.readLine k elements) := by
  induction elements with
  | nil => exact .pure none
  | cons element rest ih =>
    obtain ⟨hfirst, hrest⟩ := List.forall_mem_cons.mp h
    cases element with
    | delay seconds =>
      exact (keep_keepsTo k hrest).bind fun _ => .bind (.await (hfirst _ rfl)) fun _ => ih hrest
    | block =>
      exact (keep_keepsTo k hrest).bind fun _ => .bind (.await (hfirst _ rfl)) fun _ => ih hrest
    | raise failure => exact (keep_keepsTo k hrest).bind fun _ => .fail failure
    | item handedOver made => exact (keep_keepsTo k hrest).bind fun _ => ih hrest
    | line bytes =>
      -- an empty line ends the body or is passed over, and any other is the one that was looked for
      refine (keep_keepsTo k hrest).bind fun _ => ?_
      split
      · exact .pure none
      · split
        · exact ih hrest
        · exact .pure _

/-- A frame waits as its lines do; its decoding and its end are changes only. -/
theorem nextFrame_keepsTo (k : ConnectionId) (decoder : Option Decoder) :
    c.KeepsTo c.waits asks (Act.nextFrame k decoder) := by
  have hends {f : Unit → Act (Option Item)} (hf : ∀ u, c.KeepsTo c.waits asks (f u)) :
      c.KeepsTo c.waits asks (Act.endFrames k >>= f) :=
    .bind (.of_steady (Act.endFrames_steady plain_streams.toTolerantOfClosing k)) hf
  refine keepsTo_state fun w hw => ?_
  dsimp only
  split
  · exact .pure none
  · refine (readLine_keepsTo k (hw.pending k)).attempt.bind fun r => ?_
    split
    · refine .of_steady ?_
      exact (Act.decodeLine_steady plain_decoding k decoder _).bind fun _ =>
        Steady.pure _
    · exact hends fun _ => .pure none
    · -- a failed read becomes an item or goes through; the frames have ended in both cases
      refine hends fun _ => ?_
      split
      · exact .pure _
      · exact .fail _

/-- The next item of a connection, of either transport. -/
theorem nextItem_keepsTo (k : ConnectionId) : c.KeepsTo c.waits asks (Act.nextItem k) := by
  refine keepsTo_state fun w hw => ?_
  dsimp only
  split
  · split
    · exact .pure none
    · exact readItem_keepsTo k (hw.pending k)
  · refine (nextFrame_keepsTo k _).bind fun r => ?_
    split
    · exact .pure _
    · refine .bind (.of_steady ?_) fun _ => .pure none
      exact Act.closeResponse_steady plain_streams.toTolerantOfClosing k

/-- Observing an item, and closing where that fails, are changes only. -/
theorem readObserved_keepsTo (s : StreamId) : c.KeepsTo c.waits asks (Act.readObserved s) := by
  have hfails (failure : Failure) :
      c.KeepsTo c.waits asks (Act.failObservation s failure : Act (Option Item)) :=
    .of_steady (Act.failObservation_steady plain_streams s failure)
  refine keepsTo_state fun w _ => (nextItem_keepsTo _).attempt.bind fun r => ?_
  split
  · exact hfails _
  · refine .of_steady ?_
    exact (Act.endObservation_steady plain_streams s).bind fun _ => Steady.pure none
  · refine .bind (KeepsTo.attempt (.of_steady (Act.observe_steady plain_observing _ _))) fun r => ?_
    split
    · exact hfails _
    · refine .bind (.of_steady ?_) fun _ => .pure _
      rw [Act.noteObserved.eq_def]
      split
      · exact Steady.update fun w => .of_journal rfl rfl rfl
      · exact Steady.pure ()

/-- The next item of a stream waits as the next item of its connection does. -/
theorem nextOfStream_keepsTo (s : StreamId) : c.KeepsTo c.waits asks (Act.nextOfStream s) := by
  have hbusy (busy : Bool) : c.KeepsTo c.waits asks (Act.setBusy s busy) :=
    .of_steady (Act.setBusy_steady plain_streams s busy)
  have hobserved : c.KeepsTo c.waits asks (Act.nextObserved s) := by
    refine keepsTo_state fun w _ => ?_
    dsimp only
    split
    · exact .fail _
    · split
      · exact .pure none
      · refine .bind (.of_steady (Act.setProgress_steady plain_streams s _)) fun _ => ?_
        exact (hbusy true).bind fun _ => (hbusy false).ensure (readObserved_keepsTo s)
  refine hobserved.bind fun r => ?_
  split
  · exact .pure _
  · exact .bind (.of_steady (Act.closeStream_steady plain_streams s)) fun _ => .pure none

/-! ### Handling -/

variable {handler : Item → Act Unit} {s : SupervisorId}

/-- A handler that keeps to the company does so whether or not it fails. -/
theorem dispatch_keepsTo (hhandler : ∀ item, c.KeepsTo c.waits c.asks (handler item)) (item : Item) :
    c.KeepsTo c.waits c.asks (Act.dispatch handler s item) := by
  refine .bind (.of_steady (Steady.update fun w => .of_journal rfl rfl rfl)) fun _ => ?_
  refine (hhandler item).recover fun failure => .of_steady ?_
  exact Act.answerHandler_steady plain_streams.toTolerantOfLogs s failure

theorem consume_keepsTo (hhandler : ∀ item, c.KeepsTo c.waits c.asks (handler item))
    (stream : StreamId) (bound : Nat) :
    c.KeepsTo c.waits c.asks (Act.consume handler s stream bound) := by
  induction bound with
  | zero => exact .pure ()
  | succ bound ih =>
    refine (nextOfStream_keepsTo stream).bind fun r => ?_
    split
    · exact .pure ()
    · refine keepsTo_gets fun it => ?_
      split
      · exact (dispatch_keepsTo hhandler _).bind fun _ => ih
      · exact .pure ()

/-- Reading a stream to its end, and closing it then. -/
theorem drain_keepsTo (hhandler : ∀ item, c.KeepsTo c.waits c.asks (handler item))
    (stream : StreamId) : c.KeepsTo c.waits c.asks (Act.drain handler s stream) := by
  refine .bind (keepsTo_state fun _ _ => .pure _) fun bound => ?_
  exact .ensure (.of_steady (Act.closeStream_steady plain_streams stream))
    (consume_keepsTo hhandler stream bound)

/-! ### Polling -/

/-- Whatever the fiber waits and asks for, it leaves the script as the company says. -/
def Keeps (c : Company) (m : Act α) : Prop := c.KeepsTo (fun _ => True) (fun _ => True) m

/-- The script is as the company says, and so are the elements that were brought, if any were. -/
def Brought (c : Company) (_ : World) (r : Except Failure (List Element × Option Failure × Bool))
    (w : World) : Prop :=
  w.Scripted c.waits ∧ ∀ x, r = .ok x → ElementsWithin c.waits x.1

/-- A failure brings no elements. -/
theorem Brought.failed (hw : w.Scripted c.waits) (w₀ : World) (e : Failure) :
    c.Brought w₀ (.error e) w := ⟨hw, by rintro x ⟨⟩⟩

/-- What an answer brings are its elements, after whatever waits it asks for. -/
theorem meet_brings {answer : Answer} (h : answer.Within c.waits) {w₀ w : World}
    (hw : w.Scripted c.waits) :
    (Act.meet answer).Meets (c.terms (fun _ => True) (fun _ => True)) c.Brought w₀ w := by
  obtain ⟨delay, reply⟩ := answer
  -- with or without a delay, the reply is met in the same way
  have hreply (w₀ : World) {w : World} (hw : w.Scripted c.waits) :
      (Act.meet { reply }).Meets (c.terms (fun _ => True) (fun _ => True)) c.Brought w₀ w := by
    cases reply with
    | raise failure => exact .failed hw w₀ failure
    | block =>
      refine ⟨⟨trivial, hw⟩, fun answer v _ _ hanswer => ?_⟩
      have hv := c.scripted hanswer hw
      cases answer with
      | ok _ => exact .failed hv v _
      | error _ => exact .failed hv v _
    | stream elements closeFailure closable =>
      refine ⟨hw, ?_⟩
      rintro x ⟨⟩
      exact h.elements
  cases delay with
  | none => exact hreply w₀ hw
  | some seconds =>
    show (Act.sleep seconds >>= fun _ => Act.meet { reply }).Meets _ _ w₀ w
    rw [meets_bind, Act.sleep, meets_await]
    refine ⟨⟨trivial, hw⟩, fun answer v _ _ hanswer => ?_⟩
    have hv := c.scripted hanswer hw
    cases answer with
    | ok _ => exact hreply v hv
    | error _ => exact .failed hv v _

/-- What a request brings is as the company says. -/
theorem request_brings (transport : Transport) (query : Query) {w₀ : World}
    (hw : w.Scripted c.waits) :
    (Act.request transport query).Meets (c.terms (fun _ => True) (fun _ => True)) c.Brought w₀ w := by
  obtain ⟨hanswer, hserver⟩ := hw.answer
  rw [Act.request, meets_bind, meets_state, byOutcome_ok]
  exact ⟨fun _ _ => trivial, fun _ _ => trivial, meet_brings hanswer (hserver.of_same rfl rfl)⟩

/-- A connection is added with the elements that were brought. -/
theorem addConnection_keeps {connection : Connection}
    (h : ElementsWithin c.waits connection.pending) : c.Keeps (Act.addConnection connection) := by
  refine keepsTo_state fun w _ => .bind (.of_steady (Steady.update fun v => ?_)) fun _ => .pure _
  exact ⟨World.asked?_of_journal rfl, fun hv => hv.opened h⟩

/-- A poll leaves behind what was brought. -/
theorem openConnection_keeps (transport : Transport) (query : Query) :
    c.Keeps (Act.openConnection transport query) := by
  intro w₀ w hw
  cases transport with
  | feed =>
    show (Act.request .feed query >>= fun x => Act.addConnection
      { transport := .feed, pending := x.1, closeFailure := x.2.1, closable := x.2.2 }).Meets _ _ w₀ w
    rw [meets_bind]
    refine (request_brings _ _ hw).mono fun v₀ r v hv => ?_
    cases r with
    | error e => exact hv.1
    | ok x => exact addConnection_keeps (hv.2 x rfl) v₀ v hv.1
  | http endpoint =>
    show (((Act.request (.http endpoint) query).recover fun failure =>
        .fail (Connection.requestFailure failure)) >>= fun x =>
      Act.log .debug ("transport." ++ endpoint.name) "watch_opened"
        (("transport", .text endpoint.name) :: query.arguments) >>= fun _ => Act.addConnection
          { transport := .http endpoint, pending := x.1, closeFailure := x.2.1 }).Meets _ _ w₀ w
    rw [meets_bind, meets_recover]
    refine (request_brings _ _ hw).mono fun v₀ r v hv => ?_
    cases r with
    | error e => exact hv.1
    | ok x =>
      -- the line that is logged comes between what was brought and the connection that gets it
      refine KeepsTo.bind ?_ (fun _ => addConnection_keeps (hv.2 x rfl)) v₀ v hv.1
      exact .of_steady (Act.log_steady plain_streams.toTolerantOfLogs _ _ _ _)

/-- **A poll** leaves the script as the company says, however it goes. -/
theorem poll_keeps (i : InformerId) : c.Keeps (Act.poll i) := by
  have hlog (level : Log.Level) (component event : String) (fields : List (String × Json)) :
      c.Keeps (Act.log level component event fields) :=
    .of_steady (Act.log_steady plain_streams.toTolerantOfLogs _ _ _ _)
  have hmetrics (f : Metrics → Metrics) : c.Keeps (Fiber.update (·.changeMetrics f)) :=
    .of_steady (Steady.update fun w => plain_rewinding.metrics w f)
  have hphase (phase : Phase) : c.Keeps (Act.setPhase i phase) :=
    .of_steady (Act.setPhase_steady plain_streams.toTolerant i phase)
  rw [Act.poll_eq]
  refine keepsTo_gets fun it => .bind ?_ fun _ => .bind ?_ fun _ => ?_
  · exact .of_steady (Act.noteResync_steady plain_streams.toTolerant i it)
  · exact .of_steady (Act.resync_steady plain_rewinding (fun _ => trivial) _ _ _)
  · refine keepsTo_gets fun found => (hlog _ _ _ _).bind fun _ => (hmetrics _).bind fun _ => ?_
    refine KeepsTo.bind ?_ fun connection => (hphase .watching).bind fun _ => ?_
    · exact (openConnection_keeps _ _).recover fun e => (hphase .idle).bind fun _ => .fail e
    · refine keepsTo_state fun w _ => .bind (.of_steady ?_) fun _ => .pure _
      exact Steady.update fun w => .of_journal rfl rfl rfl

/-! ### Attempts -/

/-- Steps that issue no request and come to no wait. -/
structure Silent (steps : List (Step World)) : Prop where
  asked : Step.asked steps = []
  waits : Step.waits steps = []

/-- What an attempt does of its own accord comes before all that it does on behalf of others: one
request at most, and these waits. -/
structure Opens (c : Company) (own : List Wait) (steps : List (Step World)) : Prop where
  asked : ∃ request : Option WatchRequest, ∃ others,
    Step.asked steps = request.toList ++ others ∧ ∀ r ∈ others, c.asks r
  waits : ∃ others, Step.waits steps = own ++ others ∧ ∀ what ∈ others, c.waits what

/-- Where nothing is asked in a stretch, nothing is asked in a part of it. -/
theorem silent_of_goes {changes first second : List (World × World)}
    (hnone : World.requestsOf changes = []) (hsplit : changes = first ++ second) :
    Silent (Step.ofChanges first) := by
  rw [hsplit, World.requestsOf_append] at hnone
  refine ⟨?_, Step.waits_ofChanges first⟩
  rw [Step.asked_ofChanges]
  exact (List.append_eq_nil_iff.mp hnone).1

/-- Whoever asks issues one request, and waits for its answer only. -/
theorem asks_course {found : World} {k : CursorId} {version : String} {r : WatchRequest}
    (h : Asks m found k version r) (hfound : found.Scripted c.waits) {steps : List (Step World)}
    {m' : Act α} {t : World} (hcourse : Course c.meanwhile m found steps m' t) :
    (∃ request : Option WatchRequest, Step.asked steps = request.toList) ∧
      ∀ what ∈ Step.waits steps, c.waits what := by
  obtain ⟨changes, before, after, rest, hgo, hnone, hasked, -, -, -, hrest⟩ := h
  rcases Course.of_goes hgo hcourse with ⟨first, second, hsplit, rfl, -⟩ | ⟨more, rfl, hmore⟩
  · -- the request is still to come
    obtain ⟨hnothing, hnowhere⟩ := silent_of_goes hnone hsplit
    exact ⟨⟨none, hnothing⟩, by simp⟩
  · cases hmore with
    | here => exact ⟨⟨none, by simp [Step.asked_ofChanges, hnone]⟩, by simp⟩
    | @write _ _ _ steps _ _ hafter =>
      -- after the request nothing is asked any more, and the waits are those of the answer
      have hsteps := hrest.course hafter
      have hquiet : Step.asked steps = [] := by
        refine List.filterMap_eq_nil_iff.mpr fun step hstep => ?_
        cases step with
        | change before after => exact (hsteps _ hstep).2
        | wait what => rfl
      refine ⟨⟨some r, ?_⟩, fun what hwhat => ?_⟩
      · rw [Step.asked_append, Step.asked_ofChanges, hnone]
        show List.filterMap Step.asked? (.change before after :: steps) = [r]
        rw [List.filterMap_cons_some (show Step.asked? (.change before after) = some r from hasked)]
        exact congrArg (r :: ·) hquiet
      · rw [Step.waits_append, Step.waits_ofChanges, List.nil_append, Step.waits_cons_change] at hwhat
        obtain ⟨_, _, hawaited⟩ := hsteps _ (Step.mem_waits.mp hwhat)
        exact hfound.answer.1.awaited what hawaited

/-- The backoff of a poll: it is waited for when the cursor is found armed. -/
def backoffOf (i : InformerId) (w : World) : List Wait :=
  if (w.cursor (w.informer i).cursor).expired then [.sleep (w.informer i).backoff] else []

/-- A poll waits for its backoff first, if it finds its cursor armed, and issues one request then. -/
theorem poll_course {i : InformerId} (hw : w.Scripted c.waits) {steps : List (Step World)}
    {m : Act StreamId} {t : World} (hcourse : Course c.meanwhile (Act.poll i) w steps m t) :
    c.Opens (backoffOf i w) steps ∨ (Silent steps ∧ m.Unended) := by
  rw [backoffOf]
  cases harmed : (w.cursor (w.informer i).cursor).expired with
  | false =>
    -- a poll that finds its cursor clear has no wait of its own
    have hclear : w.cursor (w.informer i).cursor
        = ⟨(w.cursor (w.informer i).cursor).version, false⟩ := by rw [← harmed]
    obtain ⟨⟨request, hrequest⟩, hwaits⟩ :=
      asks_course (Act.poll_asks_of_clear hclear) hw hcourse
    refine .inl ⟨⟨request, [], ?_, by simp⟩, Step.waits steps, rfl, hwaits⟩
    rw [hrequest, List.append_nil]
  | true =>
    -- a poll that finds it armed sleeps before anything else that shows
    obtain ⟨changes, asleep, hgo, hstill, -⟩ := Act.poll_goes_of_armed harmed
    have hnone : World.requestsOf changes = [] :=
      World.requestsOf_eq_nil_iff.mpr fun change hchange => (hstill change hchange).2
    rcases Course.of_goes hgo hcourse with ⟨first, second, hsplit, rfl, hleft⟩ | ⟨more, rfl, hmore⟩
    · exact .inr ⟨silent_of_goes hnone hsplit, .of_goes hleft (.wait _ _)⟩
    · -- the script is still as the company says when the sleep begins
      have hasleep : asleep.Scripted c.waits := ((hgo.meets_iff).mp (poll_keeps i w w hw)).2.1.2
      cases hmore with
      | here =>
        refine .inr ⟨⟨?_, ?_⟩, .wait _ _⟩
        · simp [Step.asked_ofChanges, hnone]
        · simp
      | @wait _ _ _ answer found steps _ _ hanswer hafter =>
        have hfound := c.scripted hanswer hasleep
        have hrest : (∃ request : Option WatchRequest, Step.asked steps = request.toList) ∧
            ∀ what ∈ Step.waits steps, c.waits what := by
          cases answer with
          | ok _ => exact asks_course (Act.afterBackoff_asks i (w.informer i) found) hfound hafter
          | error e =>
            -- the sleep was struck, and the poll ends with that
            obtain ⟨rfl, -, -⟩ := Course.of_ended (r := .error e) hafter
            exact ⟨⟨none, rfl⟩, by simp⟩
        obtain ⟨⟨request, hrequest⟩, hwaits⟩ := hrest
        refine .inl ⟨⟨request, [], ?_, by simp⟩, Step.waits steps, ?_, hwaits⟩
        · simp [Step.asked_ofChanges, hnone, hrequest]
        · simp

/-- What follows the poll of an attempt is on behalf of others. -/
theorem Opens.append {own : List Wait} {first second : List (Step World)} (h : c.Opens own first)
    (hwaits : ∀ what ∈ Step.waits second, c.waits what)
    (hasks : ∀ r ∈ Step.asked second, c.asks r) : c.Opens own (first ++ second) := by
  obtain ⟨⟨request, others, hasked, hothers⟩, more, heq, hmore⟩ := h
  refine ⟨⟨request, others ++ Step.asked second, ?asked, fun r hr => ?others⟩,
    more ++ Step.waits second, ?waits, fun what hwhat => ?more⟩
  case asked => rw [Step.asked_append, hasked, List.append_assoc]
  case others =>
    rcases List.mem_append.mp hr with hr | hr
    · exact hothers r hr
    · exact hasks r hr
  case waits => rw [Step.waits_append, heq, List.append_assoc]
  case more =>
    rcases List.mem_append.mp hwhat with hwhat | hwhat
    · exact hmore what hwhat
    · exact hwaits what hwhat

/-- **An attempt** opens as its poll does; what follows is the reading of its stream and the
calls of the handler. -/
theorem pollOnce_course (hhandler : ∀ item, c.KeepsTo c.waits c.asks (handler item))
    (hw : w.Scripted c.waits) {steps : List (Step World)} {m : Act Unit} {t : World}
    (hcourse : Course c.meanwhile (Act.pollOnce handler s) w steps m t) :
    c.Opens (backoffOf (w.supervisor s).informer w) steps ∨ (Silent steps ∧ m.Unended) := by
  have hgo : Goes (Act.pollOnce handler s) w []
      (Act.poll (w.supervisor s).informer >>= Act.drain handler s) w := .read .here
  rcases Course.of_goes hgo hcourse with ⟨first, second, hnone, rfl, hleft⟩ | ⟨more, rfl, hmore⟩
  · -- not even the supervisor has been looked at
    obtain ⟨rfl, -⟩ := List.append_eq_nil_iff.mp hnone.symm
    exact .inr ⟨⟨rfl, rfl⟩, .of_goes hleft (.bind (.read _) _)⟩
  · rcases hmore.of_bind with ⟨m₁, hpoll, rfl⟩ | ⟨first, second, stream, u, rfl, hpoll, hread⟩
    · -- the poll is still under way
      exact (poll_course hw hpoll).imp_right fun h => ⟨h.1, h.2.bind _⟩
    · -- the poll has brought a stream, and that is read with the script as it was left
      have hu : u.Scripted c.waits := ((poll_keeps _).course hw hpoll).2.2 (.ok stream) rfl
      obtain ⟨hwaits, hasks, -⟩ := (drain_keepsTo hhandler stream).course hu hread
      rcases poll_course hw hpoll with hopens | ⟨-, hunended⟩
      · exact .inl (hopens.append hwaits hasks)
      · exact absurd rfl (hunended (.ok stream))

/-! ### Pauses -/

/-- What the loop waits for after an attempt that came to an outcome. -/
def pauseAfter (s : SupervisorId) (u : World) : Except Failure Unit → List Wait
  | .ok _ => []
  | .error e => if e.isOrdinary then [.sleep (u.supervisor s).retryDelay] else []

/-- A pause that has come so far: the waits are those that belong to the outcome, all of them if
another attempt follows.  No attempt follows when the supervisor was stopped or what is no ordinary
failure struck. -/
structure Pauses (s : SupervisorId) (outcome : Except Failure Unit) (u : World)
    (steps : List (Step World)) (m : Act Bool) (t : World) : Prop where
  asked : Step.asked steps = []
  waits : Step.waits steps <+: pauseAfter s u outcome
  another : m = .done true → Step.waits steps = pauseAfter s u outcome
  last : m = .done false → (t.supervisor s).running = false
  failed : ∀ e, m = .fail e → e.isOrdinary = false

/-- Nothing has been done yet, and something is left to do. -/
theorem Pauses.unended {outcome : Except Failure Unit} {u t : World} {steps : List (Step World)}
    {m : Act Bool} (h : Silent steps) (hm : m.Unended) : Pauses s outcome u steps m t where
  asked := h.asked
  waits := by
    rw [h.waits]
    exact List.nil_prefix
  another heq := absurd heq (hm (.ok true))
  last heq := absurd heq (hm (.ok false))
  failed e heq := absurd heq (hm (.error e))

/-- A retry is a log line and a sleep. -/
theorem retryAfter_goes (s : SupervisorId) (failure : Failure) (u : World) :
    ∃ changes v, Goes (Act.retryAfter s failure) u changes
        (.wait (.sleep (u.supervisor s).retryDelay) ofExcept) v ∧
      World.requestsOf changes = [] := by
  have hquiet (level : Log.Level) (component event : String) (fields : List (String × Json)) :
      World.requestsOf [(u, u.log level component event fields 0)] = [] :=
    World.requestsOf_singleton_of_none (World.asked?_log u level component event fields 0)
  cases failure with
  | transport text status =>
    exact ⟨_, _, .read (.read (.read (.read (.write .here)))), hquiet _ _ _ _⟩
  | _ => exact ⟨_, _, .read (.read (.read (.read (.write .here)))), hquiet _ _ _ _⟩

/-- The pause after a failure is one sleep of the retry delay; when it is struck, what strikes it
is no ordinary failure. -/
theorem retryAfter_pauses {failure : Failure} (hfailure : failure.isOrdinary = true) {u t : World}
    {steps : List (Step World)} {m : Act Bool}
    (hcourse : Course c.meanwhile (Act.retryAfter s failure >>= fun _ => pure true) u steps m t) :
    Pauses s (.error failure) u steps m t := by
  obtain ⟨changes, v, hgo, hnone⟩ := retryAfter_goes s failure u
  rcases Course.of_goes (hgo.bind fun _ => pure true) hcourse with
    ⟨first, second, hsplit, rfl, hleft⟩ | ⟨more, rfl, hmore⟩
  · -- the line has not been logged yet
    exact .unended (silent_of_goes hnone hsplit) (.of_goes hleft (.bind (.wait _ _) _))
  · have hasked : Step.asked (Step.ofChanges changes) = [] := by rw [Step.asked_ofChanges, hnone]
    have hpause : pauseAfter s u (.error failure) = [.sleep (u.supervisor s).retryDelay] :=
      if_pos hfailure
    cases hmore with
    -- the loop is in its sleep
    | here => exact .unended ⟨by simp [hasked], by simp⟩ (.wait _ _)
    | @wait _ _ _ answer found steps _ _ hanswer hafter =>
      have hend : steps = [] ∧ (m = .done true ∨ ∃ e, m = .fail e ∧ e.isOrdinary = false) := by
        cases answer with
        | ok _ =>
          obtain ⟨rfl, rfl, -⟩ := Course.of_ended (r := .ok true) hafter
          exact ⟨rfl, .inl rfl⟩
        | error e =>
          -- the sleep was struck; an ordinary failure does not come out of it
          obtain ⟨rfl, rfl, -⟩ := Course.of_ended (r := .error e) hafter
          exact ⟨rfl, .inr ⟨e, rfl, c.unfailing hanswer nofun⟩⟩
      obtain ⟨rfl, hm⟩ := hend
      have hwaits : Step.waits (Step.ofChanges changes ++ [.wait (.sleep (u.supervisor s).retryDelay)])
          = pauseAfter s u (.error failure) := by
        rw [hpause, Step.waits_append, Step.waits_ofChanges]
        rfl
      refine ⟨by simp [hasked], ?_, fun _ => hwaits, fun hlast => ?_, fun e hfail => ?_⟩
      · exact ⟨[], (List.append_nil _).trans hwaits⟩
      · rcases hm with rfl | ⟨e, rfl, -⟩
        · cases hlast
        · cases hlast
      · rcases hm with rfl | ⟨e', rfl, he'⟩
        · cases hfail
        · cases hfail
          exact he'

/-- An ordinary failure is followed by a retry, one that is none of the transport only if the
supervisor still runs. -/
theorem answerFailure_eq (s : SupervisorId) {failure : Failure} (h : failure.isOrdinary = true) :
    Act.answerFailure s failure = (Act.retryAfter s failure >>= fun _ => pure true) ∨
      Act.answerFailure s failure = (do
        if (← Act.supervisor s).running then
          Act.retryAfter s failure
          return true
        else return false) := by
  cases failure with
  | transport text status => exact .inl rfl
  | _ => first | exact .inr rfl | exact absurd h Bool.false_ne_true

/-- After an ordinary failure the loop retries, or rests if the supervisor was stopped meanwhile. -/
theorem answerFailure_pauses {failure : Failure} (hfailure : failure.isOrdinary = true) {u t : World}
    {steps : List (Step World)} {m : Act Bool}
    (hcourse : Course c.meanwhile (Act.answerFailure s failure) u steps m t) :
    Pauses s (.error failure) u steps m t := by
  rcases answerFailure_eq s hfailure with heq | heq
  · rw [heq] at hcourse
    -- a failure of the transport is retried in any case
    exact retryAfter_pauses hfailure hcourse
  · -- any other is retried if the supervisor still runs
    rw [heq] at hcourse
    cases hcourse with
    | here => exact .unended ⟨rfl, rfl⟩ (.read _)
    | read hcourse =>
      replace hcourse : Course c.meanwhile
          (if (u.supervisor s).running then Act.retryAfter s failure >>= fun _ => pure true
            else pure false) u steps m t := hcourse
      cases hruns : (u.supervisor s).running with
      | true =>
        rw [hruns] at hcourse
        exact retryAfter_pauses hfailure hcourse
      | false =>
        rw [hruns] at hcourse
        obtain ⟨rfl, rfl, rfl⟩ := Course.of_ended (r := .ok false) hcourse
        exact ⟨rfl, List.nil_prefix, by rintro ⟨⟩, fun _ => hruns, by rintro e ⟨⟩⟩

/-! ### Rounds -/

/-- How a round answers the outcome of its attempt. -/
def answerOutcome (s : SupervisorId) : Except Failure Unit → Act Bool
  | .ok _ => return true
  | .error failure => Act.answerFailure s failure

/-- A round: if the supervisor runs, an attempt and the answer to its outcome. -/
theorem pollRound_eq (handler : Item → Act Unit) (s : SupervisorId) :
    Act.pollRound handler s = (do
      if (← Act.supervisor s).running then (Act.pollOnce handler s).attempt >>= answerOutcome s
      else return false) := by
  refine congrArg (Act.supervisor s >>= ·) (funext fun it => ?_)
  split
  · refine congrArg (_ >>= ·) (funext fun r => ?_)
    cases r with
    | ok _ => rfl
    | error failure => rfl
  · rfl

/-- A round leaves the script as the company says, so that the next one finds it so. -/
theorem pollRound_keeps (hhandler : ∀ item, c.KeepsTo c.waits c.asks (handler item)) :
    c.Keeps (Act.pollRound handler s) := by
  rw [pollRound_eq]
  refine keepsTo_gets fun it => ?_
  split
  · refine KeepsTo.bind (KeepsTo.attempt (keepsTo_gets fun it => ?_)) fun r => ?_
    · refine (poll_keeps it.informer).bind fun stream => ?_
      exact (drain_keepsTo hhandler stream).mono (fun _ _ => trivial) fun _ _ => trivial
    · cases r with
      | ok _ => exact .pure true
      | error failure =>
        refine .of_steady ?_
        exact Act.answerFailure_steady plain_streams.toTolerantOfLogs (fun _ => trivial) s failure
  · exact .pure false

/-- What follows an attempt is the pause that belongs to its outcome. -/
theorem answerOutcome_pauses {outcome : Except Failure Unit} {u t : World}
    {steps : List (Step World)} {m : Act Bool}
    (hcourse : Course c.meanwhile (answerOutcome s outcome) u steps m t) :
    Pauses s outcome u steps m t := by
  cases outcome with
  | ok _ =>
    obtain ⟨rfl, rfl, rfl⟩ := Course.of_ended (r := .ok true) hcourse
    exact ⟨rfl, List.nil_prefix, fun _ => rfl, by rintro ⟨⟩, by rintro e ⟨⟩⟩
  | error failure =>
    cases hfailure : failure.isOrdinary with
    | true => exact answerFailure_pauses hfailure hcourse
    | false =>
      -- what is no ordinary failure goes through
      have heq : answerOutcome s (.error failure) = Fiber.fail failure := by
        show (if !failure.isOrdinary then Fiber.fail failure else _) = _
        rw [hfailure]
        rfl
      rw [heq] at hcourse
      obtain ⟨rfl, rfl, rfl⟩ := Course.of_ended (r := .error failure) hcourse
      refine ⟨rfl, List.nil_prefix, by rintro ⟨⟩, by rintro ⟨⟩, ?_⟩
      rintro e ⟨⟩
      exact hfailure

/-- What a course of a round shows. -/
inductive Round (c : Company) (handler : Item → Act Unit) (s : SupervisorId) (w : World) :
    List (Step World) → Act Bool → World → Prop where
  /-- The supervisor is not to run: no attempt is made. -/
  | resting {t} : (t.supervisor s).running = false → Round c handler s w [] (.done false) t
  /-- The attempt has neither asked nor waited yet. -/
  | silent {steps m t} : Silent steps → m.Unended → Round c handler s w steps m t
  /-- The attempt has not come to its end. -/
  | attempting {steps m t} :
    c.Opens (backoffOf (w.supervisor s).informer w) steps → m.Unended → Round c handler s w steps m t
  /-- The attempt has come to an outcome, and a pause follows. -/
  | attempted {attempt outcome u pause m t} :
    Course c.meanwhile (Act.pollOnce handler s) w attempt (ofExcept outcome) u →
      c.Opens (backoffOf (w.supervisor s).informer w) attempt → Pauses s outcome u pause m t →
        Round c handler s w (attempt ++ pause) m t

/-- **A round** shows one of four things, by how far it has come. -/
theorem pollRound_course (hhandler : ∀ item, c.KeepsTo c.waits c.asks (handler item))
    (hw : w.Scripted c.waits) {steps : List (Step World)} {m : Act Bool} {t : World}
    (hcourse : Course c.meanwhile (Act.pollRound handler s) w steps m t) :
    c.Round handler s w steps m t := by
  rw [pollRound_eq] at hcourse
  cases hcourse with
  | here => exact .silent ⟨rfl, rfl⟩ (.read _)
  | read hcourse =>
    replace hcourse : Course c.meanwhile (if (w.supervisor s).running then
      (Act.pollOnce handler s).attempt >>= answerOutcome s else pure false) w steps m t := hcourse
    cases hruns : (w.supervisor s).running with
    | false =>
      rw [hruns] at hcourse
      obtain ⟨rfl, rfl, rfl⟩ := Course.of_ended (r := .ok false) hcourse
      exact .resting hruns
    | true =>
      rw [hruns] at hcourse
      -- an attempt that came to an outcome cannot be silent
      have hended {first second : List (Step World)} {outcome : Except Failure Unit} {u : World}
          (honce : Course c.meanwhile (Act.pollOnce handler s) w first (ofExcept outcome) u)
          (hanswer : Course c.meanwhile (answerOutcome s outcome) u second m t) :
          c.Round handler s w (first ++ second) m t := by
        rcases pollOnce_course hhandler hw honce with hopens | ⟨-, hunended⟩
        · exact .attempted honce hopens (answerOutcome_pauses hanswer)
        · exact absurd rfl (hunended outcome)
      rcases Course.of_bind hcourse with
        ⟨m₁, hattempt, rfl⟩ | ⟨first, second, outcome, u, rfl, hattempt, hanswer⟩
      · -- the attempt is as far as the course goes; it may just have come to its end
        obtain ⟨m₂, honce, rfl⟩ := hattempt.of_attempt
        rcases ended_or_unended m₂ with ⟨outcome, rfl⟩ | hunended
        · have hhere : Course c.meanwhile (answerOutcome s outcome) t []
              ((ofExcept outcome).attempt >>= answerOutcome s) t := by
            rw [Course.attempt_ofExcept]
            exact .here
          have hround := hended honce hhere
          rwa [List.append_nil] at hround
        · rcases pollOnce_course hhandler hw honce with hopens | ⟨hsilent, -⟩
          · exact .attempting hopens (hunended.attempt.bind _)
          · exact .silent hsilent (hunended.attempt.bind _)
      · -- the attempt is over, and the pause has begun
        obtain ⟨m₂, honce, heq⟩ := hattempt.of_attempt
        obtain rfl := Course.ended_of_attempt heq.symm
        exact hended honce hanswer

/-! ### The loop -/

/-- A round that another one has followed: an attempt that came to an outcome, and the pause that
belongs to it. -/
inductive Behind (c : Company) (handler : Item → Act Unit) (s : SupervisorId) (w : World) :
    List (Step World) → Prop where
  | intro {attempt outcome u pause} :
    Course c.meanwhile (Act.pollOnce handler s) w attempt (ofExcept outcome) u →
      c.Opens (backoffOf (w.supervisor s).informer w) attempt →
        Step.asked pause = [] → Step.waits pause = pauseAfter s u outcome →
          Behind c handler s w (attempt ++ pause)

/-- A round that another one follows came to an outcome and paused. -/
theorem Round.behind {steps : List (Step World)} {t : World}
    (h : c.Round handler s w steps (.done true) t) : c.Behind handler s w steps := by
  generalize hm : (Fiber.done true : Act Bool) = m at h
  cases h with
  | resting _ => cases hm
  | silent _ hunended => exact absurd hm.symm (hunended (.ok true))
  | attempting _ hunended => exact absurd hm.symm (hunended (.ok true))
  | attempted honce hopens hpause => exact .intro honce hopens hpause.asked (hpause.another hm.symm)

/-- No ordinary failure ends a round. -/
theorem Round.not_ordinary {steps : List (Step World)} {t : World} {e : Failure}
    (h : c.Round handler s w steps (.fail e) t) : e.isOrdinary = false := by
  generalize hm : (Fiber.fail e : Act Bool) = m at h
  cases h with
  | resting _ => cases hm
  | silent _ hunended => exact absurd hm.symm (hunended (.error e))
  | attempting _ hunended => exact absurd hm.symm (hunended (.error e))
  | attempted _ _ hpause => exact hpause.failed e hm.symm

/-- The last round finds the supervisor stopped. -/
theorem Round.stopped {steps : List (Step World)} {t : World}
    (h : c.Round handler s w steps (.done false) t) : (t.supervisor s).running = false := by
  generalize hm : (Fiber.done false : Act Bool) = m at h
  cases h with
  | resting hstopped => exact hstopped
  | silent _ hunended => exact absurd hm.symm (hunended (.ok false))
  | attempting _ hunended => exact absurd hm.symm (hunended (.ok false))
  | attempted _ _ hpause => exact hpause.last hm.symm

/-- **The discipline of a poll loop.**  Whatever the server sends, the handler does and the others
make of the state during the waits: each round that lies behind is an attempt with one request of its
own at most, which waits for its backoff first if it found the cursor armed and of its own accord for
nothing else, and a pause, which is one sleep of the retry delay if the attempt failed and nothing at
all if it did not.  The present round is as far on this way as it has come.  No ordinary failure ends
the loop: it ends when the supervisor was stopped, or by a failure that is not ordinary. -/
theorem polls_in_order (c : Company) {handler : Item → Act Unit}
    (hhandler : ∀ item, c.KeepsTo c.waits c.asks (handler item)) (s : SupervisorId) {w v t : World}
    (hw : w.Scripted c.waits) {past : List (World × List (Step World))}
    (hpast : Rounds c.meanwhile (Act.pollRound handler s) w past v) {present : List (Step World)}
    {m : Act Bool} (hpresent : Course c.meanwhile (Act.pollRound handler s) v present m t) :
    (∀ x ∈ past, c.Behind handler s x.1 x.2) ∧ c.Round handler s v present m t ∧
      (∀ e, m = .fail e → e.isOrdinary = false) ∧
      (m = .done false → (t.supervisor s).running = false) := by
  -- over the rounds that lie behind: each finds the script as the one before has left it
  obtain ⟨hbehind, hv⟩ := hpast.law (·.Scripted c.waits) (c.Behind handler s)
    (fun u steps u' hu hcourse => ⟨(pollRound_course hhandler hu hcourse).behind,
      ((pollRound_keeps hhandler).course hu hcourse).2.2 (.ok true) rfl⟩) hw
  have hround := pollRound_course hhandler hv hpresent
  refine ⟨hbehind, hround, ?_, ?_⟩
  · rintro e rfl
    exact hround.not_ordinary
  · rintro rfl
    exact hround.stopped

/-- A server that refuses the first request, sends nothing for two seconds and then the end to the
second one, and never answers a third one.  The cursor is armed. -/
def failingOnce : World where
  server := {
    script := [
      { reply := .raise (.transport "refused" none) },
      { reply := .stream [.delay (.ofInt 2)] none true }]
    afterwards := { reply := .block } }
  cursors := [{ version := "7", expired := true }]
  informers := [{ transport := .feed }]
  supervisors := [{ informer := 0, handler := .logging, running := true }]

/-- The loop is left alone, and no wait is broken off. -/
def onlookers : Company where
  waits what := what = .forever ∨ what = .sleep (.ofInt 2)
  asks _ := False
  meanwhile w _ answer w' := w' = w ∧ answer = .ok ()
  scripted := by
    rintro w what answer _ ⟨rfl, -⟩ hw
    exact hw
  unfailing := by
    rintro w what e w' ⟨-, h⟩
    cases h

/-- The script of that server asks for these waits only. -/
theorem failingOnce_scripted : failingOnce.Scripted onlookers.waits := by
  -- an answer without a delay asks for what its elements ask for
  have hanswer {reply : Reply} (h : ElementsWithin onlookers.waits { reply : Answer }.elements) :
      Answer.Within onlookers.waits { reply } := by
    refine ⟨fun what hwhat => ?_, h⟩
    rcases hwhat with ⟨seconds, hnone, -⟩ | hforever
    · exact absurd hnone (Option.some_ne_none seconds).symm
    · exact .inl hforever
  have hnothing : ElementsWithin onlookers.waits [] := fun e he => absurd he List.not_mem_nil
  refine ⟨fun a ha => ?_, hanswer hnothing, fun k => hnothing⟩
  rcases List.mem_cons.mp ha with rfl | ha
  · exact hanswer hnothing
  · rw [List.mem_singleton.mp ha]
    refine hanswer fun e he what hwhat => ?_
    rw [List.mem_singleton.mp he] at hwhat
    exact .inr hwhat

/-- A round of the loop in that state, when as many waits come to their ends. -/
def roundAlone (waits : Nat) (w : World) : List (Step World) × Act Bool × World :=
  alone (List.replicate waits (.ok ())) (Act.pollRound Act.logItem 0) w

/-- When nobody else acts, as many waits are over as are given. -/
theorem course_roundAlone (waits : Nat) (w : World) :
    Course onlookers.meanwhile (Act.pollRound Act.logItem 0) w (roundAlone waits w).1
      (roundAlone waits w).2.1 (roundAlone waits w).2.2 :=
  course_alone _ fun _ hanswer _ _ => ⟨rfl, List.eq_of_mem_replicate hanswer⟩

/-- The first attempt finds the cursor armed and fails: the loop sleeps for the backoff, and then for
the retry delay.  The second attempt ends as its stream does, and no pause follows.  The third one has
come to its request. -/
theorem polls_in_order_failingOnce :
    ∃ past v present m t,
      Rounds onlookers.meanwhile (Act.pollRound Act.logItem 0) failingOnce past v ∧
        past.map (fun x => Step.waits x.2)
          = [[.sleep (.ofInt 10), .sleep (.ofInt 5)], [.sleep (.ofInt 2)]] ∧
        (Step.asked present).length = 1 ∧ (∀ x ∈ past, onlookers.Behind Act.logItem 0 x.1 x.2) ∧
        onlookers.Round Act.logItem 0 v present m t := by
  have hfirst := course_roundAlone 2 failingOnce
  have hsecond := course_roundAlone 1 (roundAlone 2 failingOnce).2.2
  rw [show (roundAlone 2 failingOnce).2.1 = .done true from rfl] at hfirst
  rw [show (roundAlone 1 (roundAlone 2 failingOnce).2.2).2.1 = .done true from rfl] at hsecond
  -- two rounds lie behind, and the third has been begun
  have hpast := (Rounds.none.more hfirst).more hsecond
  have hpresent := course_roundAlone 0 (roundAlone 1 (roundAlone 2 failingOnce).2.2).2.2
  have hlog (item : Item) : onlookers.KeepsTo onlookers.waits onlookers.asks (Act.logItem item) :=
    .of_steady (Act.logItem_steady plain_streams.toTolerantOfLogs item)
  obtain ⟨hbehind, hround, -, -⟩ := polls_in_order onlookers hlog 0 failingOnce_scripted hpast hpresent
  exact ⟨_, _, _, _, _, hpast, by decide +kernel, by decide +kernel, hbehind, hround⟩

end Company

end ResumableWatch
