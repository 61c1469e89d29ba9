import ResumableWatch.Proofs.Fiber.Agreement
import ResumableWatch.Proofs.Informer.Backoff
/-!
# What a watch goes by

Informers, their cursors and all that they poll with are what a watch goes by, together with the
supervisors but for how often these report, and the requests that were issued (`World.watch`).  Not
in it are log lines, metrics, the books of the tasks and what is kept for a session, unless
somebody says what of the latter two he goes by (`aside`).

A `Veil` lets some decoders look alike, and some items, as far as a cursor goes by them.  Two worlds
that look alike through it (`World.veiled`) may differ in other things, and in decoders and observed
items as far as the veil allows.  In such worlds the calls of a watch run abreast, and hand out
items that look alike (`poll_veiled`, `nextOfStream_agree`, `closeStream_veiled`).

`Act.Secluded` says that a fiber goes by nothing but the watch: in two worlds that differ in other
things only it does the same.  This is what is left when the veil hides nothing (`Veil.clear`).
-/

namespace ResumableWatch

open ResumableWatch.Fiber

/-! ### The watch -/

/-- The watch request that something seen is, if it is one. -/
def Happening.request? : Happening → Option WatchRequest
  | .request operation arguments => some ⟨operation, arguments⟩
  | _ => none

/-- The supervisor, whatever the interval of its status reporter. -/
def Supervisor.unscheduled (supervisor : Supervisor) : Supervisor :=
  { supervisor with statusInterval := .nan }

/-- What a watch goes by. -/
structure Watch (κ : Type) where
  server : Server
  cursors : List Cursor
  informers : List Informer
  connections : List Connection
  streams : List Stream
  supervisors : List Supervisor
  requests : List WatchRequest
  aside : κ

/-- What is seen once a connection has been changed. -/
def Watch.changeConnection {κ : Type} (c : ConnectionId) (f : Connection → Connection)
    (v : Watch κ) : Watch κ :=
  { v with connections := v.connections.modify c f }

namespace World

/-- The watch requests that were issued, the newest one first. -/
def requests (w : World) : List WatchRequest := w.journal.filterMap (·.what.request?)

/-- What a watch goes by in a world, and what of the tasks and of the session somebody goes by. -/
def watch {κ : Type} (aside : Tasks Job → Rehearsal → κ) (w : World) : Watch κ where
  server := w.server
  cursors := w.cursors
  informers := w.informers
  connections := w.connections
  streams := w.streams
  supervisors := w.supervisors.map Supervisor.unscheduled
  requests := w.requests
  aside := aside w.tasks w.rehearsal

variable {κ : Type} {aside : Tasks Job → Rehearsal → κ} {w w' : World}

/-! ### What is looked up -/

theorem cursor_of_watch (h : w.watch aside = w'.watch aside) (c : CursorId) :
    w.cursor c = w'.cursor c :=
  congrArg (fun v : Watch κ => (v.cursors[c]?).getD default) h

theorem informer_of_watch (h : w.watch aside = w'.watch aside) (i : InformerId) :
    w.informer i = w'.informer i :=
  congrArg (fun v : Watch κ => (v.informers[i]?).getD default) h

theorem connection_of_watch (h : w.watch aside = w'.watch aside) (c : ConnectionId) :
    w.connection c = w'.connection c :=
  congrArg (fun v : Watch κ => (v.connections[c]?).getD default) h

theorem stream_of_watch (h : w.watch aside = w'.watch aside) (s : StreamId) :
    w.stream s = w'.stream s :=
  congrArg (fun v : Watch κ => (v.streams[s]?).getD default) h

/-- What is seen of a supervisor is looked up in what is seen of all of them. -/
theorem unscheduled_supervisor (w : World) (s : SupervisorId) :
    (w.supervisor s).unscheduled
      = (((w.supervisors.map Supervisor.unscheduled)[s]?).getD
          (default : Supervisor).unscheduled) := by
  rw [List.getElem?_map, Option.getD_map]
  rfl

/-- Supervisors that cannot be told apart differ in the interval of their status reporters only. -/
theorem unscheduled_of_watch (h : w.watch aside = w'.watch aside) (s : SupervisorId) :
    (w.supervisor s).unscheduled = (w'.supervisor s).unscheduled := by
  rw [unscheduled_supervisor, unscheduled_supervisor]
  exact congrArg (fun v => (v.supervisors[s]?).getD (default : Supervisor).unscheduled) h

/-! ### What is changed -/

/-- Log lines are out of sight. -/
theorem watch_log (w : World) (level : Log.Level) (component event : String)
    (fields : List (String × Json)) (lines : Nat) :
    (w.log level component event fields lines).watch aside = w.watch aside := by
  obtain ⟨entries, heq, hall⟩ := log_eq w level component event fields lines
  have hnone : entries.filterMap (·.what.request?) = [] := by
    refine List.filterMap_eq_nil_iff.mpr fun e he => ?_
    cases hwhat : e.what with
    | request operation arguments => exact absurd hwhat (hall e he operation arguments)
    | _ => rfl
  have hrequests : (w.log level component event fields lines).requests = w.requests := by
    rw [heq, requests, List.filterMap_append, hnone]
    rfl
  rw [watch, hrequests, heq]
  rfl

/-- A change of a supervisor that has nothing to do with its interval. -/
theorem watch_changeSupervisor (w : World) (s : SupervisorId) {f : Supervisor → Supervisor}
    (hf : ∀ supervisor, (f supervisor).unscheduled = f supervisor.unscheduled) :
    (w.changeSupervisor s f).watch aside
      = { w.watch aside with supervisors := (w.watch aside).supervisors.modify s f } := by
  have hmap : (w.supervisors.modify s f).map Supervisor.unscheduled
      = (w.supervisors.map Supervisor.unscheduled).modify s f := map_modify_through hf _ s
  rw [watch, changeSupervisor, hmap]
  rfl

end World

/-! ### Veils -/

/-- Two items that are observed alike. -/
inductive Item.Resembles : Item → Item → Prop
  | failure (failure : Failure) : Resembles (.failure failure) (.failure failure)
  | event {e e' : Event} (htype : e.type = e'.type) (hstatus : e.status = e'.status)
      (hversion : e.version = e'.version) : Resembles (.event e) (.event e')

/-- An item resembles itself, whatever it is. -/
theorem Item.Resembles.refl (item : Item) : item.Resembles item := by
  cases item with
  | failure failure => exact .failure failure
  | event e => exact .event rfl rfl rfl

/-- What is made of decoders and of items so that some of them look alike.  Decoders that do make
items that do of every line, and such items are observed alike. -/
structure Veil where
  decoder : Option Decoder → Option Decoder
  item : Item → Item
  decodes : ∀ {d d' : Option Decoder}, decoder d = decoder d' → ∀ line : List UInt8,
    Likewise (fun i i' => item i = item i') (Frame.item d line) (Frame.item d' line)
  observes : ∀ {i i' : Item}, item i = item i' → i.Resembles i'

namespace Veil

/-- The veil that hides nothing. -/
def clear : Veil where
  decoder := id
  item := id
  decodes := by
    rintro d _ rfl line
    exact .refl (fun _ => rfl) _
  observes := by
    rintro i _ rfl
    exact .refl i

variable (veil : Veil)

/-- Two items that look alike. -/
def Same (i i' : Item) : Prop := veil.item i = veil.item i'

/-- How a transport looks. -/
def transport : Transport → Transport
  | .feed => .feed
  | .http endpoint => .http { endpoint with decoder := veil.decoder endpoint.decoder }

/-- How an informer looks. -/
def informer (it : Informer) : Informer :=
  { it with transport := veil.transport it.transport, observed := it.observed.map veil.item }

/-- How a connection looks. -/
def connection (connection : Connection) : Connection :=
  { connection with transport := veil.transport connection.transport }

/-- How what a watch goes by looks. -/
def watch {κ : Type} (v : Watch κ) : Watch κ :=
  { v with
    informers := v.informers.map veil.informer
    connections := v.connections.map veil.connection }

variable {veil}

/-- Transports that look alike differ in their decoders only. -/
theorem transport_cases {t t' : Transport} (h : veil.transport t = veil.transport t') :
    (t = .feed ∧ t' = .feed) ∨ ∃ endpoint decoder, t = .http endpoint ∧
      t' = .http { endpoint with decoder } ∧
        veil.decoder endpoint.decoder = veil.decoder decoder := by
  cases t with
  | feed =>
    cases t' with
    | feed => exact .inl ⟨rfl, rfl⟩
    | http endpoint' => cases h
  | http endpoint =>
    cases t' with
    | feed => cases h
    | http endpoint' =>
      obtain ⟨name, decoder, operation, namespaceName⟩ := endpoint
      obtain ⟨name', decoder', operation', namespaceName'⟩ := endpoint'
      simp only [transport, Transport.http.injEq, Endpoint.mk.injEq] at h
      -- the veil is over the decoder only
      obtain ⟨rfl, hdecoder, rfl, rfl⟩ := h
      exact .inr ⟨_, decoder', rfl, rfl, hdecoder⟩

end Veil

namespace World

/-- What a watch goes by, seen through a veil. -/
def veiled {κ : Type} (veil : Veil) (aside : Tasks Job → Rehearsal → κ) (w : World) : Watch κ :=
  veil.watch (w.watch aside)

variable {veil : Veil} {κ : Type} {aside : Tasks Job → Rehearsal → κ} {w w' : World}

/-- Through the clear veil all of the watch is seen, so what is shown for veils is shown for it. -/
theorem veiled_clear : veiled .clear aside = watch aside := by
  funext w
  -- a clear veil changes neither an informer nor a connection
  have hinformer : Veil.clear.informer = id := by
    funext it
    have htransport : Veil.clear.transport it.transport = it.transport := by
      cases it.transport <;> rfl
    have hobserved : it.observed.map Veil.clear.item = it.observed := List.map_id _
    rw [Veil.informer, htransport, hobserved]
    rfl
  have hconnection : Veil.clear.connection = id := by
    funext connection
    have htransport : Veil.clear.transport connection.transport = connection.transport := by
      cases connection.transport <;> rfl
    rw [Veil.connection, htransport]
    rfl
  rw [veiled, Veil.watch, hinformer, hconnection, List.map_id, List.map_id]

theorem cursor_of_veiled (h : w.veiled veil aside = w'.veiled veil aside) (c : CursorId) :
    w.cursor c = w'.cursor c :=
  congrArg (fun v : Watch κ => (v.cursors[c]?).getD default) h

theorem stream_of_veiled (h : w.veiled veil aside = w'.veiled veil aside) (s : StreamId) :
    w.stream s = w'.stream s :=
  congrArg (fun v : Watch κ => (v.streams[s]?).getD default) h

/-- A veil may be put on an informer before it is looked up, or on all of them. -/
theorem veil_informer (w : World) (i : InformerId) :
    veil.informer (w.informer i)
      = ((w.informers.map veil.informer)[i]?).getD (veil.informer default) := by
  rw [List.getElem?_map, Option.getD_map]
  rfl

/-- Informers that look alike differ in their transports and in what was observed for them only. -/
theorem informer_of_veiled (h : w.veiled veil aside = w'.veiled veil aside) (i : InformerId) :
    ∃ transport observed, w'.informer i = { w.informer i with transport, observed } ∧
      veil.transport (w.informer i).transport = veil.transport transport ∧
      (w.informer i).observed.map veil.item = observed.map veil.item := by
  have hsame : veil.informer (w.informer i) = veil.informer (w'.informer i) := by
    rw [veil_informer, veil_informer]
    exact congrArg (fun v : Watch κ => (v.informers[i]?).getD (veil.informer default)) h
  -- what is left is about two records, field by field
  generalize w.informer i = it at hsame ⊢
  generalize w'.informer i = it' at hsame ⊢
  cases it
  cases it'
  simp only [Veil.informer, Informer.mk.injEq] at hsame
  obtain ⟨htransport, rfl, rfl, rfl, rfl, rfl, rfl, rfl, hobserved⟩ := hsame
  exact ⟨_, _, rfl, htransport, hobserved⟩

theorem veil_connection (w : World) (c : ConnectionId) :
    veil.connection (w.connection c)
      = ((w.connections.map veil.connection)[c]?).getD (veil.connection default) := by
  rw [List.getElem?_map, Option.getD_map]
  rfl

/-- Connections that look alike differ in their transports only. -/
theorem connection_of_veiled (h : w.veiled veil aside = w'.veiled veil aside) (c : ConnectionId) :
    ∃ transport, w'.connection c = { w.connection c with transport } ∧
      veil.transport (w.connection c).transport = veil.transport transport := by
  have hsame : veil.connection (w.connection c) = veil.connection (w'.connection c) := by
    rw [veil_connection, veil_connection]
    exact congrArg (fun v : Watch κ => (v.connections[c]?).getD (veil.connection default)) h
  -- again two records, field by field
  generalize w.connection c = connection at hsame ⊢
  generalize w'.connection c = connection' at hsame ⊢
  cases connection
  cases connection'
  simp only [Veil.connection, Connection.mk.injEq] at hsame
  obtain ⟨htransport, rfl, rfl, rfl, rfl, rfl⟩ := hsame
  exact ⟨_, rfl, htransport⟩

end World

/-! ### The values of a cursor -/

/-- The value that a step gives to a cursor, if it changes that. -/
def Fiber.Step.cursor? (c : CursorId) : Step World → Option Cursor
  | .change w w' => if w'.cursor c = w.cursor c then none else some (w'.cursor c)
  | .wait _ => none

/-- The values that a cursor takes on, one after the other. -/
def cursorValues (c : CursorId) (steps : List (Step World)) : List Cursor :=
  steps.filterMap (Step.cursor? c)

/-- A cursor takes on the same values in steps that match, when they let see the cursor. -/
theorem Fiber.Matched.cursorValues_eq {γ : Type} {view : World → γ} {c : CursorId}
    (hview : ∀ w w', view w = view w' → w.cursor c = w'.cursor c) {steps steps' : List (Step World)}
    (h : Matched view steps steps') : cursorValues c steps = cursorValues c steps' := by
  refine h.filterMap_eq (fun v u v' u' hv hu => ?_) fun v u hsame => ?_
  · rw [Step.cursor?, Step.cursor?, hview _ _ hv, hview _ _ hu]
  · rw [Step.cursor?, hview _ _ hsame, if_pos rfl]

/-! ### Fibers that go by the watch -/

/-- A fiber that goes by the watch and nothing else. -/
abbrev Act.Secluded {κ : Type} (aside : Tasks Job → Rehearsal → κ) {α : Type} (m : Act α) : Prop :=
  Agree (World.watch aside) Eq m m

/-- A fiber that goes by what a veil leaves of the watch, and nothing else. -/
abbrev Act.Veiled (veil : Veil) {κ : Type} (aside : Tasks Job → Rehearsal → κ) {α : Type}
    (m : Act α) : Prop :=
  Agree (World.veiled veil aside) Eq m m

namespace Act

variable {veil : Veil} {κ : Type} {aside : Tasks Job → Rehearsal → κ}

/-! ### Small steps -/

theorem log_veiled (level : Log.Level) (component event : String)
    (fields : List (String × Json)) : Veiled veil aside (log level component event fields) :=
  Agree.update_through id fun w => congrArg veil.watch (w.watch_log level component event fields 0)

/-- Of all entries only a request changes what is seen. -/
theorem watch_record (what : Happening) (w : World) :
    (w.record what).watch aside =
      { w.watch aside with requests := what.request?.toList ++ (w.watch aside).requests } := by
  rw [World.watch, World.requests, World.record, List.filterMap_cons]
  cases what.request? <;> rfl

/-- What is entered is out of sight if it is no request, and seen as what it is otherwise. -/
theorem record_veiled (what : Happening) : Veiled veil aside (record what) :=
  Agree.update_through
    (fun v => { v with requests := what.request?.toList ++ v.requests })
    fun w => congrArg veil.watch (watch_record what w)

theorem changeMetrics_veiled (f : Metrics → Metrics) :
    Veiled veil aside (Fiber.update (·.changeMetrics f)) :=
  Agree.update_through id fun _ => rfl

theorem changeCursor_veiled (c : CursorId) (f : Cursor → Cursor) :
    Veiled veil aside (changeCursor c f) :=
  Agree.update_through (fun v => { v with cursors := v.cursors.modify c f }) fun _ => rfl

/-- Changes of an informer agree when both look like the same change of what is seen of it. -/
theorem changeInformer_agree (i : InformerId) {f f' g : Informer → Informer}
    (hf : ∀ it, veil.informer (f it) = g (veil.informer it))
    (hf' : ∀ it, veil.informer (f' it) = g (veil.informer it)) :
    Agree (World.veiled veil aside) Eq (Fiber.update (·.changeInformer i f))
      (Fiber.update (·.changeInformer i f')) := by
  -- either change acts on what is seen as `g` does
  have hthrough {f : Informer → Informer} (hf : ∀ it, veil.informer (f it) = g (veil.informer it))
      (w : World) : (w.changeInformer i f).veiled veil aside =
        { w.veiled veil aside with
          informers := (w.veiled veil aside).informers.modify i g } := by
    have hmodify := map_modify_through hf w.informers i
    simp only [World.veiled, Veil.watch, World.watch, World.changeInformer, hmodify]
    rfl
  refine Agree.update fun w w' hw => ?_
  rw [hthrough hf, hthrough hf', hw]

/-- A change of an informer is seen if it looks like itself through the veil. -/
theorem changeInformer_veiled (i : InformerId) {f : Informer → Informer}
    (hf : ∀ it, veil.informer (f it) = f (veil.informer it)) :
    Veiled veil aside (Fiber.update (·.changeInformer i f)) :=
  changeInformer_agree i hf hf

/-- A change of a connection that looks like one of what is seen of it is seen. -/
theorem veiled_changeConnection (c : ConnectionId) {f : Connection → Connection}
    (hf : ∀ connection, veil.connection (f connection) = f (veil.connection connection))
    (w : World) :
    (w.changeConnection c f).veiled veil aside =
      (w.veiled veil aside).changeConnection c f := by
  have hmodify := map_modify_through hf w.connections c
  simp only [World.veiled, Veil.watch, World.watch, World.changeConnection, hmodify]
  rfl

theorem changeConnection_veiled (c : ConnectionId) {f : Connection → Connection}
    (hf : ∀ connection, veil.connection (f connection) = f (veil.connection connection)) :
    Veiled veil aside (Fiber.update (·.changeConnection c f)) :=
  Agree.update_through (Watch.changeConnection c f) (veiled_changeConnection c hf)

theorem changeStream_veiled (s : StreamId) (f : Stream → Stream) :
    Veiled veil aside (Fiber.update (·.changeStream s f)) :=
  Agree.update_through (fun v => { v with streams := v.streams.modify s f }) fun _ => rfl

/-- What is handed to the API client is out of sight. -/
theorem recordHandedOver_agree (handedOver handedOver' : Option (String × String)) :
    Agree (World.veiled veil aside) Eq (recordHandedOver handedOver)
      (recordHandedOver handedOver') := by
  -- it changes nothing that is seen, so the two sides need not hand over the same
  have hunseen (handedOver : Option (String × String)) (w : World) : ∃ made t,
      Goes (recordHandedOver handedOver) w made (Fiber.ofExcept (.ok ())) t ∧
        ∀ c ∈ made, c.2.veiled veil aside = c.1.veiled veil aside := by
    cases handedOver with
    | none => exact ⟨[], w, .here, List.forall_mem_nil _⟩
    | some handed =>
      refine ⟨_, _, .read (.write .here), List.forall_mem_singleton.mpr ?_⟩
      exact congrArg veil.watch (watch_record _ w)
  exact .of_unseen (hunseen handedOver) (hunseen handedOver')

theorem cursor_veiled (c : CursorId) : Veiled veil aside (cursor c) :=
  Agree.gets fun _ _ hw => World.cursor_of_veiled hw c

/-- What is looked up of an informer leads on alike when it does for informers that look alike. -/
theorem informer_look {α β : Type} {post : Except Failure α → Except Failure β → Prop}
    {i : InformerId} {g : Informer → Act α} {g' : Informer → Act β}
    (h : ∀ (it : Informer) (transport : Transport) (observed : List Item),
      veil.transport it.transport = veil.transport transport →
        Agree (World.veiled veil aside) post (g it) (g' { it with transport, observed })) :
    Agree (World.veiled veil aside) post (informer i >>= g) (informer i >>= g') := by
  refine Agree.look fun w w' hw => ?_
  obtain ⟨transport, observed, hi, htransport, -⟩ := World.informer_of_veiled hw i
  rw [hi]
  exact h _ _ _ htransport

/-! ### A connection -/

theorem markClosed_veiled (c : ConnectionId) : Veiled veil aside (markClosed c) := by
  refine Agree.state fun w w' hw => ?_
  obtain ⟨transport, hc, -⟩ := World.connection_of_veiled hw c
  rw [hc]
  split
  · -- the entry is out of sight, so all that is seen is the change of the connection
    refine Agree.update_through (Watch.changeConnection c fun x => { x with closed := true })
      fun v => (congrArg veil.watch (watch_record .close _)).trans ?_
    refine veiled_changeConnection c ?_ v
    exact fun _ => rfl
  · exact Agree.pure ()

theorem failClosing_veiled (c : ConnectionId) : Veiled veil aside (failClosing c) := by
  refine Agree.state fun w w' hw => ?_
  obtain ⟨transport, hc, -⟩ := World.connection_of_veiled hw c
  rw [hc]
  dsimp only
  split
  · exact Agree.fail _
  · exact Agree.pure ()

theorem closeResponse_veiled (c : ConnectionId) : Veiled veil aside (closeResponse c) := by
  refine Agree.state fun w w' hw => ?_
  obtain ⟨transport, hc, -⟩ := World.connection_of_veiled hw c
  rw [hc]
  split
  · exact Agree.pure ()
  · exact (markClosed_veiled c).bind fun _ => failClosing_veiled c

theorem endFrames_veiled (c : ConnectionId) : Veiled veil aside (endFrames c) :=
  changeConnection_veiled c fun _ => rfl

theorem closeConnection_veiled (c : ConnectionId) : Veiled veil aside (closeConnection c) := by
  refine Agree.state fun w w' hw => ?_
  obtain ⟨transport, hc, htransport⟩ := World.connection_of_veiled hw c
  rw [hc]
  dsimp only
  -- a veil does not hide which of the two transports a connection has
  rcases Veil.transport_cases htransport with ⟨hfeed, rfl⟩ | ⟨endpoint, decoder, hhttp, rfl, -⟩
  · rw [hfeed]
    dsimp only
    split
    · exact (markClosed_veiled c).bind fun _ => failClosing_veiled c
    · exact Agree.pure ()
  · rw [hhttp]
    exact (endFrames_veiled c).bind fun _ => closeResponse_veiled c

theorem keep_veiled (c : ConnectionId) (pending : List Element) :
    Veiled veil aside (keep c pending) :=
  changeConnection_veiled c fun _ => rfl

theorem readItem_veiled (c : ConnectionId) (elements : List Element) :
    Veiled veil aside (readItem c elements) := by
  induction elements with
  | nil => exact Agree.pure none
  | cons e rest ih =>
    cases e with
    | delay seconds => exact (keep_veiled c rest).bind fun _ => (Agree.await _).bind fun _ => ih
    | block => exact (keep_veiled c rest).bind fun _ => (Agree.await _).bind fun _ => ih
    | raise failure => exact (keep_veiled c rest).bind fun _ => Agree.fail failure
    | line bytes => exact (keep_veiled c rest).bind fun _ => ih
    | item handedOver made =>
      exact (keep_veiled c rest).bind fun _ => (recordHandedOver_agree handedOver _).bind fun _ =>
        (Agree.ofExcept made).bind fun _ => Agree.pure _

theorem readLine_veiled (c : ConnectionId) (elements : List Element) :
    Veiled veil aside (readLine c elements) := by
  induction elements with
  | nil => exact Agree.pure none
  | cons e rest ih =>
    cases e with
    | delay seconds => exact (keep_veiled c rest).bind fun _ => (Agree.await _).bind fun _ => ih
    | block => exact (keep_veiled c rest).bind fun _ => (Agree.await _).bind fun _ => ih
    | raise failure => exact (keep_veiled c rest).bind fun _ => Agree.fail failure
    | item handedOver made => exact (keep_veiled c rest).bind fun _ => ih
    | line bytes =>
      -- what is taken of a line does not go by what the veil is over
      refine (keep_veiled c rest).bind fun _ => ?_
      split
      · exact Agree.pure none
      · split
        · exact ih
        · exact Agree.pure _

/-- What decoders that look alike make of a line. -/
theorem decodeLine_agree (c : ConnectionId) {d d' : Option Decoder}
    (h : veil.decoder d = veil.decoder d') (line : List UInt8) :
    Agree (World.veiled veil aside) (Likewise veil.Same) (decodeLine c d line)
      (decodeLine c d' line) := by
  refine (recordHandedOver_agree _ _).andThen fun _ => ?_
  have hmade := veil.decodes h line
  generalize Frame.item d line = made at hmade ⊢
  generalize Frame.item d' line = made' at hmade ⊢
  cases hmade with
  | ok hsame => exact Agree.result hsame
  | error failure => exact (endFrames_veiled c).andThen fun _ => .failing failure

/-- The next frame of a body, for decoders that look alike. -/
theorem nextFrame_agree (c : ConnectionId) {d d' : Option Decoder}
    (h : veil.decoder d = veil.decoder d') :
    Agree (World.veiled veil aside) (Likewise (Option.Rel veil.Same)) (nextFrame c d)
      (nextFrame c d') := by
  refine Agree.state fun w w' hw => ?_
  obtain ⟨transport, hc, -⟩ := World.connection_of_veiled hw c
  rw [hc]
  dsimp only
  split
  · exact Agree.result .none
  · refine (readLine_veiled c _).attempt.andThen fun r => ?_
    split
    · exact (decodeLine_agree c h _).seq fun _ _ hsame => Agree.result (.some hsame)
    · exact (endFrames_veiled c).andThen fun _ => Agree.result .none
    · -- a failed read is an item or goes through, on both sides
      refine (endFrames_veiled c).andThen fun _ => ?_
      split
      · exact Agree.result (.some rfl)
      · exact Agree.failing _

/-- Items that are the same look the same. -/
theorem same_of_eq {r r' : Except Failure (Option Item)} (h : r = r') :
    Likewise (Option.Rel veil.Same) r r' := by
  subst h
  refine .refl (fun i => ?_) r
  cases i with
  | none => exact .none
  | some i => exact .some rfl

/-- Read through connections that look alike, the next items look the same, and they end alike. -/
theorem nextItem_agree (c : ConnectionId) :
    Agree (World.veiled veil aside) (Likewise (Option.Rel veil.Same)) (nextItem c)
      (nextItem c) := by
  refine Agree.state fun w w' hw => ?_
  obtain ⟨transport, hc, htransport⟩ := World.connection_of_veiled hw c
  rw [hc]
  dsimp only
  -- a feed hands over the items themselves; over HTTP they are decoded first
  rcases Veil.transport_cases htransport with ⟨hfeed, rfl⟩ | ⟨endpoint, decoder, hhttp, rfl, h⟩
  · rw [hfeed]
    dsimp only
    split
    · exact Agree.result .none
    · exact (readItem_veiled c _).mono fun _ _ => same_of_eq
  · rw [hhttp]
    refine (nextFrame_agree c h).seq fun r r' hr => ?_
    cases hr with
    | some hsame => exact Agree.result (.some hsame)
    | none => exact (closeResponse_veiled c).andThen fun _ => Agree.result .none

/-! ### Opening a connection -/

theorem meet_veiled (answer : Answer) : Veiled veil aside (meet answer) := by
  unfold meet
  rcases answer.delay with _ | seconds
  all_goals dsimp only
  on_goal 2 => refine (Agree.await (.sleep seconds)).bind fun _ => ?_
  -- with or without a delay, the reply is met in the same way
  all_goals
    split
    · exact Agree.fail _
    · exact (Agree.await _).bind fun _ => Agree.fail _
    · exact Agree.pure _

theorem request_veiled (transport : Transport) (query : Query) :
    Veiled veil aside (request transport query) := by
  refine Agree.state fun w w' hw => ?_
  rw [show w.server = w'.server from congrArg Watch.server hw]
  -- the answer is taken from the script, which is seen
  refine (Agree.update_through (fun v : Watch κ => { v with server := _ }) fun _ => rfl).bind ?_
  exact fun _ => (record_veiled _).bind fun _ => meet_veiled _

/-- Connections over transports that look alike look alike. -/
theorem addConnection_agree {connection connection' : Connection}
    (h : veil.connection connection = veil.connection connection') :
    Agree (World.veiled veil aside) Eq (addConnection connection) (addConnection connection') := by
  refine Agree.state fun w w' hw => ?_
  -- the new connection gets the same number on both sides, and looks the same
  have hlength : w.connections.length = w'.connections.length := by
    have hveiled := congrArg (fun v : Watch κ => v.connections.length) hw
    simpa only [World.veiled, Veil.watch, World.watch, List.length_map] using hveiled
  have hadd {connection : Connection} (w : World) :
      World.veiled veil aside { w with connections := w.connections ++ [connection] } =
        { w.veiled veil aside with
          connections := (w.veiled veil aside).connections ++ [veil.connection connection] } := by
    simp only [World.veiled, Veil.watch, World.watch, List.map_append, List.map_singleton]
    rfl
  rw [hlength]
  refine Agree.bind (Agree.update fun v v' hv => ?_) fun _ => Agree.pure _
  rw [hadd, hadd, hv, h]

/-- A connection is opened alike over transports that look alike: the decoder takes no part in it.
-/
theorem openConnection_agree {transport transport' : Transport}
    (h : veil.transport transport = veil.transport transport') (query : Query) :
    Agree (World.veiled veil aside) Eq (openConnection transport query)
      (openConnection transport' query) := by
  rcases Veil.transport_cases h with ⟨rfl, rfl⟩ | ⟨endpoint, decoder, rfl, rfl, hdecoder⟩
  · exact (request_veiled .feed query).bind fun _ => addConnection_agree rfl
  · -- the request is the same on both sides; the connection that it opens looks the same
    refine Agree.bind ?_ fun _ => ?_
    · exact (request_veiled _ query).recover_of_eq fun _ => Agree.fail _
    · refine (log_veiled _ _ _ _).bind fun _ => addConnection_agree ?_
      rw [Veil.connection, h]
      rfl

/-! ### The observation of an item -/

theorem markDesynced_veiled (owner : Option InformerId) :
    Veiled veil aside (markDesynced owner) := by
  cases owner with
  | none => exact Agree.pure ()
  | some i => exact changeInformer_veiled i fun _ => rfl

theorem observeStatus_veiled (s : Stream) (status : Status) :
    Veiled veil aside (observeStatus s status) := by
  refine (changeMetrics_veiled _).bind fun _ => ?_
  split
  · exact (log_veiled _ _ _ _).bind fun _ =>
      (changeCursor_veiled s.cursor Cursor.arm).bind fun _ => markDesynced_veiled s.owner
  · exact log_veiled _ _ _ _

theorem observeVersion_veiled (s : Stream) (incoming : String) :
    Veiled veil aside (observeVersion s incoming) := by
  rw [observeVersion]
  split
  · exact Agree.pure ()
  · refine Agree.state fun w w' hw => ?_
    rw [World.cursor_of_veiled hw]
    split
    · exact Agree.fail _
    · exact (changeCursor_veiled s.cursor _).bind fun _ => log_veiled _ _ _ _

/-- Items that resemble one another are observed alike: the observation looks at the type, the
status and the version, and at nothing else. -/
theorem observe_agree (s : Stream) {item item' : Item} (h : item.Resembles item') :
    Agree (World.veiled veil aside) Eq (observe s item) (observe s item') := by
  cases h with
  | failure failure =>
    rw [observe]
    split
    · exact (changeMetrics_veiled _).bind fun _ => log_veiled _ _ _ _
    · exact Agree.fail _
  -- all that is asked of an event is the same on both sides
  | event htype hstatus hversion =>
    rw [observe, observe, htype, hstatus, hversion]
    refine (changeMetrics_veiled _).bind fun _ => ?_
    split
    · exact observeStatus_veiled s _
    · exact (Agree.ofExcept _).bind fun _ => observeVersion_veiled s _

/-! ### A stream -/

theorem setProgress_veiled (s : StreamId) (progress : Progress) :
    Veiled veil aside (setProgress s progress) :=
  changeStream_veiled s _

theorem setBusy_veiled (s : StreamId) (busy : Bool) : Veiled veil aside (setBusy s busy) :=
  changeStream_veiled s _

theorem endObservation_veiled (s : StreamId) : Veiled veil aside (endObservation s) := by
  refine (setProgress_veiled s _).bind fun _ => Agree.state fun w w' hw => ?_
  rw [World.stream_of_veiled hw]
  exact closeConnection_veiled _

theorem failObservation_agree {α β : Type} {R : α → β → Prop} (s : StreamId) (failure : Failure) :
    Agree (World.veiled veil aside) (Likewise R) (failObservation s failure : Act α)
      (failObservation s failure : Act β) :=
  (endObservation_veiled s).andThen fun _ => .failing failure

theorem noteObserved_agree (owner : Option InformerId) {item item' : Item}
    (h : veil.Same item item') :
    Agree (World.veiled veil aside) Eq (noteObserved owner item) (noteObserved owner item') := by
  cases owner with
  | none => exact Agree.pure ()
  | some i =>
    -- both look like the observation of what the two items look like
    refine changeInformer_agree
      (g := fun it => { it with observed := veil.item item :: it.observed }) i (fun _ => rfl) ?_
    intro it
    rw [h]
    rfl

theorem readObserved_agree (s : StreamId) :
    Agree (World.veiled veil aside) (Likewise (Option.Rel veil.Same)) (readObserved s)
      (readObserved s) := by
  refine Agree.state fun w w' hw => ?_
  rw [World.stream_of_veiled hw]
  refine (nextItem_agree _).attempted fun r r' hr => ?_
  -- the two reads have ended alike, so the same is done about it
  rcases hr with ⟨hitem⟩ | ⟨failure⟩
  · cases hitem with
    | none => exact (endObservation_veiled s).andThen fun _ => Agree.result .none
    | some hsame =>
      refine (observe_agree _ (veil.observes hsame)).attempt.andThen fun r => ?_
      split
      · exact failObservation_agree s _
      · exact (noteObserved_agree _ hsame).andThen fun _ => Agree.result (.some hsame)
  · exact failObservation_agree s failure

/-- One more observed item: the items look the same, and what they have done to the cursor is the
same. -/
theorem nextObserved_agree (s : StreamId) :
    Agree (World.veiled veil aside) (Likewise (Option.Rel veil.Same)) (nextObserved s)
      (nextObserved s) := by
  refine Agree.state fun w w' hw => ?_
  rw [World.stream_of_veiled hw]
  dsimp only
  split
  · exact Agree.failing _
  · split
    · exact Agree.result .none
    · refine (setProgress_veiled s _).andThen fun _ => ?_
      refine (setBusy_veiled s true).andThen fun _ => ?_
      exact (setBusy_veiled s false).ensured (readObserved_agree s)

theorem closeObservation_veiled (s : StreamId) : Veiled veil aside (closeObservation s) := by
  refine Agree.state fun w w' hw => ?_
  rw [World.stream_of_veiled hw]
  dsimp only
  split
  · exact Agree.fail _
  · split
    · exact setProgress_veiled s _
    · exact endObservation_veiled s
    · exact Agree.pure ()

theorem pollEnded_veiled (owner : Option InformerId) : Veiled veil aside (pollEnded owner) := by
  cases owner with
  | none => exact Agree.pure ()
  | some i =>
    refine Agree.bind (changeInformer_veiled i fun _ => rfl) fun _ =>
      Agree.state fun w w' hw => ?_
    obtain ⟨transport, observed, hi, -⟩ := World.informer_of_veiled hw i
    rw [hi]
    exact log_veiled _ _ _ _

theorem closeStream_veiled (s : StreamId) : Veiled veil aside (closeStream s) := by
  refine Agree.state fun w w' hw => ?_
  rw [World.stream_of_veiled hw]
  dsimp only
  split
  · exact Agree.pure ()
  · exact (changeStream_veiled s _).bind fun _ => (pollEnded_veiled _).ensure
      ((closeObservation_veiled s).bind fun _ => closeConnection_veiled _)

/-- One more item of a stream. -/
theorem nextOfStream_agree (s : StreamId) :
    Agree (World.veiled veil aside) (Likewise (Option.Rel veil.Same)) (nextOfStream s)
      (nextOfStream s) := by
  refine (nextObserved_agree s).seq fun r r' hr => ?_
  cases hr with
  | some hsame => exact Agree.result (.some hsame)
  | none => exact (closeStream_veiled s).andThen fun _ => Agree.result .none

/-! ### A poll -/

theorem setPhase_veiled (i : InformerId) (phase : Phase) : Veiled veil aside (setPhase i phase) :=
  changeInformer_veiled i fun _ => rfl

theorem resync_veiled (c : CursorId) (name : String) (backoff : Double) :
    Veiled veil aside (resync c name backoff) := by
  refine (cursor_veiled c).bind fun now => ?_
  split
  · exact Agree.pure false
  · refine (log_veiled _ _ _ _).bind fun _ => (changeMetrics_veiled _).bind fun _ =>
      (Agree.await _).bind fun _ => (cursor_veiled c).bind fun found => ?_
    dsimp only
    split
    · exact (changeCursor_veiled c _).bind fun _ => (changeMetrics_veiled _).bind fun _ =>
        (log_veiled _ _ _ _).bind fun _ => (changeCursor_veiled c _).bind fun _ => Agree.pure _
    · exact (log_veiled _ _ _ _).bind fun _ => (changeCursor_veiled c _).bind fun _ =>
        Agree.pure _

theorem addStream_veiled (stream : Stream) : Veiled veil aside (addStream stream) := by
  refine Agree.state fun w w' hw => ?_
  have hlength : w.streams.length = w'.streams.length :=
    congrArg (fun v : Watch κ => v.streams.length) hw
  rw [hlength]
  exact (Agree.update_through (fun v : Watch κ => { v with streams := v.streams ++ [stream] })
    fun _ => rfl).bind fun _ => Agree.pure _

/-- A poll goes by what is seen and nothing else. -/
theorem poll_veiled (i : InformerId) : Veiled veil aside (poll i) := by
  -- the transport of the informer is looked at to ask for the body, and nowhere else
  have hask (it : Informer) {transport : Transport} (observed : List Item)
      (h : veil.transport it.transport = veil.transport transport) :
      Agree (World.veiled veil aside) Eq (ask i it) (ask i { it with transport, observed }) :=
    (cursor_veiled it.cursor).bind fun _ => (log_veiled _ _ _ _).bind fun _ =>
      (changeMetrics_veiled _).bind fun _ => ((openConnection_agree h _).recover_of_eq fun _ =>
        (setPhase_veiled i .idle).bind fun _ => Agree.fail _).bind fun _ =>
          (setPhase_veiled i .watching).bind fun _ => addStream_veiled _
  have hnote (it : Informer) : Veiled veil aside (noteResync i it) := by
    refine (cursor_veiled it.cursor).bind fun now => ?_
    split
    · exact setPhase_veiled i .resyncing
    · exact Agree.pure ()
  rw [poll_eq]
  refine informer_look fun it transport observed h => ?_
  exact (hnote it).bind fun _ => (resync_veiled _ _ _).bind fun _ => hask it observed h

/-! ### An informer -/

/-- The copy of an informer looks like the copy of one that looks like it. -/
theorem copyInformer_veiled (i : InformerId) (query : Query) :
    Veiled veil aside (copyInformer i query) := by
  refine informer_look fun it transport observed h => Agree.state fun w w' hw => ?_
  have hlength : w.informers.length = w'.informers.length := by
    have hveiled := congrArg (fun v : Watch κ => v.informers.length) hw
    simpa only [World.veiled, Veil.watch, World.watch, List.length_map] using hveiled
  have hadd {it : Informer} (w : World) :
      World.veiled veil aside { w with informers := w.informers ++ [it] } =
        { w.veiled veil aside with
          informers := (w.veiled veil aside).informers ++ [veil.informer it] } := by
    simp only [World.veiled, Veil.watch, World.watch, List.map_append, List.map_singleton]
    rfl
  rw [hlength]
  refine Agree.bind (Agree.update fun v v' hv => ?_) fun _ => Agree.pure _
  rw [hadd, hadd, hv, Veil.informer, Veil.informer, h]

theorem setVersion_veiled (i : InformerId) (version : String) :
    Veiled veil aside (setVersion i version) :=
  informer_look fun _ _ _ _ => (log_veiled _ _ _ _).bind fun _ => changeCursor_veiled _ _

theorem resetVersion_veiled (i : InformerId) : Veiled veil aside (resetVersion i) :=
  informer_look fun _ _ _ _ => (log_veiled _ _ _ _).bind fun _ => changeCursor_veiled _ _

/-! ### Nothing is hidden -/

/-- What goes by what the clear veil leaves goes by the watch. -/
theorem secluded_of_veiled {α : Type} {m : Act α} (h : Veiled .clear aside m) :
    Secluded aside m := by
  rw [Secluded, ← World.veiled_clear]
  exact h

theorem log_secluded (level : Log.Level) (component event : String)
    (fields : List (String × Json)) : Secluded aside (log level component event fields) :=
  secluded_of_veiled (log_veiled level component event fields)

theorem record_secluded (what : Happening) : Secluded aside (record what) :=
  secluded_of_veiled (record_veiled what)

theorem setVersion_secluded (i : InformerId) (version : String) :
    Secluded aside (setVersion i version) :=
  secluded_of_veiled (setVersion_veiled i version)

theorem resetVersion_secluded (i : InformerId) : Secluded aside (resetVersion i) :=
  secluded_of_veiled (resetVersion_veiled i)

theorem informer_secluded (i : InformerId) : Secluded aside (informer i) :=
  Agree.gets fun _ _ hw => World.informer_of_watch hw i

theorem closeStream_secluded (s : StreamId) : Secluded aside (closeStream s) :=
  secluded_of_veiled (closeStream_veiled s)

theorem nextOfStream_secluded (s : StreamId) : Secluded aside (nextOfStream s) := by
  refine secluded_of_veiled (Agree.of_likewise ((nextOfStream_agree s).mono fun _ _ h => ?_))
  refine h.mono fun i i' hi => ?_
  cases hi with
  | some hsame => exact congrArg some hsame
  | none => rfl

theorem poll_secluded (i : InformerId) : Secluded aside (poll i) :=
  secluded_of_veiled (poll_veiled i)

end Act

end ResumableWatch
