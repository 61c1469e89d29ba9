import ResumableWatch.Proofs.Fiber.Terms
/-!
# Changes of the world

What single changes of the shared state do to its parts.  `World.asked?` reads off a change whether
it enters a watch request into the journal, and so issues it; a log line never does
(`asked?_log`).  `TolerantOfClosing P` collects the changes that closing a connection is made of,
`TolerantOfConnections P` those of reading from it as well, `TolerantOfStreams P` those of closing a
stream, `TolerantOfOpening P` new connections and streams, and `TolerantOfPolling P` all that a poll
loop does.  `Still` is the
relation of this kind that matters most: the cursors stay as they are, and no request is issued.
-/

namespace ResumableWatch

/-! ### Requests -/

/-- A watch request: the operation that lists, where there is one, and its arguments. -/
structure WatchRequest where
  operation : Option String
  arguments : List (String × Json)

/-- The version that a watch request resumes from. -/
def WatchRequest.version? (r : WatchRequest) : Option Json := r.arguments.lookup "resource_version"

/-- The request of an informer that resumes from a version. -/
def Informer.request (it : Informer) (version : String) : WatchRequest where
  operation := it.transport.operation
  arguments := it.transport.arguments (it.query.withVersion version)

/-- A selector is looked up under its own name only. -/
theorem Query.lookup_selector {name : String} (h : ("resource_version" == name) = false)
    (value : Option String) :
    (Query.selector name value).lookup "resource_version" = none := by
  cases value with
  | none => rfl
  | some s =>
    rw [Query.selector]
    split
    · rfl
    · rw [List.lookup_cons, h]
      rfl

/-- No other argument of a query goes by the name of its version. -/
theorem Query.lookup_withVersion (q : Query) (version : String) :
    (q.withVersion version).arguments.lookup "resource_version" = some (.text version) := by
  have htimeout : ((q.timeoutSeconds.map fun n => ("timeout_seconds", Json.int n)).toList).lookup
      "resource_version" = none := by
    cases q.timeoutSeconds <;> rfl
  rw [Query.arguments, List.lookup_append, List.lookup_append, List.lookup_append,
    Query.lookup_selector (by decide), Query.lookup_selector (by decide)]
  show (((none : Option Json).or none).or (List.lookup _
    (q.timeoutSeconds.map fun n => ("timeout_seconds", Json.int n)).toList)).or _ = _
  rw [htimeout]
  rfl

/-- A request resumes from the version it was made for, whatever version the query names. -/
theorem Informer.version?_request (it : Informer) (version : String) :
    (it.request version).version? = some (.text version) := by
  have hquery := Query.lookup_withVersion it.query version
  show (it.transport.arguments (it.query.withVersion version)).lookup "resource_version" = _
  -- the endpoint puts its namespace behind the arguments of the query, under another name
  cases it.transport with
  | feed => exact hquery
  | http endpoint =>
    rw [Transport.arguments]
    cases endpoint.namespaceName with
    | none => exact hquery
    | some n => exact hquery

namespace World

/-- The watch request that a change of the world issues, if it issues one. -/
def asked? (before after : World) : Option WatchRequest :=
  match after.journal with
  | ⟨_, .request operation arguments⟩ :: rest =>
    if rest.length = before.journal.length then some ⟨operation, arguments⟩ else none
  | _ => none

/-- The watch requests that changes of the world issue. -/
def requestsOf (changes : List (World × World)) : List WatchRequest :=
  changes.filterMap fun c => asked? c.1 c.2

theorem requestsOf_append (first second : List (World × World)) :
    requestsOf (first ++ second) = requestsOf first ++ requestsOf second :=
  List.filterMap_append

/-- No request is issued when no change issues one. -/
theorem requestsOf_eq_nil_iff {changes : List (World × World)} :
    requestsOf changes = [] ↔ ∀ change ∈ changes, asked? change.1 change.2 = none :=
  List.filterMap_eq_nil_iff

theorem requestsOf_cons_of_some {before after : World} {r : WatchRequest}
    (h : asked? before after = some r) (changes : List (World × World)) :
    requestsOf ((before, after) :: changes) = r :: requestsOf changes :=
  List.filterMap_cons_some h

theorem requestsOf_singleton_of_none {before after : World} (h : asked? before after = none) :
    requestsOf [(before, after)] = [] :=
  requestsOf_eq_nil_iff.mpr fun change hchange => by
    rw [List.mem_singleton.mp hchange]
    exact h

/-- Entering a watch request is what issues it. -/
theorem asked?_record_request (w : World) (operation : Option String)
    (arguments : List (String × Json)) :
    asked? w (w.record (.request operation arguments)) = some ⟨operation, arguments⟩ := by
  simp [asked?, record]

/-- Only a new entry issues a request. -/
theorem asked?_of_journal {before after : World} (h : after.journal = before.journal) :
    asked? before after = none := by
  rw [asked?, h]
  split
  · rename_i rest hj
    -- the journal would have to be longer than it was
    rw [if_neg]
    simp [hj]
  · rfl

/-- An entry that is no request issues none. -/
theorem asked?_of_entry {before after : World} {e : Entry} {rest : List Entry}
    (h : after.journal = e :: rest)
    (he : ∀ operation arguments, e.what ≠ .request operation arguments) :
    asked? before after = none := by
  obtain ⟨time, what⟩ := e
  rw [asked?, h]
  split
  · rename_i hj
    cases hj
    exact absurd rfl (he _ _)
  · rfl

/-! ### Log lines -/

/-- The lines of a text are entered one after the other, and nothing else is. -/
theorem foldl_console (lines : List String) (w : World) :
    ∃ entries, lines.foldl (fun w text => w.record (.console text)) w
        = { w with journal := entries ++ w.journal } ∧
      ∀ e ∈ entries, ∃ text, e.what = .console text := by
  induction lines generalizing w with
  | nil => exact ⟨[], rfl, by simp⟩
  | cons text rest ih =>
    obtain ⟨entries, heq, hall⟩ := ih (w.record (.console text))
    -- the newest entry stands in front, so that of the first line comes last
    refine ⟨entries ++ [⟨w.tasks.now, .console text⟩], ?_, ?_⟩
    · rw [List.foldl_cons, heq]
      simp [record]
    · intro e he
      rcases List.mem_append.mp he with he | he
      · exact hall e he
      · exact ⟨text, by rw [List.mem_singleton.mp he]⟩

/-- Entries that are written for a log line. -/
inductive Written (e : Entry) : Prop where
  | line (l : Log.Line) (h : e.what = .log l)
  | console (text : String) (h : e.what = .console text)

/-- A log line adds entries to the journal, all of which are written for it, and changes nothing
else. -/
theorem log_written (w : World) (level : Log.Level) (component event : String)
    (fields : List (String × Json)) (lines : Nat) :
    ∃ entries, w.log level component event fields lines
        = { w with journal := entries ++ w.journal } ∧ ∀ e ∈ entries, Written e := by
  have hline (l : Log.Line) : ∀ e ∈ [(⟨w.tasks.now, .log l⟩ : Entry)], Written e := by
    intro e he
    rw [List.mem_singleton.mp he]
    exact .line l rfl
  unfold log
  split
  · -- before the setup every line is one entry
    exact ⟨[⟨w.tasks.now, _⟩], rfl, hline _⟩
  · split_ifs
    · -- below the threshold nothing is written
      exact ⟨[], rfl, List.forall_mem_nil _⟩
    · -- on a console there is an entry for each line of the text
      obtain ⟨entries, heq, hall⟩ := foldl_console _ w
      refine ⟨entries, heq, fun e he => ?_⟩
      obtain ⟨text, ht⟩ := hall e he
      exact .console text ht
    · -- a line that is no text for a console is one entry as well
      exact ⟨[⟨w.tasks.now, _⟩], rfl, hline _⟩

/-- A log line adds entries to the journal, which are no requests, and changes nothing else. -/
theorem log_eq (w : World) (level : Log.Level) (component event : String)
    (fields : List (String × Json)) (lines : Nat) :
    ∃ entries, w.log level component event fields lines
        = { w with journal := entries ++ w.journal } ∧
      ∀ e ∈ entries, ∀ operation arguments, e.what ≠ .request operation arguments := by
  obtain ⟨entries, heq, hall⟩ := log_written w level component event fields lines
  refine ⟨entries, heq, fun e he operation arguments h => ?_⟩
  rcases hall e he with ⟨_, he⟩ | ⟨_, he⟩
  · rw [he] at h
    cases h
  · rw [he] at h
    cases h

section Log

variable (w : World) (level : Log.Level) (component event : String) (fields : List (String × Json))
  (lines : Nat)

/-- A log line is no request. -/
theorem asked?_log : asked? w (w.log level component event fields lines) = none := by
  obtain ⟨entries, heq, hall⟩ := log_eq w level component event fields lines
  rw [heq]
  -- whether anything was entered, and whatever comes first
  cases entries with
  | nil => exact asked?_of_journal rfl
  | cons e rest => exact asked?_of_entry rfl (hall e List.mem_cons_self)

/-- What does not depend on the journal is the same after a log line. -/
theorem log_part {β : Type} (part : World → β)
    (hpart : ∀ v journal, part { v with journal } = part v) :
    part (w.log level component event fields lines) = part w := by
  obtain ⟨entries, heq, -⟩ := log_eq w level component event fields lines
  rw [heq]
  exact hpart w _

@[simp] theorem log_cursors : (w.log level component event fields lines).cursors = w.cursors :=
  log_part w level component event fields lines (·.cursors) fun _ _ => rfl

@[simp] theorem log_connections :
    (w.log level component event fields lines).connections = w.connections :=
  log_part w level component event fields lines (·.connections) fun _ _ => rfl

@[simp] theorem log_streams : (w.log level component event fields lines).streams = w.streams :=
  log_part w level component event fields lines (·.streams) fun _ _ => rfl

@[simp] theorem log_informers :
    (w.log level component event fields lines).informers = w.informers :=
  log_part w level component event fields lines (·.informers) fun _ _ => rfl

@[simp] theorem log_supervisors :
    (w.log level component event fields lines).supervisors = w.supervisors :=
  log_part w level component event fields lines (·.supervisors) fun _ _ => rfl

@[simp] theorem log_tasks : (w.log level component event fields lines).tasks = w.tasks :=
  log_part w level component event fields lines (·.tasks) fun _ _ => rfl

@[simp] theorem log_metrics : (w.log level component event fields lines).metrics = w.metrics :=
  log_part w level component event fields lines (·.metrics) fun _ _ => rfl

@[simp] theorem log_server : (w.log level component event fields lines).server = w.server :=
  log_part w level component event fields lines (·.server) fun _ _ => rfl

end Log

/-! ### Cursors -/

theorem cursor_of_cursors {w w' : World} (h : w'.cursors = w.cursors) (c : CursorId) :
    w'.cursor c = w.cursor c := by
  rw [cursor, cursor, h]

/-- A cursor that is armed exists. -/
theorem lt_of_expired {w : World} {c : CursorId} (h : (w.cursor c).expired = true) :
    c < w.cursors.length := by
  by_contra hc
  -- a cursor that is not there reads as one that is clear
  rw [cursor, List.getElem?_eq_none (Nat.le_of_not_lt hc)] at h
  cases h

/-- The cursor that was changed; one that is not there reads as a default,
which no change reaches. -/
theorem cursor_changeCursor {w : World} {c : CursorId} (h : c < w.cursors.length)
    (f : Cursor → Cursor) : (w.changeCursor c f).cursor c = f (w.cursor c) := by
  simp [cursor, changeCursor, List.getElem?_modify_eq, List.getElem?_eq_getElem h]

theorem informer_changeInformer {w : World} {i : InformerId} (h : i < w.informers.length)
    (f : Informer → Informer) : (w.changeInformer i f).informer i = f (w.informer i) := by
  simp [informer, changeInformer, List.getElem?_modify_eq, List.getElem?_eq_getElem h]

theorem supervisor_changeSupervisor {w : World} {s : SupervisorId} (h : s < w.supervisors.length)
    (f : Supervisor → Supervisor) : (w.changeSupervisor s f).supervisor s = f (w.supervisor s) := by
  simp [supervisor, changeSupervisor, List.getElem?_modify_eq, List.getElem?_eq_getElem h]

/-- What is looked up after a change of one of the entries is what it was, or has been changed. -/
theorem getD_modify_cases {α : Type} (l : List α) (n m : Nat) (f : α → α) (a : α) :
    ((l.modify n f)[m]?).getD a = (l[m]?).getD a ∨
      ((l.modify n f)[m]?).getD a = f ((l[m]?).getD a) := by
  rw [List.getElem?_modify]
  cases l[m]? with
  | none => exact .inl rfl
  | some found =>
    by_cases h : n = m
    · exact .inr (if_pos h)
    · exact .inl (if_neg h)

/-- A change of supervisors reaches one of them or none. -/
theorem supervisor_changeSupervisor_cases (w : World) (s s' : SupervisorId)
    (f : Supervisor → Supervisor) :
    (w.changeSupervisor s f).supervisor s' = w.supervisor s' ∨
      (w.changeSupervisor s f).supervisor s' = f (w.supervisor s') :=
  getD_modify_cases w.supervisors s s' f default

/-- A change of informers reaches one of them or none. -/
theorem informer_changeInformer_cases (w : World) (i i' : InformerId) (f : Informer → Informer) :
    (w.changeInformer i f).informer i' = w.informer i' ∨
      (w.changeInformer i f).informer i' = f (w.informer i') :=
  getD_modify_cases w.informers i i' f default

/-- A change of connections reaches one of them or none. -/
theorem connection_changeConnection_cases (w : World) (k k' : ConnectionId)
    (f : Connection → Connection) :
    (w.changeConnection k f).connection k' = w.connection k' ∨
      (w.changeConnection k f).connection k' = f (w.connection k') :=
  getD_modify_cases w.connections k k' f default

@[simp] theorem length_changeSupervisor (w : World) (s : SupervisorId)
    (f : Supervisor → Supervisor) :
    (w.changeSupervisor s f).supervisors.length = w.supervisors.length := List.length_modify ..

/-- A new stream is found under the number it got. -/
theorem stream_added (w : World) (stream : Stream) :
    ({ w with streams := w.streams ++ [stream] } : World).stream w.streams.length = stream := by
  rw [World.stream, List.getElem?_concat_length]
  rfl

section Parts

variable {α β : Type}

/-- A part of an entry that the change of entries does not reach stays as it is. -/
theorem part_getD_modify (part : α → β) {f : α → α} (hf : ∀ x, part (f x) = part x) (l : List α)
    (n m : Nat) (a : α) : part (((l.modify n f)[m]?).getD a) = part ((l[m]?).getD a) := by
  rcases getD_modify_cases l n m f a with h | h
  · exact congrArg part h
  · exact (congrArg part h).trans (hf _)

theorem part_changeStream (part : Stream → β) (w : World) (s s' : StreamId) {f : Stream → Stream}
    (hf : ∀ stream, part (f stream) = part stream) :
    part ((w.changeStream s f).stream s') = part (w.stream s') :=
  part_getD_modify part hf w.streams s s' default

/-- What a change of an informer keeps is kept of all informers. -/
theorem part_changeInformer (part : Informer → β) (w : World) (i i' : InformerId)
    {f : Informer → Informer} (hf : ∀ it, part (f it) = part it) :
    part ((w.changeInformer i f).informer i') = part (w.informer i') :=
  part_getD_modify part hf w.informers i i' default

theorem part_changeSupervisor (part : Supervisor → β) (w : World) (s s' : SupervisorId)
    {f : Supervisor → Supervisor} (hf : ∀ supervisor, part (f supervisor) = part supervisor) :
    part ((w.changeSupervisor s f).supervisor s') = part (w.supervisor s') :=
  part_getD_modify part hf w.supervisors s s' default

theorem part_changeConnection (part : Connection → β) (w : World) (k k' : ConnectionId)
    {f : Connection → Connection} (hf : ∀ connection, part (f connection) = part connection) :
    part ((w.changeConnection k f).connection k') = part (w.connection k') :=
  part_getD_modify part hf w.connections k k' default

end Parts

/-- Disarming needs no cursor to be there. -/
theorem cursor_clear (w : World) (c : CursorId) :
    (w.changeCursor c Cursor.clear).cursor c = (w.cursor c).clear := by
  by_cases h : c < w.cursors.length
  · exact cursor_changeCursor h Cursor.clear
  · -- what is not there reads as a default, which is clear already
    have hnone : w.cursors[c]? = none := List.getElem?_eq_none (Nat.le_of_not_lt h)
    show ((w.cursors.modify c Cursor.clear)[c]?).getD default = (w.cursors[c]?.getD default).clear
    rw [List.getElem?_modify_eq, hnone]
    rfl

end World

/-- What is changed at one place looks changed there, if the change is one of what is looked at. -/
theorem map_modify_through {α β : Type} {look : α → β} {f : α → α} {g : β → β}
    (h : ∀ x, look (f x) = g (look x)) (l : List α) (n : Nat) :
    (l.modify n f).map look = (l.map look).modify n g := by
  refine List.ext_getElem? fun m => ?_
  rw [List.getElem?_map, List.getElem?_modify, List.getElem?_modify, List.getElem?_map]
  cases l[m]? with
  | none => rfl
  | some x =>
    -- at every other place nothing is changed on either side
    by_cases hn : n = m
    · simp [hn, h]
    · simp [hn]

/-! ### Confined changes -/

/-- Changes that issue no request, touch neither streams nor connections nor the server, and leave
one cursor as `k`. -/
structure Confined (c : CursorId) (w : World) (k : Cursor) (changes : List (World × World))
    (t : World) : Prop where
  noRequest : World.requestsOf changes = []
  length : t.cursors.length = w.cursors.length
  cursor : t.cursor c = k
  streams : t.streams = w.streams
  connections : t.connections = w.connections
  server : t.server = w.server

namespace Confined

variable {c : CursorId} {w t u : World} {k k' : Cursor} {first second : List (World × World)}

theorem refl (c : CursorId) (w : World) : Confined c w (w.cursor c) [] w :=
  ⟨rfl, rfl, rfl, rfl, rfl, rfl⟩

theorem trans (h₁ : Confined c w k first t) (h₂ : Confined c t k' second u) :
    Confined c w k' (first ++ second) u where
  noRequest := by rw [World.requestsOf_append, h₁.noRequest, h₂.noRequest, List.append_nil]
  length := h₂.length.trans h₁.length
  cursor := h₂.cursor
  streams := h₂.streams.trans h₁.streams
  connections := h₂.connections.trans h₁.connections
  server := h₂.server.trans h₁.server

theorem log (c : CursorId) (w : World) (level : Log.Level) (component event : String)
    (fields : List (String × Json)) :
    Confined c w (w.cursor c) [(w, w.log level component event fields 0)]
      (w.log level component event fields 0) where
  noRequest :=
    World.requestsOf_singleton_of_none (World.asked?_log w level component event fields 0)
  length := by rw [World.log_cursors]
  cursor := World.cursor_of_cursors (World.log_cursors w level component event fields 0) c
  streams := World.log_streams w level component event fields 0
  connections := World.log_connections w level component event fields 0
  server := World.log_server w level component event fields 0

theorem metrics (c : CursorId) (w : World) (f : Metrics → Metrics) :
    Confined c w (w.cursor c) [(w, w.changeMetrics f)] (w.changeMetrics f) where
  noRequest := World.requestsOf_singleton_of_none (World.asked?_of_journal rfl)
  length := rfl
  cursor := rfl
  streams := rfl
  connections := rfl
  server := rfl

theorem clear (c : CursorId) (w : World) :
    Confined c w (w.cursor c).clear [(w, w.changeCursor c Cursor.clear)]
      (w.changeCursor c Cursor.clear) where
  noRequest := World.requestsOf_singleton_of_none (World.asked?_of_journal rfl)
  length := List.length_modify ..
  cursor := World.cursor_clear w c
  streams := rfl
  connections := rfl
  server := rfl

theorem changeCursor (hc : c < w.cursors.length) (f : Cursor → Cursor) :
    Confined c w (f (w.cursor c)) [(w, w.changeCursor c f)] (w.changeCursor c f) where
  noRequest := World.requestsOf_singleton_of_none (World.asked?_of_journal rfl)
  length := List.length_modify ..
  cursor := World.cursor_changeCursor hc f
  streams := rfl
  connections := rfl
  server := rfl

theorem changeInformer (c : CursorId) (w : World) (i : InformerId) (f : Informer → Informer) :
    Confined c w (w.cursor c) [(w, w.changeInformer i f)] (w.changeInformer i f) where
  noRequest := World.requestsOf_singleton_of_none (World.asked?_of_journal rfl)
  length := rfl
  cursor := rfl
  streams := rfl
  connections := rfl
  server := rfl

end Confined

/-! ### Tolerance -/

/-- The same informer, but for its phase, its query and what was counted. -/
structure Informer.Alike (it it' : Informer) : Prop where
  cursor : it'.cursor = it.cursor
  transport : it'.transport = it.transport
  observed : it'.observed = it.observed

/-- The same informer, but for its phase and what was counted. -/
structure Informer.Same (it it' : Informer) : Prop extends it.Alike it' where
  query : it'.query = it.query

/-- A relation that tolerates log lines. -/
structure TolerantOfLogs (P : World → World → Prop) : Prop where
  log : ∀ w level component event fields lines, P w (w.log level component event fields lines)

/-- Whether this is part of the exchange with the server: a request, or that a response was closed. -/
def Happening.isExchange : Happening → Bool
  | .request .. => true
  | .close => true
  | _ => false

/-- A relation that tolerates log lines, and all entries that are not about the exchange with the
server. -/
structure TolerantOfEntries (P : World → World → Prop) : Prop extends TolerantOfLogs P where
  record : ∀ w what, what.isExchange = false → P w (w.record what)

/-- The same connection, but that its frames may have ended. -/
structure Connection.Alike (x x' : Connection) : Prop where
  pending : x'.pending = x.pending
  closed : x'.closed = x.closed

/-- A relation that tolerates log lines, that an open connection is closed, and changes of
connections of which nothing is read and which stay open or closed: all that is done to close a
connection. -/
structure TolerantOfClosing (P : World → World → Prop) : Prop extends TolerantOfLogs P where
  closed : ∀ w c, (w.connection c).closed = false → P w (w.markClosed c)
  connection : ∀ w c f, (∀ x : Connection, x.Alike (f x)) → P w (w.changeConnection c f)

/-- A relation that also tolerates that objects are handed to the API client. -/
structure TolerantOfDecoding (P : World → World → Prop) : Prop extends TolerantOfClosing P where
  handedOver : ∀ w text model, P w (w.record (.deserialize text model))

/-- A relation that tolerates all that is done to read from a connection and to close it. -/
structure TolerantOfConnections (P : World → World → Prop) : Prop extends TolerantOfDecoding P where
  keep : ∀ w c pending,
    P w (w.changeConnection c fun connection => { connection with pending })

/-- A relation that tolerates watch requests, and the connections that they open. -/
structure TolerantOfRequests (P : World → World → Prop) : Prop extends TolerantOfClosing P where
  server : ∀ w server, P w { w with server }
  request : ∀ w operation arguments, P w (w.record (.request operation arguments))
  opened : ∀ w connection, connection.closed = false →
    P w { w with connections := w.connections ++ [connection] }

/-- A relation that tolerates all that is done to close a connection, and changes of informers that
stay as they are in what matters. -/
structure Tolerant (P : World → World → Prop) : Prop extends TolerantOfClosing P where
  informer : ∀ w i f, (∀ it : Informer, it.Same (f it)) → P w (w.changeInformer i f)

/-- The same stream, but for how far it has been read. -/
structure Stream.Alike (x x' : Stream) : Prop where
  connection : x'.connection = x.connection
  cursor : x'.cursor = x.cursor
  owner : x'.owner = x.owner

/-- A tolerant relation that tolerates changes of streams as well. -/
structure TolerantOfStreams (P : World → World → Prop) : Prop extends Tolerant P where
  stream : ∀ w s f, (∀ x : Stream, x.Alike (f x)) → P w (w.changeStream s f)

/-- A tolerant relation that tolerates new connections and new streams as well. -/
structure TolerantOfOpening (P : World → World → Prop) : Prop extends TolerantOfStreams P where
  opened : ∀ w connection, connection.closed = false →
    P w { w with connections := w.connections ++ [connection] }
  added : ∀ w stream, P w { w with streams := w.streams ++ [stream] }

/-- A tolerant relation that tolerates that a cursor goes back to the origin and is disarmed, and that
this is counted. -/
structure TolerantOfRewinding (P : World → World → Prop) : Prop extends Tolerant P where
  metrics : ∀ w f, P w (w.changeMetrics f)
  reset : ∀ w c, P w (w.changeCursor c Cursor.reset)
  clear : ∀ w c, P w (w.changeCursor c Cursor.clear)

/-- A tolerant relation that tolerates all that a poll does. -/
structure TolerantOfAsking (P : World → World → Prop) : Prop
    extends TolerantOfRewinding P, TolerantOfOpening P where
  server : ∀ w server, P w { w with server }
  request : ∀ w operation arguments, P w (w.record (.request operation arguments))

/-- Whoever tolerates a poll tolerates its request. -/
theorem TolerantOfAsking.requests {P : World → World → Prop} (h : TolerantOfAsking P) :
    TolerantOfRequests P where
  toTolerantOfClosing := h.toTolerantOfClosing
  server := h.server
  request := h.request
  opened := h.opened

/-- A tolerant relation that tolerates all that is done to read from a stream. -/
structure TolerantOfReading (P : World → World → Prop) : Prop
    extends TolerantOfStreams P, TolerantOfConnections P where
  metrics : ∀ w f, P w (w.changeMetrics f)
  cursor : ∀ w c f, P w (w.changeCursor c f)
  observed : ∀ w i item,
    P w (w.changeInformer i fun it => { it with observed := item :: it.observed })

/-- Reading may do anything to a cursor, and rewinding is a part of that. -/
theorem TolerantOfReading.rewinding {P : World → World → Prop} (h : TolerantOfReading P) :
    TolerantOfRewinding P where
  toTolerant := h.toTolerant
  metrics := h.metrics
  reset w c := h.cursor w c _
  clear w c := h.cursor w c _

/-- A tolerant relation that tolerates that items are read and given to a handler. -/
structure TolerantOfHanding (P : World → World → Prop) : Prop extends TolerantOfReading P where
  handed : ∀ w s item,
    P w (w.changeSupervisor s fun supervisor =>
      { supervisor with handed := item :: supervisor.handed })

/-- A tolerant relation that tolerates all that a poll loop does, but for what its handler does. -/
structure TolerantOfPolling (P : World → World → Prop) : Prop
    extends TolerantOfHanding P, TolerantOfAsking P

/-- A change that leaves all cursors alone and issues no request. -/
def Still (before after : World) : Prop :=
  after.cursors = before.cursors ∧ World.asked? before after = none

/-- Nothing that opens, reads or closes moves a cursor, but for what is read. -/
theorem still_opening : TolerantOfOpening Still where
  log w level component event fields lines :=
    ⟨World.log_cursors w level component event fields lines,
      World.asked?_log w level component event fields lines⟩
  closed _ _ _ := ⟨rfl, World.asked?_of_entry rfl nofun⟩
  connection _ _ _ _ := ⟨rfl, World.asked?_of_journal rfl⟩
  opened _ _ _ := ⟨rfl, World.asked?_of_journal rfl⟩
  informer _ _ _ _ := ⟨rfl, World.asked?_of_journal rfl⟩
  stream _ _ _ _ := ⟨rfl, World.asked?_of_journal rfl⟩
  added _ _ := ⟨rfl, World.asked?_of_journal rfl⟩

/-- Nor does what is done to a stream alone. -/
theorem still_tolerant : TolerantOfStreams Still := still_opening.toTolerantOfStreams

/-- Nor does reading from a connection, as long as it is not observed. -/
theorem still_reads : TolerantOfConnections Still where
  toTolerantOfClosing := still_opening.toTolerantOfClosing
  keep _ _ _ := ⟨rfl, World.asked?_of_journal rfl⟩
  handedOver _ _ _ := ⟨rfl, World.asked?_of_entry rfl nofun⟩

end ResumableWatch
