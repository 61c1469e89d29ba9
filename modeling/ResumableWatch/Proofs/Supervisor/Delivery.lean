import ResumableWatch.Proofs.Informer.History
import ResumableWatch.Proofs.Stream.Stepwise
import ResumableWatch.Proofs.Supervisor.Heeding
/-!
# The cursor does not run ahead

A supervisor hands on what was observed for its informer: all of it, in order, and each item once
(`handed_eq_observed`).

An item is observed and handed on in the same turn, unless the supervisor has been stopped before
the turn began.  It cannot have been: whoever waits for an item while the supervisor is stopped comes
to none (`Supervised.nextItem_heeds`).

So the version of the cursor is accounted for by items that were handed on, back to the last point at
which it was the one of the start, was set by somebody else, or went back to the origin
(`Supervised.Accounts`).
-/

namespace ResumableWatch

open ResumableWatch.Fiber

namespace Supervised

variable {S : Supervised} {α : Type} {m : Act α} {start : String} {w₀ w w' : World}
  {s : StreamId} {mine : Option StreamId}

/-! ### What accounts for a version -/

/-- The version is accounted for by items, the newest one first: a version that came from elsewhere,
with the versions of the latest items merged into it. -/
def Accounts (S : Supervised) (start : String) (items : List Item) (version : String) : Prop :=
  ∃ base recent older, (base = start ∨ base = Version.origin ∨ S.Foreign base) ∧
    items = recent ++ older ∧
    (recent.reverse.filterMap Item.version?).foldlM Version.merge base = .ok version

/-- A version that comes from elsewhere needs no items. -/
theorem Accounts.of_base {items : List Item} {version : String}
    (h : version = start ∨ version = Version.origin ∨ S.Foreign version) :
    S.Accounts start items version := ⟨version, [], items, h, rfl, rfl⟩

/-- One more item is observed. -/
theorem Accounts.observe {items : List Item} {item : Item} {k k' : Cursor}
    (h : S.Accounts start items k.version) (heffect : item.effect k = .ok k') :
    S.Accounts start (item :: items) k'.version := by
  obtain ⟨base, recent, older, hbase, rfl, hmerged⟩ := h
  refine ⟨base, item :: recent, older, hbase, rfl, ?_⟩
  rw [List.reverse_cons, List.filterMap_append, List.foldlM_append, hmerged]
  rcases Item.cases_of_effect heffect with ⟨hnone, rfl⟩ | ⟨incoming, hsome, -, hmerge⟩
  · rw [List.filterMap_cons_none hnone]
    split <;> rfl
  · rw [List.filterMap_cons_some hsome]
    show [incoming].foldlM Version.merge k.version = _
    rw [List.foldlM_cons, (Cursor.merge_eq hmerge).1]
    rfl

/-! ### What is kept -/

/-- The stream is read for the informer, with its cursor. -/
structure Owns (S : Supervised) (s : StreamId) (w : World) : Prop where
  there : s < w.streams.length
  owner : (w.stream s).owner = some S.informer
  cursor : (w.stream s).cursor = S.cursor

theorem Owns.of_streams {s : StreamId} (h : S.Owns s w) (hstreams : w'.streams = w.streams) :
    S.Owns s w' := by
  have hsame : w'.stream s = w.stream s := by rw [World.stream, World.stream, hstreams]
  refine ⟨?_, ?_, ?_⟩
  · rw [hstreams]
    exact h.there
  · rw [hsame]
    exact h.owner
  · rw [hsame]
    exact h.cursor

/-- The supervisor polls its informer, with its cursor. -/
structure Attached (S : Supervised) (w : World) : Prop where
  supervised : S.supervisor < w.supervisors.length
  served : (w.supervisor S.supervisor).informer = S.informer
  there : S.informer < w.informers.length
  cursor : (w.informer S.informer).cursor = S.cursor
  cursorThere : S.cursor < w.cursors.length

/-- What was observed was handed on, but for what is `pending`, and accounts for the version. -/
structure Delivered (S : Supervised) (start : String) (pending : List Item)
    (mine : Option StreamId) (w : World) : Prop where
  attached : S.Attached w
  handed : (w.informer S.informer).observed = pending ++ (w.supervisor S.supervisor).handed
  accounted : S.Accounts start (w.informer S.informer).observed (w.cursor S.cursor).version
  owns : ∀ s ∈ mine, S.Owns s w

/-- A change by which nothing is entered as observed or handed on. -/
structure Unnoted (S : Supervised) (w w' : World) : Prop where
  supervisors : w'.supervisors = w.supervisors
  informers : w'.informers.length = w.informers.length
  informer : (w.informer S.informer).Alike (w'.informer S.informer)
  cursors : w'.cursors.length = w.cursors.length
  streams : ∀ s, S.Owns s w → S.Owns s w'

/-- Such a change that leaves the version as it is, or takes it back to the origin. -/
structure Uneventful (S : Supervised) (w w' : World) : Prop extends S.Unnoted w w' where
  version : (w'.cursor S.cursor).version = (w.cursor S.cursor).version ∨
    (w'.cursor S.cursor).version = Version.origin

theorem Unnoted.refl (w : World) : S.Unnoted w w :=
  ⟨rfl, rfl, ⟨rfl, rfl, rfl⟩, rfl, fun _ h => h⟩

theorem Unnoted.trans {w'' : World} (h₁ : S.Unnoted w w') (h₂ : S.Unnoted w' w'') :
    S.Unnoted w w'' where
  supervisors := h₂.supervisors.trans h₁.supervisors
  informers := h₂.informers.trans h₁.informers
  informer := ⟨h₂.informer.cursor.trans h₁.informer.cursor,
    h₂.informer.transport.trans h₁.informer.transport,
    h₂.informer.observed.trans h₁.informer.observed⟩
  cursors := h₂.cursors.trans h₁.cursors
  streams s h := h₂.streams s (h₁.streams s h)

theorem Uneventful.of_parts (hsupervisors : w'.supervisors = w.supervisors)
    (hinformers : w'.informers = w.informers) (hcursors : w'.cursors = w.cursors)
    (hstreams : w'.streams = w.streams) : S.Uneventful w w' where
  supervisors := hsupervisors
  informers := by rw [hinformers]
  informer := by
    rw [World.informer, World.informer, hinformers]
    exact ⟨rfl, rfl, rfl⟩
  cursors := by rw [hcursors]
  version := .inl (by rw [World.cursor, World.cursor, hcursors])
  streams _ h := h.of_streams hstreams

theorem Uneventful.changeInformer (w : World) (i : InformerId) {f : Informer → Informer}
    (hf : ∀ it : Informer, it.Alike (f it)) : S.Uneventful w (w.changeInformer i f) where
  supervisors := rfl
  informers := List.length_modify ..
  informer := by
    rcases World.informer_changeInformer_cases w i S.informer f with heq | heq
    · rw [heq]
      exact ⟨rfl, rfl, rfl⟩
    · rw [heq]
      exact hf _
  cursors := rfl
  version := .inl rfl
  streams _ h := ⟨h.there, h.owner, h.cursor⟩

theorem Unnoted.changeCursor (w : World) (c : CursorId) (f : Cursor → Cursor) :
    S.Unnoted w (w.changeCursor c f) :=
  ⟨rfl, rfl, ⟨rfl, rfl, rfl⟩, List.length_modify .., fun _ h => ⟨h.there, h.owner, h.cursor⟩⟩

theorem Uneventful.changeCursor (w : World) (c : CursorId) {f : Cursor → Cursor}
    (hf : ∀ k : Cursor, (f k).version = k.version ∨ (f k).version = Version.origin) :
    S.Uneventful w (w.changeCursor c f) where
  toUnnoted := .changeCursor w c f
  version := by
    rcases World.getD_modify_cases w.cursors c S.cursor f default with heq | heq
    · exact .inl (congrArg Cursor.version heq)
    · rw [World.cursor, World.changeCursor, heq]
      exact hf _

/-- Nothing is observed by a poll. -/
theorem uneventful_asking : TolerantOfAsking S.Uneventful where
  log w level component event fields lines :=
    .of_parts (World.log_supervisors w level component event fields lines)
      (World.log_informers w level component event fields lines)
      (World.log_cursors w level component event fields lines)
      (World.log_streams w level component event fields lines)
  closed _ _ _ := .of_parts rfl rfl rfl rfl
  metrics _ _ := .of_parts rfl rfl rfl rfl
  connection _ _ _ _ := .of_parts rfl rfl rfl rfl
  informer w i f hf := .changeInformer w i fun it => (hf it).toAlike
  stream w s f hf := by
    refine ⟨⟨rfl, rfl, ⟨rfl, rfl, rfl⟩, rfl, fun s' h => ?_⟩, .inl rfl⟩
    have hthere : s' < (w.changeStream s f).streams.length := by
      rw [World.changeStream, List.length_modify]
      exact h.there
    exact ⟨hthere,
      (World.part_changeStream Stream.owner w s s' fun x => (hf x).owner).trans h.owner,
      (World.part_changeStream Stream.cursor w s s' fun x => (hf x).cursor).trans h.cursor⟩
  opened _ _ _ := .of_parts rfl rfl rfl rfl
  added w stream := by
    refine ⟨⟨rfl, rfl, ⟨rfl, rfl, rfl⟩, rfl, fun s h => ?_⟩, .inl rfl⟩
    have hsame : ({ w with streams := w.streams ++ [stream] } : World).stream s = w.stream s := by
      rw [World.stream, World.stream, List.getElem?_append_left h.there]
    refine ⟨?_, by rw [hsame, h.owner], by rw [hsame, h.cursor]⟩
    rw [List.length_append]
    exact Nat.lt_of_lt_of_le h.there (Nat.le_add_right _ _)
  reset w c := .changeCursor w c fun _ => .inr rfl
  clear w c := .changeCursor w c fun _ => .inl rfl
  server _ _ := .of_parts rfl rfl rfl rfl
  request _ _ _ := .of_parts rfl rfl rfl rfl

theorem uneventful_reads : TolerantOfConnections S.Uneventful where
  toTolerantOfClosing := uneventful_asking.toTolerantOfClosing
  keep _ _ _ := .of_parts rfl rfl rfl rfl
  handedOver _ _ _ := .of_parts rfl rfl rfl rfl

/-- Nor does the observation of an item enter it. -/
theorem unnoted_observing : Observing S.Unnoted where
  log w level component event fields := (uneventful_asking.log w level component event fields 0).1
  metrics w f := (uneventful_asking.metrics w f).1
  cursor w c f := .changeCursor w c f
  informer w i _ hf := (Uneventful.changeInformer w i fun it => (hf it).2.toAlike).1

namespace Attached

theorem of_unnoted (h : S.Attached w) (hchange : S.Unnoted w w') : S.Attached w' where
  supervised := by
    rw [hchange.supervisors]
    exact h.supervised
  served := by
    rw [World.supervisor, hchange.supervisors]
    exact h.served
  there := by
    rw [hchange.informers]
    exact h.there
  cursor := hchange.informer.cursor.trans h.cursor
  cursorThere := by
    rw [hchange.cursors]
    exact h.cursorThere

theorem of_same (h : S.Attached w) (hsame : S.Same w w') : S.Attached w' where
  supervised := Nat.lt_of_lt_of_le h.supervised hsame.supervisors
  served := hsame.served.trans h.served
  there := Nat.lt_of_lt_of_le h.there hsame.informers
  cursor := hsame.informer.cursor.trans h.cursor
  cursorThere := Nat.lt_of_lt_of_le h.cursorThere hsame.cursors

end Attached

namespace Delivered

variable {pending : List Item}

theorem of_unnoted (h : S.Delivered start pending mine w) (hchange : S.Unnoted w w')
    (haccounted : S.Accounts start (w.informer S.informer).observed (w'.cursor S.cursor).version) :
    S.Delivered start pending mine w' where
  attached := h.attached.of_unnoted hchange
  handed := by
    rw [hchange.informer.observed, World.supervisor, hchange.supervisors]
    exact h.handed
  accounted := by
    rw [hchange.informer.observed]
    exact haccounted
  owns s hs := hchange.streams s (h.owns s hs)

theorem of_uneventful (h : S.Delivered start pending mine w) (hchange : S.Uneventful w w') :
    S.Delivered start pending mine w' := by
  refine h.of_unnoted hchange.toUnnoted ?_
  rcases hchange.version with hversion | hversion
  · rw [hversion]
    exact h.accounted
  · exact .of_base (.inr (.inl hversion))

/-- What others do changes nothing, but for a version that they set. -/
theorem of_same (h : S.Delivered start pending mine w) (hsame : S.Same w w') :
    S.Delivered start pending mine w' where
  attached := h.attached.of_same hsame
  handed := by
    rw [hsame.informer.observed, hsame.handed]
    exact h.handed
  accounted := by
    rw [hsame.informer.observed]
    rcases hsame.version with hversion | hversion
    · rw [hversion]
      exact h.accounted
    · exact .of_base (.inr (.inr hversion))
  owns s hs := (h.owns s hs).of_streams hsame.streams

theorem forget (h : S.Delivered start pending mine w) : S.Delivered start pending none w :=
  ⟨h.attached, h.handed, h.accounted, fun _ hs => nomatch hs⟩

/-- An observed item is entered, and is still to be handed on. -/
theorem note {item : Item} (h : S.Delivered start [] mine w) (hchange : S.Unnoted w w')
    (haccounted : S.Accounts start (item :: (w.informer S.informer).observed)
      (w'.cursor S.cursor).version) :
    S.Delivered start [item] mine (w'.changeInformer S.informer fun it =>
      { it with observed := item :: it.observed }) := by
  have hattached := h.attached.of_unnoted hchange
  have hinformer := World.informer_changeInformer hattached.there fun it =>
    { it with observed := item :: it.observed }
  refine ⟨⟨hattached.supervised, hattached.served, ?there, ?cursor, hattached.cursorThere⟩,
    ?handed, ?accounted, fun s hs => ?owns⟩
  case there =>
    rw [World.changeInformer, List.length_modify]
    exact hattached.there
  case cursor =>
    rw [hinformer]
    exact hattached.cursor
  case handed =>
    rw [hinformer]
    show item :: (w'.informer S.informer).observed = item :: (w'.supervisor S.supervisor).handed
    rw [hchange.informer.observed, World.supervisor, hchange.supervisors, h.handed]
    rfl
  case accounted =>
    rw [hinformer]
    show S.Accounts start (item :: (w'.informer S.informer).observed) (w'.cursor S.cursor).version
    rw [hchange.informer.observed]
    exact haccounted
  case owns => exact (hchange.streams s (h.owns s hs)).of_streams rfl

/-- The item that was still to be handed on is given to the handler. -/
theorem hand {item : Item} (h : S.Delivered start [item] mine w) :
    S.Delivered start [] mine (w.changeSupervisor S.supervisor fun supervisor =>
      { supervisor with handed := item :: supervisor.handed }) := by
  have hsupervisor := World.supervisor_changeSupervisor h.attached.supervised fun supervisor =>
    { supervisor with handed := item :: supervisor.handed }
  refine ⟨⟨?supervised, ?served, h.attached.there, h.attached.cursor, h.attached.cursorThere⟩,
    ?handed, h.accounted, fun s hs => ?owns⟩
  case supervised =>
    rw [World.length_changeSupervisor]
    exact h.attached.supervised
  case served =>
    rw [hsupervisor]
    exact h.attached.served
  case handed =>
    rw [hsupervisor]
    exact h.handed
  case owns => exact (h.owns s hs).of_streams rfl

/-- A stream is opened for the informer, with its cursor. -/
theorem add (h : S.Delivered start [] none w) {stream : Stream}
    (howner : stream.owner = some S.informer) (hcursor : stream.cursor = S.cursor) :
    S.Delivered start [] (some w.streams.length) { w with streams := w.streams ++ [stream] } := by
  refine ⟨⟨h.attached.supervised, h.attached.served, h.attached.there, h.attached.cursor,
    h.attached.cursorThere⟩, h.handed, h.accounted, ?_⟩
  rintro s ⟨⟩
  have hadded := w.stream_added stream
  refine ⟨?_, ?_, ?_⟩
  · rw [List.length_append]
    exact Nat.lt_succ_self _
  · rw [hadded, howner]
  · rw [hadded, hcursor]

end Delivered

/-- The poll loop sees to it that, wherever it waits, all that was observed was handed on. -/
def delivering (S : Supervised) (start : String) : Duty S where
  Tended := S.Delivered start [] none
  Settled _ := True
  Asks _ := True
  tended hsame h := h.of_same hsame
  settled _ _ := trivial

/-- What a read of a stream comes to: an item that is observed and is still to be handed on, while
the supervisor runs, or none. -/
inductive ReadOff (S : Supervised) (start : String) (s : StreamId) :
    Except Failure (Option Item) → World → Prop
  | item {item : Item} {w : World} :
    S.Runs w → S.Delivered start [item] (some s) w → ReadOff S start s (.ok (some item)) w
  | ended {w : World} : S.Delivered start [] (some s) w → ReadOff S start s (.ok none) w
  | failed {failure : Failure} {w : World} :
    S.Delivered start [] (some s) w → ReadOff S start s (.error failure) w

theorem ReadOff.of_uneventful {r : Except Failure (Option Item)} (h : S.ReadOff start s r w)
    (hchange : S.Uneventful w w') : S.ReadOff start s r w' := by
  cases h with
  | item hruns h =>
    exact .item (RunsOn.of_supervisors hchange.supervisors hruns) (h.of_uneventful hchange)
  | ended h => exact .ended (h.of_uneventful hchange)
  | failed h => exact .failed (h.of_uneventful hchange)

/-- Whoever heeds a stop may do so while he sees to a duty. -/
theorem Heeds.tending {d : Duty S} (hm : S.Heeds m) {post : World → Except Failure α → World → Prop}
    (h : m.Meets d.tending post w₀ w) (hruns : S.Runs w) :
    m.Meets d.tending (fun w₀ r w => post w₀ r w ∧ (S.Runs w ∨ BrokenOff r)) w₀ w :=
  h.alongside (hm w₀ w hruns) fun _ _ _ _ _ _ hresume => ⟨trivial, trivial, hresume.2.2⟩

/-! ### Reading -/

/-- Wherever nothing is observed, all remains handed on. -/
theorem delivered_of_steady (hm : Steady S.Uneventful (fun _ => True) m)
    (h : S.Delivered start [] mine w) :
    m.Meets (S.delivering start).tending (fun _ _ w => S.Delivered start [] mine w) w₀ w :=
  Duty.tending_of_steady hm (S.Delivered start [] mine)
    (fun _ _ hw hchange => ⟨fun _ => trivial, hw.of_uneventful hchange⟩)
    (fun _ _ hsame hw => hw.of_same hsame) (fun _ hw => hw.forget) h

/-- An observation accounts for the version that it leaves behind, and enters nothing itself. -/
theorem observe_accounts {stream : Stream} (hcursor : stream.cursor = S.cursor) {items : List Item}
    (hthere : S.cursor < w.cursors.length)
    (haccounts : S.Accounts start items (w.cursor S.cursor).version) (item : Item) :
    (Act.observe stream item).Meets (S.delivering start).tending (byOutcome
      (fun _ _ v => S.Unnoted w v ∧ S.Accounts start (item :: items) (v.cursor S.cursor).version)
      fun _ _ v => S.Unnoted w v ∧ S.Accounts start items (v.cursor S.cursor).version) w₀ w := by
  have hunnoted : (Act.observe stream item).Meets {} (fun _ _ v => S.Unnoted w v) w₀ w :=
    (Act.observe_steady unnoted_observing stream item).meets_at_once (S.Unnoted w)
      (fun _ _ hv hchange => ⟨trivial, hv.trans hchange⟩) (fun _ _ hv => hv) (.refl w)
  -- where it goes is known exactly, so both the version and what is left alone are read off the end
  obtain ⟨changes, t, hgoes, hconfined⟩ := Act.observe_goes (hcursor ▸ hthere) item
  have hversion := hconfined.cursor
  rw [hcursor] at hgoes hversion
  rw [hgoes.meets_iff, meets_ofExcept] at hunnoted ⊢
  refine ⟨fun _ _ _ => trivial, ?_⟩
  cases heffect : item.effect (w.cursor S.cursor) with
  | error failure =>
    rw [heffect] at hversion
    refine ⟨hunnoted.2, ?_⟩
    rw [hversion]
    exact haccounts
  | ok k =>
    rw [heffect] at hversion
    refine ⟨hunnoted.2, ?_⟩
    rw [hversion]
    exact haccounts.observe heffect

theorem failObservation_reads (h : S.Delivered start [] (some s) w) (failure : Failure) :
    (Act.failObservation s failure : Act (Option Item)).Meets (S.delivering start).tending
      (fun _ r w => S.ReadOff start s r w) w₀ w := by
  refine (delivered_of_steady ?_ h).before (fun _ _ _ hw => .failed hw) fun _ _ _ hw => .failed hw
  exact Act.endObservation_steady uneventful_asking.toTolerantOfStreams s

/-- An item is observed only while the supervisor runs: if it is stopped during the wait for the
item, there is none. -/
theorem readObserved_reads (h : S.Delivered start [] (some s) w) (hruns : S.Runs w) :
    (Act.readObserved s).Meets (S.delivering start).tending (fun _ r w => S.ReadOff start s r w)
      w₀ w := by
  have howns := h.owns s rfl
  have hnext (w₀ : World) : (Act.nextItem (w.stream s).connection).Meets
      (S.delivering start).tending (fun _ _ w => S.Delivered start [] (some s) w) w₀ w :=
    delivered_of_steady (Act.nextItem_steady uneventful_reads (fun _ => trivial) _) h
  rw [Act.meets_readObserved]
  -- a stop during the wait for the item breaks the wait off, so with an item nobody has stopped it
  refine ((nextItem_heeds _).tending (hnext _) hruns).mono fun w₀ r v hread => ?_
  obtain ⟨hv, hheeded⟩ := hread
  rcases r with failure | _ | item
  · exact failObservation_reads hv failure
  · exact (delivered_of_steady (Act.endObservation_steady uneventful_asking.toTolerantOfStreams s)
      hv).before (fun _ _ _ hv => .ended hv) fun _ _ _ hv => .failed hv
  · have hruns' : S.Runs v := hheeded.resolve_right (BrokenOff.not_ok _)
    refine (observe_accounts howns.cursor hv.attached.cursorThere hv.accounted item).mono
      fun w₀ r u hobserved => ?_
    cases r with
    | error failure =>
      exact failObservation_reads (hv.of_unnoted hobserved.1 hobserved.2) failure
    | ok _ =>
      dsimp only
      rw [howns.owner]
      refine ⟨fun _ => trivial, .item ?_ (hv.note hobserved.1 hobserved.2)⟩
      exact RunsOn.of_supervisors hobserved.1.supervisors hruns'

theorem nextObserved_reads (h : S.Delivered start [] (some s) w) (hruns : S.Runs w) :
    (Act.nextObserved s).Meets (S.delivering start).tending (fun _ r w => S.ReadOff start s r w)
      w₀ w := by
  cases hbusy : (w.stream s).busy with
  | true =>
    rw [Act.meets_nextObserved_of_busy hbusy]
    exact .failed h
  | false =>
    by_cases hover : (w.stream s).progress = .over
    · rw [Act.meets_nextObserved_of_over hbusy hover]
      exact .ended h
    · rw [Act.meets_nextObserved hbusy hover]
      have hopened := h.of_uneventful (uneventful_asking.stream w s
        (fun stream => { stream with progress := .open }) fun _ => ⟨rfl, rfl, rfl⟩)
      have hreading := hopened.of_uneventful (uneventful_asking.stream _ s
        (fun stream => { stream with busy := true }) fun _ => ⟨rfl, rfl, rfl⟩)
      refine ⟨fun _ => trivial, fun _ => trivial,
        (readObserved_reads hreading hruns).mono fun w₀ r v hread => ⟨fun _ => trivial, ?_⟩⟩
      exact hread.of_uneventful (uneventful_asking.stream v s _ fun _ => ⟨rfl, rfl, rfl⟩)

theorem closeStream_delivers (h : S.Delivered start [] (some s) w) :
    (Act.closeStream s).Meets (S.delivering start).tending
      (fun _ _ w => S.Delivered start [] (some s) w) w₀ w :=
  delivered_of_steady (Act.closeStream_steady uneventful_asking.toTolerantOfStreams s) h

theorem nextOfStream_reads (h : S.Delivered start [] (some s) w) (hruns : S.Runs w) :
    (Act.nextOfStream s).Meets (S.delivering start).tending (fun _ r w => S.ReadOff start s r w)
      w₀ w := by
  rw [Act.meets_nextOfStream]
  refine (nextObserved_reads h hruns).mono fun w₀ r w hread => ?_
  cases hread with
  | item hruns h => exact .item hruns h
  | ended h =>
    exact (closeStream_delivers h).before (fun _ _ _ hw => .ended hw) fun _ _ _ hw => .failed hw
  | failed h => exact .failed h

/-! ### A round -/

section Round

variable {handler : Item → Act Unit}

/-- A handler that heeds a stop is given an item; if it ends without a failure, or its failure is
logged, the supervisor runs still. -/
theorem dispatch_delivers (hhandler : ∀ item, S.Courteous (handler item))
    (hheeds : ∀ item, S.Heeds (handler item)) {item : Item} (h : S.Delivered start [item] mine w)
    (hruns : S.Runs w) :
    (Act.dispatch handler S.supervisor item).Meets (S.delivering start).tending
      (fun _ r w => S.Delivered start [] mine w ∧ (r = .ok () → S.Runs w)) w₀ w := by
  have hruns' : S.Runs (w.changeSupervisor S.supervisor fun supervisor =>
      { supervisor with handed := item :: supervisor.handed }) :=
    runsOn_polling.handed w S.supervisor item hruns
  have hgiven (w₀ : World) : (handler item).Meets (S.delivering start).tending
      (fun _ _ w => S.Delivered start [] mine w) w₀ (w.changeSupervisor S.supervisor
        fun supervisor => { supervisor with handed := item :: supervisor.handed }) :=
    Duty.tending_of_courteous (hhandler item) (S.Delivered start [] mine)
      (fun _ _ hsame hw => hw.of_same hsame) (fun _ hw => hw.forget) h.hand
  rw [Act.dispatch, Act.noteHanded, meets_bind, meets_update, byOutcome_ok, meets_recover]
  -- The item is noted as handed on before its handler is called, so it counts even if that fails.
  refine ⟨fun _ => trivial, ((hheeds item).tending (hgiven _) hruns').mono fun w₀ r v hend => ?_⟩
  obtain ⟨hv, hheeded⟩ := hend
  cases r with
  | ok _ => exact ⟨hv, fun _ => hheeded.resolve_right (BrokenOff.not_ok _)⟩
  | error failure =>
    show (Act.answerHandler S.supervisor failure).Meets _ _ w₀ v
    cases hordinary : failure.isOrdinary with
    | false =>
      rw [Act.answerHandler, hordinary]
      exact ⟨hv, by rintro ⟨⟩⟩
    | true =>
      -- An ordinary failure is not that of a stop, so the supervisor was not told to end.
      have hruns' : S.Runs v := by
        refine hheeded.resolve_right fun hbroken => ?_
        rw [hbroken.not_ordinary] at hordinary
        cases hordinary
      rw [Act.answerHandler, hordinary]
      exact ⟨fun _ => trivial, hv.of_uneventful (uneventful_asking.log _ _ _ _ _ _),
        fun _ => runsOn_polling.log _ _ _ _ _ _ hruns'⟩

/-- The items of a stream are handed on as they are observed. -/
theorem consume_delivers (hhandler : ∀ item, S.Courteous (handler item))
    (hheeds : ∀ item, S.Heeds (handler item)) {bound : Nat} (h : S.Delivered start [] (some s) w)
    (hruns : S.Runs w) :
    (Act.consume handler S.supervisor s bound).Meets (S.delivering start).tending
      (fun _ _ w => S.Delivered start [] (some s) w) w₀ w := by
  -- between two items nothing is pending, which is what a round begins with
  induction bound generalizing w₀ w with
  | zero => exact h
  | succ bound ih =>
    rw [Act.consume, meets_bind]
    refine (nextOfStream_reads h hruns).mono fun w₀ r w hread => ?_
    cases hread with
    | failed h => exact h
    | ended h => exact h
    | item hruns h =>
      rw [byOutcome_ok]
      dsimp only
      -- it is here that a stop between two items would lose one
      have hrunning : (w.supervisor S.supervisor).running = true := hruns
      rw [Act.supervisor, meets_bind, meets_gets, byOutcome_ok, if_pos hrunning, meets_bind]
      refine (dispatch_delivers hhandler hheeds h hruns).mono fun w₀ r w hdone => ?_
      cases r with
      | error failure => exact hdone.1
      | ok _ => exact ih hdone.1 (hdone.2 rfl)

/-- A poll opens a stream that is read for the informer, or none. -/
theorem poll_delivers (h : S.Delivered start [] none w) :
    (Act.poll S.informer).Meets (S.delivering start).tending
      (byOutcome (fun _ s w => S.Delivered start [] (some s) w)
        fun _ _ w => S.Delivered start [] none w) w₀ w := by
  rw [Act.poll_eq, meets_bind, Act.informer, meets_gets, byOutcome_ok]
  refine (delivered_of_steady (Act.noteResync_steady uneventful_asking.toTolerant _ _) h).before
    (fun _ w₀ v hv => ?_) fun _ _ _ hv => hv
  refine (delivered_of_steady (Act.resync_steady uneventful_asking.toTolerantOfRewinding
    (fun _ => trivial) _ _ _) hv).before (fun _ w₀ v hv => ?_) fun _ _ _ hv => hv
  rw [Act.ask, meets_bind, Act.cursor, meets_gets, byOutcome_ok]
  refine (delivered_of_steady (Act.log_steady uneventful_asking.toTolerantOfLogs _ _ _ _) hv).before
    (fun _ w₀ v hv => ?_) fun _ _ _ hv => hv
  refine (delivered_of_steady (Steady.update fun w => uneventful_asking.metrics w _) hv).before
    (fun _ w₀ v hv => ?_) fun _ _ _ hv => hv
  refine (delivered_of_steady ((Act.openConnection_steady uneventful_asking.requests (fun _ => trivial) _
    _).recover fun failure => ?_) hv).before (fun k w₀ v hv => ?_) fun _ _ _ hv => hv
  · exact (Act.setPhase_steady uneventful_asking.toTolerant _ _).bind fun _ => Steady.fail failure
  · refine (delivered_of_steady (Act.setPhase_steady uneventful_asking.toTolerant _ _) hv).before
      (fun _ w₀ v hv => ?_) fun _ _ _ hv => hv
    exact ⟨fun _ => trivial, hv.add rfl h.attached.cursor⟩

/-- One poll: whenever it waits, and when it ends, all that was observed was handed on. -/
theorem pollOnce_delivers (hhandler : ∀ item, S.Courteous (handler item))
    (hheeds : ∀ item, S.Heeds (handler item)) (h : S.Delivered start [] none w) (hruns : S.Runs w) :
    (Act.pollOnce handler S.supervisor).Meets (S.delivering start).tending
      (fun _ _ w => S.Delivered start [] none w) w₀ w := by
  rw [Act.meets_pollOnce, h.attached.served]
  refine ((poll_heeds _).tending (poll_delivers h) hruns).mono fun w₀ r v hpolled => ?_
  obtain ⟨hv, hheeded⟩ := hpolled
  cases r with
  | error failure => exact hv
  | ok s =>
    have hruns' : S.Runs v := hheeded.resolve_right (BrokenOff.not_ok s)
    rw [byOutcome_ok, Act.meets_drain]
    refine (consume_delivers hhandler hheeds hv hruns').mono fun w₀ r v hv => ?_
    refine (closeStream_delivers hv).mono fun w₀ r' v hv => ?_
    cases r' with
    | error failure => exact hv.forget
    | ok _ => exact hv.forget

/-- A round of the poll loop sees to it that all that was observed was handed on. -/
theorem pollRound_delivers (hhandler : ∀ item, S.Courteous (handler item))
    (hheeds : ∀ item, S.Heeds (handler item)) :
    (S.delivering start).Tends (Act.pollRound handler S.supervisor) := by
  intro w h _
  suffices hround : (Act.pollRound handler S.supervisor).Meets (S.delivering start).tending
      (fun _ _ w => S.Delivered start [] none w) w w from
    hround.mono fun _ _ _ hw => ⟨hw, trivial⟩
  rw [Act.meets_pollRound]
  split
  · rename_i hruns
    refine (pollOnce_delivers hhandler hheeds h hruns).mono fun w₀ r w hw => ?_
    cases r with
    | ok _ => exact hw
    | error failure =>
      refine delivered_of_steady ?_ hw
      exact Act.answerFailure_steady uneventful_asking.toTolerantOfLogs (fun _ => trivial) _ failure
  · exact h

end Round

end Supervised

/-! ### Runs -/

/-- **The cursor does not run ahead.**  A supervisor polls an informer, with any handler that heeds a
stop and leaves the supervisor and what it works on alone; other tasks start and stop it as often as
they like, at any moment, and no start comes while a stop is under way.  Whatever the requests, the
streams, the observations and the handler come to, in every state of a run:

* the items that were given to the handler are those that were observed for the informer, over all
  polls, in order, and each once;
* items that were given to the handler account for the version of the cursor. -/
theorem handed_eq_observed {S : Supervised} {handler : Item → Act Unit} {work : Work} {w : World}
    (h : S.Serves handler work) (hheeds : ∀ item, S.Heeds (handler item)) (hfirst : S.Outset w)
    (hattached : S.Attached w)
    (hequal : (w.informer S.informer).observed = (w.supervisor S.supervisor).handed) {r : Run}
    (hr : Run.Reaches work { world := w } r) (hturn : S.InTurn r.world) :
    (r.world.supervisor S.supervisor).handed = (r.world.informer S.informer).observed ∧
      S.Accounts (w.cursor S.cursor).version (r.world.supervisor S.supervisor).handed
        (r.world.cursor S.cursor).version := by
  have hdelivered : S.Delivered (w.cursor S.cursor).version [] none w :=
    ⟨hattached, hequal, .of_base (.inl rfl), fun _ hs => nomatch hs⟩
  have hsound := h.sound (Supervised.pollRound_delivers h.handler hheeds) hfirst hdelivered trivial hr
  have hreached : S.Delivered (w.cursor S.cursor).version [] none r.world :=
    (hsound.kept.inv.2 hturn).tended
  refine ⟨hreached.handed.symm, ?_⟩
  have haccounted := hreached.accounted
  rw [hreached.handed] at haccounted
  exact haccounted

/-- An event about an object of that version. -/
def addedAt (version : String) : Item :=
  .event {
    type := .added
    raw := .object [("metadata", .object [("resourceVersion", .text version)])] }

/-- The server sends two items, and a third one two seconds later. -/
def threeItems : World where
  server := {
    script := [{ reply := .stream [.item none (.ok (addedAt "7")), .item none (.ok (addedAt "8")),
      .delay (.ofInt 2), .item none (.ok (addedAt "9"))] none true }] }
  informers := [{ transport := .feed }]
  supervisors := [{ informer := 0, handler := .logging }]

/-- A session has stopped the supervisor after a second, and has ended. -/
def stoppedBeforeThird : Run :=
  Run.go (sessionWork 0 (.ofInt 1)) (fun _ => false) 40
    { world := threeItems.spawn (.session []) none }

/-- Two items were handed on, and account for the version; the third one was not observed. -/
theorem stoppedBeforeThird_hands_two :
    (stoppedBeforeThird.world.supervisor 0).running = false ∧
      (stoppedBeforeThird.world.supervisor 0).handed.length = 2 ∧
      (stoppedBeforeThird.world.supervisor 0).handed
        = (stoppedBeforeThird.world.informer 0).observed ∧
      (inSession 0 0 0).Accounts Version.origin (stoppedBeforeThird.world.supervisor 0).handed
        (stoppedBeforeThird.world.cursor 0).version := by
  have hended : ((!(stoppedBeforeThird.world.supervisor 0).running &&
      (stoppedBeforeThird.world.supervisor 0).handed.length == 2) &&
      !(stoppedBeforeThird.world.supervisor 0).overlapped) = true := by decide +kernel
  simp only [Bool.and_eq_true, Bool.not_eq_true', beq_iff_eq] at hended
  obtain ⟨⟨hstopped, hlength⟩, hturn⟩ := hended
  have hfirst : (inSession 0 0 0).Outset (threeItems.spawn (.session []) none) :=
    inSession_outset (w := threeItems) rfl Nat.one_pos rfl 0 0
  have hheeds (item : Item) : (inSession 0 0 0).Heeds (Act.logItem item) :=
    .of_steady (Act.logItem_steady Supervised.runsOn_polling.toTolerantOfLogs item)
  have hattached : (inSession 0 0 0).Attached (threeItems.spawn (.session []) none) :=
    ⟨Nat.one_pos, rfl, Nat.one_pos, rfl, Nat.one_pos⟩
  have hdone := handed_eq_observed (inSession_serves 0 0 0 (.ofInt 1)) hheeds hfirst hattached rfl
    (Run.Reaches.start.go (fun _ => false) 40) hturn
  exact ⟨hstopped, hlength, hdone⟩

end ResumableWatch
