import Mathlib.Data.List.Infix
import ResumableWatch.Proofs.Informer.Runs
import ResumableWatch.Proofs.Stream.Reading
/-!
# Transparent streams

Consumers read a stream and close it, in any order and from any tasks, and may stop at any point.
`Position` says where they stand: the items that were delivered and the items that the connection
still has make up the items of the connection, until the stream is over.  So nothing is taken from
the connection that is not delivered at once, and `delivered_transparently` follows: what was
delivered is a prefix of the items of the connection, and the cursor stands where these items have
led it, and no others.
-/

namespace ResumableWatch

open ResumableWatch.Fiber Interplay

/-! ### Consumers -/

/-- Consumers of one stream: they read it and close it whenever they like.  Others leave the stream
and its connection alone.  A wait may be struck by a cancellation; failures of the network are
elements of the connection and strike no wait. -/
def consuming (s : StreamId) (k : ConnectionId) (others : World → World → Prop) :
    Setting World Call Outcome where
  act := Call.act
  allowed _ call := call = .next s ∨ call = .close s
  others w t := t.streams[s]? = w.streams[s]? ∧ t.connection k = w.connection k ∧ others w t
  answers answer := ∀ failure, answer = .error failure → failure.interruptsStream = false

/-- The item that a stretch delivers. -/
def Stretch.item? (x : Stretch World Call Outcome) : Option Item :=
  match x.call, x.ending with
  | .next _, .done (.item item) => some item
  | _, _ => none

/-- The items that were delivered, in order. -/
def delivered (past : List (Stretch World Call Outcome)) : List Item := past.filterMap (·.item?)

theorem delivered_snoc_of_none (past : List (Stretch World Call Outcome))
    {x : Stretch World Call Outcome} (h : x.item? = none) :
    delivered (past ++ [x]) = delivered past := by
  rw [delivered, List.filterMap_append, List.filterMap_cons_none h]
  exact List.append_nil _

theorem delivered_snoc_of_some (past : List (Stretch World Call Outcome))
    {x : Stretch World Call Outcome} {item : Item} (h : x.item? = some item) :
    delivered (past ++ [x]) = delivered past ++ [item] := by
  rw [delivered, List.filterMap_append, List.filterMap_cons_some h]
  rfl

/-- Nobody has closed the stream, and no read has failed. -/
def Undisturbed (s : StreamId) (past : List (Stretch World Call Outcome)) : Prop :=
  ∀ x ∈ past, x.call = .next s ∧ ∀ failure, x.ending ≠ .failed failure

/-- What a read comes to, as a call. -/
def Answers (s : StreamId) (k : ConnectionId) (c : CursorId) (w : World)
    (r : Except Failure Outcome) (t : World) : Prop :=
  match r with
  | .ok (.item item) =>
    Stands s k c false false t ∧ (w.connection k).items = item :: (t.connection k).items
  | .ok .ended => Stands s k c true false t ∧ (w.connection k).items = []
  | .ok _ => False
  | .error _ => Stands s k c true false t

/-! ### Where the consumers stand -/

/-- Where the consumers of a stream stand. -/
inductive Position (s : StreamId) (k : ConnectionId) (c : CursorId) (items : List Item)
    (p : Interplay World Call Outcome) : Prop where
  /-- Nobody reads, and the stream is not over. -/
  | idle :
    Stands s k c false false p.state → p.waiting = [] →
    items = delivered p.past ++ (p.state.connection k).items →
    (∀ x ∈ p.past, x.ending ≠ .done .ended) → Position s k c items p
  /-- An item is being waited for. -/
  | reading (u : Waiting World Call Outcome) :
    u.call = .next s → Stands s k c false true p.state → p.waiting = [u] →
    items = delivered p.past ++ (p.state.connection k).items →
    (∀ x ∈ p.past, x.ending ≠ .done .ended) →
    (∀ answer t, (whileReading k (Stands s k c false true)).answers answer →
      t.connection k = p.state.connection k → Stands s k c false true t →
      (u.next answer).Meets (whileReading k (Stands s k c false true)) (Answers s k c)
        t t) →
    Position s k c items p
  /-- The stream is over. -/
  | finished :
    Stands s k c true false p.state → p.waiting = [] → delivered p.past <+: items →
    (Undisturbed s p.past → delivered p.past = items) → Position s k c items p

namespace Position

variable {s : StreamId} {k : ConnectionId} {c : CursorId} {items : List Item}
  {p : Interplay World Call Outcome} {x : Stretch World Call Outcome}
  {pause : Pause World Outcome}

/-- Wherever the consumers stand, they were delivered the first items of the connection. -/
theorem delivered_prefix (h : Position s k c items p) : delivered p.past <+: items := by
  cases h with
  | idle _ _ hitems _ => exact ⟨_, hitems.symm⟩
  | reading _ _ _ _ hitems _ _ => exact ⟨_, hitems.symm⟩
  | finished _ _ hprefix _ => exact hprefix

/-- The stream is there, and keeps its cursor. -/
theorem stands (h : Position s k c items p) : ∃ isOver busy, Stands s k c isOver busy p.state := by
  cases h with
  | idle hstands _ _ _ => exact ⟨_, _, hstands⟩
  | reading _ _ hstands _ _ _ _ => exact ⟨_, _, hstands⟩
  | finished hstands _ _ _ => exact ⟨_, _, hstands⟩

/-- Nobody waits unless an item is being waited for. -/
theorem nobody_waits (h : Position s k c items p) {isOver : Bool}
    (hfree : Stands s k c isOver false p.state) : p.waiting = [] := by
  cases h with
  | idle _ hnobody _ _ => exact hnobody
  | reading _ _ hbusy _ _ _ _ => cases (hfree.unique hbusy).2
  | finished _ hnobody _ _ => exact hnobody

/-- A read that nobody disturbs, in its first stretch or in a later one. -/
theorem made_of_read (hwaiting : p.waiting = []) (hcall : x.call = .next s)
    (hitems : items = delivered p.past ++ (x.before.connection k).items)
    (hopen : ∀ y ∈ p.past, y.ending ≠ .done .ended) (hending : x.ending = pause.ending)
    (hpause : AtPause (whileReading k (Stands s k c false true)) (Answers s k c) x.before x.after
      pause) : Position s k c items (p.made x pause) := by
  have hmade : (p.made x pause).waiting = (x.waiting? pause).toList := by
    rw [made, hwaiting]
    rfl
  have hstill (hnot : x.ending ≠ .done .ended) : ∀ y ∈ p.past ++ [x], y.ending ≠ .done .ended :=
    List.forall_mem_append.mpr ⟨hopen, List.forall_mem_singleton.mpr hnot⟩
  cases pause with
  | fail e =>
    have hnone : x.item? = none := by rw [Stretch.item?, hcall, hending]; rfl
    have hsame := delivered_snoc_of_none p.past hnone
    refine .finished hpause hmade ⟨(x.before.connection k).items, ?_⟩ fun hundisturbed => ?_
    · rw [made, hsame, ← hitems]
    · exact absurd hending ((hundisturbed x (by simp [made])).2 e)
  | wait what next =>
    have hnone : x.item? = none := by rw [Stretch.item?, hcall, hending]; rfl
    have hsame := delivered_snoc_of_none p.past hnone
    obtain ⟨⟨hstands, hleft⟩, hnext⟩ := hpause
    refine .reading { call := x.call, origin := x.origin, number := x.number + 1, next } hcall
      hstands hmade ?_ (hstill (by rw [hending]; nofun))
      fun answer t hanswer hkept ht => hnext answer t hanswer ⟨hkept, ht⟩ trivial
    show items = delivered (p.past ++ [x]) ++ (x.after.connection k).items
    rw [hsame, hleft, hitems]
  | done o =>
    cases o with
    | item item =>
      -- the item that is delivered is the one that leaves the connection
      have hsome : x.item? = some item := by rw [Stretch.item?, hcall, hending]; rfl
      have hmore := delivered_snoc_of_some p.past hsome
      obtain ⟨hstands, hleft⟩ := hpause
      refine .idle hstands hmade ?_ (hstill (by rw [hending]; nofun))
      show items = delivered (p.past ++ [x]) ++ (x.after.connection k).items
      rw [hmore, List.append_assoc, List.singleton_append, ← hleft, hitems]
    | ended =>
      have hnone : x.item? = none := by rw [Stretch.item?, hcall, hending]; rfl
      have hsame := delivered_snoc_of_none p.past hnone
      obtain ⟨hstands, hleft⟩ := hpause
      have hall : delivered (p.past ++ [x]) = items := by
        rw [hsame, hitems, hleft, List.append_nil]
      exact .finished hstands hmade ⟨[], by rw [made, hall, List.append_nil]⟩ fun _ => hall
    | _ => exact hpause.elim

/-- A call that delivers nothing and leaves the stream where it stands. -/
theorem made_of_still (h : Position s k c items p) (hnone : x.item? = none)
    (hended : x.ending ≠ .done .ended) (hpause : x.waiting? pause = none)
    {isOver busy : Bool} (hbefore : Stands s k c isOver busy p.state)
    (hafter : Stands s k c isOver busy x.after)
    (hkept : x.after.connection k = p.state.connection k) :
    Position s k c items (p.made x pause) := by
  have hsame := delivered_snoc_of_none p.past hnone
  have hwaiting : (p.made x pause).waiting = p.waiting := by
    rw [made, hpause]
    exact List.append_nil _
  have hstill (hopen : ∀ y ∈ p.past, y.ending ≠ .done .ended) :
      ∀ y ∈ p.past ++ [x], y.ending ≠ .done .ended :=
    List.forall_mem_append.mpr ⟨hopen, List.forall_mem_singleton.mpr hended⟩
  -- A stream stands in one way only, so the position that is known is the one that is kept.
  have hstands {isOver' busy' : Bool} (h' : Stands s k c isOver' busy' p.state) :
      Stands s k c isOver' busy' x.after := by
    obtain ⟨rfl, rfl⟩ := hbefore.unique h'
    exact hafter
  cases h with
  | idle hidle hnobody hitems hopen =>
    refine .idle (hstands hidle) (hwaiting.trans hnobody) ?_ (hstill hopen)
    show items = delivered (p.past ++ [x]) ++ (x.after.connection k).items
    rw [hsame, hkept, hitems]
  | reading u hcall hbusy hone hitems hopen hnext =>
    refine .reading u hcall (hstands hbusy) (hwaiting.trans hone) ?_ (hstill hopen)
      fun answer t hanswer ht => hnext answer t hanswer (ht.trans hkept)
    show items = delivered (p.past ++ [x]) ++ (x.after.connection k).items
    rw [hsame, hkept, hitems]
  | finished hover hnobody hprefix hall =>
    refine .finished (hstands hover) (hwaiting.trans hnobody) ?_ fun hundisturbed => ?_
    · rw [made, hsame]
      exact hprefix
    · rw [made, hsame]
      exact hall fun y hy => hundisturbed y (List.mem_append_left _ hy)

/-- A call that delivers nothing and after which the stream is over. -/
theorem made_of_over (h : Position s k c items p) (hnone : x.item? = none)
    (hpause : x.waiting? pause = none) (hnobody : p.waiting = [])
    (hstands : Stands s k c true false x.after)
    (hall : x.call = .next s → Undisturbed s p.past → delivered p.past = items) :
    Position s k c items (p.made x pause) := by
  have hsame := delivered_snoc_of_none p.past hnone
  have hwaiting : (p.made x pause).waiting = [] := by
    rw [made, hpause, hnobody]
    rfl
  refine .finished hstands hwaiting ?_ fun hundisturbed => ?_
  · rw [made, hsame]
    exact h.delivered_prefix
  · rw [made, hsame]
    exact hall (hundisturbed x (by simp [made])).1
      fun y hy => hundisturbed y (List.mem_append_left _ hy)

/-! ### Calls from a position -/

/-- A consumer closes the stream. -/
theorem begin_close (h : Position s k c items p) :
    Position s k c items (p.begin (.close s) (Call.act (.close s))) := by
  obtain ⟨isOver, busy, hstands⟩ := h.stands
  have hmeets : (Call.act (.close s)).Meets { pause := fun _ _ _ => False }
      (fun _ r t => r ≠ .ok .ended ∧ Closes s k c isOver busy p.state t) p.state p.state := by
    show (Act.closeStream s >>= fun _ => pure Outcome.nothing).Meets _ _ _ _
    rw [meets_bind]
    refine Act.closeStream_meets (fun _ _ => trivial) hstands fun r t ht => ?_
    cases r with
    | error e => exact ⟨fun hfailed => (by cases hfailed), ht⟩
    | ok _ => exact ⟨fun hnothing => (by cases hnothing), ht⟩
  obtain ⟨r, hpause, hr, hcloses⟩ := hmeets.ends
  have hended : (Stretch.first (Call.close s) (Call.act (.close s)) p.state).ending
      ≠ .done .ended := by
    rw [Stretch.first, Stretch.run, hpause]
    intro h
    cases r with
    | error e => cases h
    | ok o => exact hr (congrArg Except.ok (Ending.done.inj h))
  -- the stream is over now, unless it was closed before or is being read
  rcases hcloses with ⟨rfl, hover⟩ | ⟨hafter, hkept⟩
  · exact h.made_of_over rfl (Stretch.waiting?_of_ended _ hpause) (h.nobody_waits hstands) hover
      fun hnext => (by cases hnext)
  · exact h.made_of_still rfl hended (Stretch.waiting?_of_ended _ hpause) hstands hafter hkept

theorem next_meets {w : World} (h : Stands s k c false false w) :
    (Call.act (.next s)).Meets (whileReading k (Stands s k c false true)) (Answers s k c) w w := by
  show (Act.nextOfStream s >>= _).Meets _ _ _ _
  rw [meets_bind]
  refine (Act.nextOfStream_meets h).mono fun w₀ r t hr => ?_
  rcases r with failure | _ | item
  · exact hr
  · exact hr
  · exact hr

/-- While somebody else reads, a read fails, and nothing has happened. -/
theorem next_meets_of_busy {isOver : Bool} {w : World} (h : Stands s k c isOver true w) :
    (Call.act (.next s)).Meets { pause := fun _ _ _ => False }
      (fun _ r t => (∃ failure, r = .error failure) ∧ t = w) w w := by
  show (Act.nextOfStream s >>= _).Meets _ _ _ _
  rw [meets_bind]
  exact Act.nextOfStream_meets_of_busy h ⟨⟨_, rfl⟩, rfl⟩

/-- When the stream is over there is nothing to read any more. -/
theorem next_meets_of_over {w : World} (h : Stands s k c true false w) :
    (Call.act (.next s)).Meets { pause := fun _ _ _ => False }
      (fun _ r t => (∀ item, r ≠ .ok (.item item)) ∧ Stands s k c true false t) w w := by
  show (Act.nextOfStream s >>= _).Meets _ _ _ _
  rw [meets_bind]
  refine Act.nextOfStream_meets_of_over (fun _ _ => trivial) h fun r t ht hnone => ?_
  rcases r with failure | _ | item
  · exact ⟨fun _ hitem => (by cases hitem), ht⟩
  · exact ⟨fun _ hitem => (by cases hitem), ht⟩
  · exact absurd rfl (hnone item)

/-- A consumer reads the stream. -/
theorem begin_next (h : Position s k c items p) :
    Position s k c items (p.begin (.next s) (Call.act (.next s))) := by
  cases h with
  | idle hidle hnobody hitems hopen =>
    exact made_of_read hnobody rfl hitems hopen rfl (meets_iff_advance.mp (next_meets hidle)).2
  | reading u hcall hbusy hone hitems hopen hnext =>
    -- The first read is under way: a second one fails at once and changes nothing.
    obtain ⟨_, hpause, ⟨failure, rfl⟩, hsame⟩ := (next_meets_of_busy hbusy).ends
    have hafter : (Stretch.first (Call.next s) (Call.act (.next s)) p.state).after = p.state :=
      hsame
    have hfailed : (Stretch.first (Call.next s) (Call.act (.next s)) p.state).ending
        = .failed failure := by
      rw [Stretch.first, Stretch.run, hpause]
      rfl
    refine made_of_still (.reading u hcall hbusy hone hitems hopen hnext) ?nothing ?unended
      (Stretch.waiting?_of_ended _ hpause) hbusy ?stands ?kept
    case nothing =>
      rw [Stretch.item?, hfailed]
      rfl
    case unended =>
      rw [hfailed]
      intro h
      cases h
    case stands =>
      rw [hafter]
      exact hbusy
    case kept => rw [hafter]
  | finished hover hnobody hprefix hall =>
    obtain ⟨r, hpause, hnone, hafter⟩ := (next_meets_of_over hover).ends
    refine made_of_over (.finished hover hnobody hprefix hall) ?_ (Stretch.waiting?_of_ended _ hpause)
      hnobody hafter fun _ => hall
    rw [Stretch.item?, Stretch.first, Stretch.run, hpause]
    rcases r with failure | o
    · rfl
    · cases o with
      | item item => exact absurd rfl (hnone item)
      | _ => rfl

end Position

/-- Wherever a run of consumers has come to, they stand where one can say it. -/
theorem Reaches.position {s : StreamId} {k : ConnectionId} {c : CursorId}
    {others : World → World → Prop} {w : World} (hw : Stands s k c false false w)
    {p : Interplay World Call Outcome} (h : Reaches (consuming s k others) w p) :
    Position s k c (w.connection k).items p := by
  induction h with
  | start => exact .idle hw rfl (List.nil_append _).symm (List.forall_mem_nil _)
  | begin _ hallowed ih =>
    rcases hallowed with rfl | rfl
    · exact ih.begin_next
    · exact ih.begin_close
  | @wake p earlier u later answer _ hwaiting hanswer ih =>
    cases ih with
    -- nobody waits, so nobody can be woken
    | idle _ hnobody _ _ =>
      rw [hnobody] at hwaiting
      exact absurd hwaiting.symm (by simp)
    | reading v hcall hbusy hone hitems hopen hnext =>
      -- the one who waits is the one who goes on
      rw [hone] at hwaiting
      rcases List.singleton_eq_append_iff.mp hwaiting with ⟨rfl, hrest⟩ | ⟨-, hrest⟩
      · cases hrest
        have hmeets := hnext answer p.state hanswer rfl hbusy
        exact Position.made_of_read rfl hcall hitems hopen rfl (meets_iff_advance.mp hmeets).2
      · cases hrest
    | finished _ hnobody _ _ =>
      rw [hnobody] at hwaiting
      exact absurd hwaiting.symm (by simp)
  | @elsewhere p t _ hothers ih =>
    obtain ⟨hstream, hconnection, -⟩ := hothers
    cases ih with
    | idle hidle hnobody hitems hopen =>
      exact .idle (hidle.of_lookup hstream) hnobody (by rw [hconnection, hitems]) hopen
    | reading u hcall hbusy hone hitems hopen hnext =>
      exact .reading u hcall (hbusy.of_lookup hstream) hone (by rw [hconnection, hitems]) hopen
        fun answer v hanswer hv => hnext answer v hanswer (hv.trans hconnection)
    | finished hover hnobody hprefix hall =>
      exact .finished (hover.of_lookup hstream) hnobody hprefix hall

/-! ### The cursor -/

section Cursor

variable {s : StreamId} {k : ConnectionId} {c : CursorId} {others : World → World → Prop}
  {w : World} {p : Interplay World Call Outcome}

/-- All calls of consumers read the stream or close it. -/
theorem Reaches.calls (h : Reaches (consuming s k others) w p) :
    ∀ x ∈ p.past, x.call = .next s ∨ x.call = .close s := by
  refine (h.law (fun _ past => ∀ x ∈ past, x.call = .next s ∨ x.call = .close s)
    (fun u => u.call = .next s ∨ u.call = .close s) (List.forall_mem_nil _) ?_ ?_ ?_).1
  · intro t past call hpast hallowed
    refine ⟨List.forall_mem_append.mpr ⟨hpast, List.forall_mem_singleton.mpr hallowed⟩,
      fun u hu => ?_⟩
    obtain ⟨next, -, rfl⟩ := Option.map_eq_some_iff.mp hu
    exact hallowed
  · intro t past u answer hpast hu _
    refine ⟨List.forall_mem_append.mpr ⟨hpast, List.forall_mem_singleton.mpr hu⟩, fun v hv => ?_⟩
    obtain ⟨next, -, rfl⟩ := Option.map_eq_some_iff.mp hv
    exact hu
  · exact fun _ _ _ hpast _ => hpast

/-- Consumers share the cursor of the stream with those who leave it alone. -/
theorem Reaches.sharing (hw : Stands s k c false false w)
    (hothers : ∀ t t', others t t' → (ResumableWatch.sharing c).others t t')
    (h : Reaches (consuming s k others) w p) : Reaches (ResumableWatch.sharing c) w p := by
  induction h with
  | start => exact .start
  | begin hp hallowed ih =>
    obtain ⟨isOver, busy, hstands⟩ := (Reaches.position hw hp).stands
    refine ih.begin ?_
    rcases hallowed with rfl | rfl
    · exact ⟨hstands.there, hstands.cursor⟩
    · exact ⟨hstands.there, hstands.cursor⟩
  | wake _ hwaiting _ ih => exact ih.wake hwaiting trivial
  | elsewhere _ hothers' ih => exact ih.elsewhere (hothers _ _ hothers'.2.2)

/-- The history of consumers consists of the items that were delivered. -/
theorem history_of_calls {past : List (Stretch World Call Outcome)}
    (h : ∀ x ∈ past, x.call = .next s ∨ x.call = .close s) :
    history c past = (delivered past).filterMap Item.mark? := by
  rw [history, delivered, List.filterMap_filterMap]
  refine List.filterMap_congr fun x hx => ?_
  obtain ⟨call, origin, number, answer, before, changes, after, ending⟩ := x
  rcases h _ hx with hcall | hcall
  · obtain rfl : call = .next s := hcall
    cases ending with
    | done o => cases o <;> rfl
    | failed e => rfl
    | waits what => rfl
  · obtain rfl : call = .close s := hcall
    rfl

end Cursor

/-! ### The stream of a poll -/

theorem addStream_stands {stream : Stream} {w₀ w : World}
    {post : World → Except Failure StreamId → World → Prop}
    (hpost : ∀ s t, Stands s stream.connection stream.cursor (decide (stream.progress = .over))
      stream.busy t → post w₀ (.ok s) t) :
    (Act.addStream stream).Meets {} post w₀ w := by
  refine ⟨trivial, hpost _ _ ?_⟩
  have hstream : ({ w with streams := w.streams ++ [stream] } : World).stream w.streams.length
      = stream := by
    simp [World.stream]
  refine ⟨?_, by rw [hstream], by rw [hstream], by rw [hstream], by rw [hstream]⟩
  show w.streams.length < (w.streams ++ [stream]).length
  simp

theorem ask_stands (i : InformerId) (it : Informer) (w₀ w : World) :
    (Act.ask i it).Meets {} (byOutcome (fun _ s t => ∃ k, Stands s k it.cursor false false t)
      fun _ _ _ => True) w₀ w := by
  refine Meets.of_last _ (fun found _ _ => ?_) fun _ _ _ => trivial
  refine Meets.of_last _ (fun _ _ _ => ?_) fun _ _ _ => trivial
  refine Meets.of_last _ (fun _ _ _ => ?_) fun _ _ _ => trivial
  refine Meets.of_last _ (fun connection _ _ => ?_) fun _ _ _ => trivial
  refine Meets.of_last _ (fun _ _ _ => ?_) fun _ _ _ => trivial
  exact addStream_stands fun s t ht => ⟨connection, ht⟩

/-- The stream of a poll stands at a connection of its own and at the cursor of the informer.  It is
not over, and nobody reads it yet. -/
theorem poll_stands (i : InformerId) (w : World) :
    (Act.poll i).Meets {}
      (byOutcome (fun _ s t => ∃ k, Stands s k (w.informer i).cursor false false t)
        fun _ _ _ => True) w w := by
  rw [Act.poll_eq, meets_bind]
  refine Meets.of_last _ (fun _ _ _ => ?_) fun _ _ _ => trivial
  refine Meets.of_last _ (fun _ w₀ t => ?_) fun _ _ _ => trivial
  exact ask_stands i (w.informer i) w₀ t

/-- What is read of the stream of a poll, in any order and by whomever, is the beginning of what its
connection held when the poll ended. -/
theorem poll_delivers (i : InformerId) (w : World) :
    (Act.poll i).Meets {}
      (byOutcome (fun _ s t => ∀ others p,
        Reaches (consuming s (t.stream s).connection others) t p →
          delivered p.past <+: (t.connection (t.stream s).connection).items) fun _ _ _ => True)
      w w := by
  refine (poll_stands i w).mono fun _ r t ht => ?_
  cases r with
  | error e => trivial
  | ok s =>
    obtain ⟨k, hk⟩ := ht
    intro others p hp
    rw [hk.connection] at hp ⊢
    exact Position.delivered_prefix (Reaches.position hk hp)

/-! ### Transparency -/

/-- **Transparency.**  Whenever one looks at the consumers of a stream, the items that were
delivered to them are the first items of the connection, in order; as long as the stream is not
over, the others are still to come; and once a read has found the end, undisturbed, all items were
delivered.  If nobody else writes to the cursor, its version is made of the versions of the
delivered items, and it is armed if it was armed before, or if one of these items says that the
version has expired. -/
theorem delivered_transparently {s : StreamId} {k : ConnectionId} {c : CursorId} {w : World}
    (hw : Stands s k c false false w) {others : World → World → Prop}
    {p : Interplay World Call Outcome} (h : Reaches (consuming s k others) w p) :
    delivered p.past <+: (w.connection k).items ∧
    ((p.state.stream s).progress ≠ .over →
      (w.connection k).items = delivered p.past ++ (p.state.connection k).items) ∧
    ((∃ x ∈ p.past, x.ending = .done .ended) → Undisturbed s p.past →
      delivered p.past = (w.connection k).items) ∧
    (c < w.cursors.length → (∀ t t', others t t' → (sharing c).others t t') →
      ((delivered p.past).filterMap Item.version?).foldlM Version.merge (w.cursor c).version
          = .ok (p.state.cursor c).version ∧
        (p.state.cursor c).expired
          = ((w.cursor c).expired || (delivered p.past).any Item.isExpiry)) := by
  have hposition := Reaches.position hw h
  refine ⟨hposition.delivered_prefix, fun hnotOver => ?_, fun hended hundisturbed => ?_,
    fun hc hothers => ?_⟩
  · cases hposition with
    | idle _ _ hitems _ => exact hitems
    | reading _ _ _ _ hitems _ _ => exact hitems
    | finished hover _ _ _ => exact absurd (of_decide_eq_true hover.isOver) hnotOver
  · obtain ⟨x, hx, hending⟩ := hended
    cases hposition with
    | idle _ _ _ hopen => exact absurd hending (hopen x hx)
    | reading _ _ _ _ _ hopen _ => exact absurd hending (hopen x hx)
    | finished _ _ _ hall => exact hall hundisturbed
  · have hnow := (Reaches.runLaw hc (Reaches.sharing hw hothers h)).now
    rw [history_of_calls (Reaches.calls h)] at hnow
    refine ⟨?_, ?_⟩
    · rw [← versionAfter_items]
      exact hnow.version
    · rw [← armedAfter_items]
      exact hnow.expired.symm

/-- An event of version 7. -/
def seven : Item :=
  .event { type := .added
           raw := .object [("metadata", .object [("resourceVersion", .text "7")])] }

/-- A stream at version 5 that has an event of version 7 and then, after a while, an expiry. -/
def expiringStream : World where
  cursors := [{ version := "5" }]
  connections := [{
    transport := .feed
    pending := [.item none (.ok seven), .delay (.ofInt 1), .item none (.ok gone)] }]
  streams := [{ connection := 0, cursor := 0, name := "informer" }]

/-- A consumer reads the event, and waits for the next item. -/
def eventRead : Interplay World Call Outcome := inTurn expiringStream [.next 0, .next 0]

/-- The second read, while it waits. -/
def expiryAwaited : Waiting World Call Outcome := eventRead.waiting.head (List.cons_ne_nil _ _)

/-- While it waits the cursor has the version of the event and is not armed; when the expiry has
been delivered it is. -/
theorem eventRead_then_expiry :
    (eventRead.state.cursor 0).version = "7" ∧ (eventRead.state.cursor 0).expired = false ∧
      ((eventRead.wake expiryAwaited [] (.ok ())).state.cursor 0).expired = true := by
  have hw : Stands 0 0 0 false false expiringStream := ⟨Nat.one_pos, rfl, rfl, rfl, rfl⟩
  have hread : Reaches (consuming 0 0 fun w t => t = w) expiringStream eventRead :=
    .begin (.begin .start (.inl rfl)) (.inl rfl)
  have hwoken : Reaches (consuming 0 0 fun w t => t = w) expiringStream
      (eventRead.wake expiryAwaited ([] ++ []) (.ok ())) :=
    hread.wake (u := expiryAwaited) rfl nofun
  have hothers : ∀ t t' : World, t' = t → (sharing 0).others t t' := by
    rintro t _ rfl
    exact ⟨rfl, id⟩
  obtain ⟨-, -, -, hbefore⟩ := delivered_transparently hw hread
  obtain ⟨hversion, hflag⟩ := hbefore Nat.one_pos hothers
  obtain ⟨-, -, -, hafter⟩ := delivered_transparently hw hwoken
  obtain ⟨-, hflag'⟩ := hafter Nat.one_pos hothers
  have hseven : ((delivered eventRead.past).filterMap Item.version?).foldlM Version.merge "5"
      = .ok "7" := rfl
  exact ⟨Except.ok.inj (hversion.symm.trans hseven), hflag.trans rfl, hflag'.trans rfl⟩

end ResumableWatch
