import ResumableWatch.Proofs.Fiber.Interplay
import ResumableWatch.Proofs.Informer.Backoff
import ResumableWatch.Proofs.Informer.History
import ResumableWatch.Proofs.Stream.Stepwise
import ResumableWatch.Session.Steps
/-!
# The calls of a session

What consumers may ask of the informers that share a cursor and of the streams of their polls, and
what a stretch of each of these calls does to the cursor and to the server.

A `Stretch.Lawful` stretch does to the cursor what its mark says, and nothing without one; only
polls issue requests, and each of their requests resumes from the cursor as it is then.
`Call.On.sound` and `Resumable.sound` say that all stretches are lawful, whatever happens between
them: `Resumable` is what has to be known for this of a call that waits.
-/

namespace ResumableWatch

open ResumableWatch.Fiber

/-! ### Calls -/

/-- What can be asked of the informers and the streams of a session. -/
inductive Call where
  | setVersion (i : InformerId) (version : String)
  | resetVersion (i : InformerId)
  | arm (i : InformerId)
  | clear (i : InformerId)
  /-- Copies an informer; the copy asks another query. -/
  | copy (i : InformerId) (query : Query)
  | poll (i : InformerId)
  /-- Reads one item of a stream. -/
  | next (s : StreamId)
  | close (s : StreamId)

namespace Call

/-- The calls that may come to a wait. -/
def MayWait : Call → Prop
  | poll _ | next _ | close _ => True
  | _ => False

/-- Changes the cursor of an informer. -/
def onCursor (i : InformerId) (f : Cursor → Cursor) : Act Outcome :=
  Act.silently do Act.changeCursor (← Act.informer i).cursor f

/-- What a call does. -/
def act : Call → Act Outcome
  | setVersion i version => Act.silently (Act.setVersion i version)
  | resetVersion i => Act.silently (Act.resetVersion i)
  | arm i => onCursor i Cursor.arm
  | clear i => onCursor i Cursor.clear
  | copy i query => do
    let _ ← Act.copyInformer i query
    return .nothing
  | poll i => do
    return .opened (← Act.poll i)
  | next s => (Source.ofStream s).call .next
  | close s => (Source.ofStream s).call .close

/-- A call is about an informer or a stream that is there and has that cursor. -/
def On (c : CursorId) (w : World) : Call → Prop
  | setVersion i _ | resetVersion i | arm i | clear i | copy i _ | poll i =>
    i < w.informers.length ∧ (w.informer i).cursor = c
  | next s | close s => s < w.streams.length ∧ (w.stream s).cursor = c

end Call

/-- The calls about one cursor, in any order.  Others leave that cursor alone, and are free to do
anything else. -/
def sharing (c : CursorId) : Setting World Call Outcome where
  act := Call.act
  allowed w call := call.On c w
  others w w' := w'.cursor c = w.cursor c ∧ (c < w.cursors.length → c < w'.cursors.length)

/-! ### Marks -/

namespace Stretch

variable (c : CursorId) (x : Stretch World Call Outcome)

/-- A poll goes on after its backoff: it found the cursor armed when it began, and has slept. -/
def rested : Bool := x.number == 1 && (x.origin.cursor c).expired && x.answer.toBool

/-- What a stretch means to the history of the cursor. -/
def mark? : Option Mark :=
  match x.call with
  | .setVersion _ version => some (.set version)
  | .resetVersion _ => some (.set Version.origin)
  | .arm _ => some .expiry
  | .clear _ => some .withdrawn
  | .copy .. => none
  | .poll _ =>
    if x.rested c then some (if (x.before.cursor c).expired then .restarted else .skipped) else none
  | .next _ =>
    match x.ending with
    | .done (.item item) => item.mark?
    | _ => none
  | .close _ => none

/-- The watch requests that a stretch issues. -/
def requests : List WatchRequest := World.requestsOf x.changes

/-- What holds of every stretch. -/
structure Lawful : Prop where
  there : c < x.after.cursors.length
  /-- The cursor is changed as the mark says. -/
  effect : (x.mark? c = none ∧ x.after.cursor c = x.before.cursor c) ∨
    ∃ mark, x.mark? c = some mark ∧ mark.effect (x.before.cursor c) = .ok (x.after.cursor c)
  /-- Only polls issue requests, and these resume from the cursor, which is not armed then. -/
  requests : ∀ r ∈ x.requests, ∃ i, x.call = .poll i ∧
    r = (x.origin.informer i).request (x.after.cursor c).version ∧
    (x.after.cursor c).expired = false
  /-- A poll begins with its request, or with its backoff. -/
  begins : ∀ i, x.call = .poll i → x.number = 0 →
    if (x.before.cursor c).expired then
      x.requests = [] ∧ x.ending = .waits (.sleep (x.origin.informer i).backoff)
    else x.requests = [(x.origin.informer i).request (x.after.cursor c).version]
  /-- A poll that has slept its backoff goes on with its request. -/
  rests : ∀ i, x.call = .poll i → x.rested c = true →
    x.requests = [(x.origin.informer i).request (x.after.cursor c).version]

end Stretch

/-! ### Waiting calls -/

/-- What a call that is not a poll in its backoff makes of the cursor in its last stretch. -/
def Call.Leaves (c : CursorId) (call : Call) (w : World) (r : Except Failure Outcome)
    (t : World) : Prop :=
  c < t.cursors.length ∧
    match call, r with
    | .next _, .ok (.item item) => item.effect (w.cursor c) = .ok (t.cursor c)
    | _, _ => t.cursor c = w.cursor c

/-- No stretch issues a request, and no stretch but the last one changes the cursor. -/
def quietly (c : CursorId) : Terms World where
  rely _ t := c < t.cursors.length
  change w t := World.asked? w t = none
  pause w _ t := c < t.cursors.length ∧ t.cursor c = w.cursor c

/-- What the call of a poll goes on with after its backoff. -/
def Call.afterBackoff (i : InformerId) (it : Informer) (answer : Wakeup) : Act Outcome := do
  return .opened (← Act.afterBackoff i it answer)

/-- What is known of a call that waits. -/
inductive Resumable (c : CursorId) (u : Waiting World Call Outcome) : Prop where
  /-- A poll in its backoff. -/
  | resting (i : InformerId) :
    u.call = .poll i → u.number = 1 → (u.origin.cursor c).expired = true →
    (u.origin.informer i).cursor = c →
    u.next = Call.afterBackoff i (u.origin.informer i) →
    Resumable c u
  /-- Any other call. -/
  | reading :
    u.call.MayWait →
    (∀ i, u.call = .poll i →
      0 < u.number ∧ (u.number = 1 → (u.origin.cursor c).expired = false)) →
    (∀ answer w, c < w.cursors.length →
      (u.next answer).Meets (quietly c) (u.call.Leaves c) w w) →
    Resumable c u

/-- A stretch is lawful, and enough is known of its call if it waits. -/
def Stretch.Sound (c : CursorId) (x : Stretch World Call Outcome) (pause : Pause World Outcome) :
    Prop :=
  x.Lawful c ∧ ∀ u ∈ x.waiting? pause, Resumable c u

/-- The first stretch of a call is sound. -/
def Call.Sound (c : CursorId) (w : World) (call : Call) : Prop :=
  (Stretch.first call call.act w).Sound c (call.act.advance w).2

/-! ### Calls that do not wait -/

section Sound

variable {c : CursorId} {w : World}

/-- A call that neither waits nor polls is sound when it changes the cursor as its mark says. -/
theorem sound_of_confined {call : Call} {k : Cursor} {changes : List (World × World)} {t : World}
    (hc : c < w.cursors.length) (hpoll : ∀ i, call ≠ .poll i)
    (hgo : Goes call.act w changes (pure .nothing) t) (hconf : Confined c w k changes t)
    (heffect : ((Stretch.first call call.act w).mark? c = none ∧ k = w.cursor c) ∨
      ∃ mark, (Stretch.first call call.act w).mark? c = some mark ∧
        mark.effect (w.cursor c) = .ok k) :
    call.Sound c w := by
  have hadvance : call.act.advance w = (t, .done .nothing) := hgo.advance_eq
  have hrequests : (Stretch.first call call.act w).requests = [] := by
    rw [Stretch.requests, Stretch.first, Stretch.run, hgo.changes_eq, World.requestsOf_append,
      hconf.noRequest]
    rfl
  have hafter : (Stretch.first call call.act w).after = t := by
    rw [Stretch.first, Stretch.run, hadvance]
  refine ⟨⟨?there, ?effect, ?requests, ?begins, ?rests⟩, ?waits⟩
  case there =>
    rw [hafter, hconf.length]
    exact hc
  case effect =>
    rw [hafter, hconf.cursor]
    exact heffect
  case requests =>
    rw [hrequests]
    simp
  case begins => exact fun i hi => absurd hi (hpoll i)
  case rests => exact fun i hi => absurd hi (hpoll i)
  case waits =>
    -- the call has ended, so nothing of it waits
    rw [hadvance]
    simp [Stretch.waiting?, Pause.next?]

theorem confined_log_changeCursor (hc : c < w.cursors.length) (level : Log.Level)
    (component event : String) (fields : List (String × Json)) (f : Cursor → Cursor) :
    let t := w.log level component event fields 0
    Confined c w (f (w.cursor c)) [(w, t), (t, t.changeCursor c f)] (t.changeCursor c f) := by
  have hlogged := Confined.log c w level component event fields
  have hchanged := hlogged.trans (Confined.changeCursor (hlogged.length.symm ▸ hc) f)
  rw [hlogged.cursor] at hchanged
  exact hchanged

/-- Setting a version is one mark. -/
theorem setVersion_sound {i : InformerId} (hc : c < w.cursors.length)
    (hi : (w.informer i).cursor = c) (version : String) :
    (Call.setVersion i version).Sound c w := by
  subst hi
  exact sound_of_confined hc nofun (.read (.read (.write (.read (.write .here)))))
    (confined_log_changeCursor hc _ _ _ _ _) (.inr ⟨_, rfl, rfl⟩)

/-- So is going back to the origin. -/
theorem resetVersion_sound {i : InformerId} (hc : c < w.cursors.length)
    (hi : (w.informer i).cursor = c) : (Call.resetVersion i).Sound c w := by
  subst hi
  exact sound_of_confined hc nofun (.read (.read (.write (.read (.write .here)))))
    (confined_log_changeCursor hc _ _ _ _ _) (.inr ⟨_, rfl, rfl⟩)

theorem arm_sound {i : InformerId} (hc : c < w.cursors.length) (hi : (w.informer i).cursor = c) :
    (Call.arm i).Sound c w := by
  subst hi
  exact sound_of_confined hc nofun (.read (.read (.write .here)))
    (Confined.changeCursor hc Cursor.arm) (.inr ⟨_, rfl, rfl⟩)

theorem clear_sound {i : InformerId} (hc : c < w.cursors.length) (hi : (w.informer i).cursor = c) :
    (Call.clear i).Sound c w := by
  subst hi
  exact sound_of_confined hc nofun (.read (.read (.write .here)))
    (Confined.changeCursor hc Cursor.clear) (.inr ⟨_, rfl, rfl⟩)

/-- A copy of an informer leaves no mark. -/
theorem copy_sound (hc : c < w.cursors.length) (i : InformerId) (query : Query) :
    (Call.copy i query).Sound c w := by
  refine sound_of_confined hc nofun (.read (.read (.read (.write .here)))) ?_ (.inl ⟨rfl, rfl⟩)
  exact ⟨World.requestsOf_singleton_of_none (World.asked?_of_journal rfl), rfl, rfl, rfl, rfl, rfl⟩

/-! ### Reading and closing -/

/-- Whatever is steady leaves the cursor alone. -/
theorem leaves_of_steady {α : Type} {m : Act α} (hm : Steady Still (fun _ => True) m)
    {post : World → Except Failure α → World → Prop} {s₀ s : World}
    (hpost : ∀ s₀ r s, c < s.cursors.length → s.cursor c = s₀.cursor c → post s₀ r s)
    (hc : c < s.cursors.length) (h : s.cursor c = s₀.cursor c) :
    m.Meets (quietly c) post s₀ s := by
  refine hm.meets (fun s₀ s => c < s.cursors.length ∧ s.cursor c = s₀.cursor c)
    (fun _ _ _ _ _ _ hs' _ => ⟨hs', rfl⟩) ?_ (fun _ _ _ h _ => h)
    (fun s₀ r s h => hpost s₀ r s h.1 h.2) ⟨hc, h⟩
  rintro s₀ s s' ⟨hc, h⟩ ⟨hcursors, hnone⟩
  refine ⟨hnone, ?_, ?_⟩
  · rw [hcursors]
    exact hc
  · rw [World.cursor_of_cursors hcursors, h]

/-- What the observed items of a stream make of the cursor. -/
def Takes (c : CursorId) (w : World) (r : Except Failure (Option Item)) (t : World) : Prop :=
  c < t.cursors.length ∧
    match r with
    | .ok (some item) => item.effect (w.cursor c) = .ok (t.cursor c)
    | _ => t.cursor c = w.cursor c

/-- After a steady fiber no item is delivered. -/
theorem takes_of_steady {α : Type} {m : Act α} (hm : Steady Still (fun _ => True) m)
    {r : α → Except Failure (Option Item)} (hr : ∀ a item, r a ≠ .ok (some item)) {s₀ s : World}
    (hc : c < s.cursors.length) (h : s.cursor c = s₀.cursor c) :
    m.Meets (quietly c)
      (byOutcome (fun t₀ a t => Takes c t₀ (r a) t) fun t₀ e t => Takes c t₀ (.error e) t)
      s₀ s := by
  refine leaves_of_steady hm (fun t₀ result t hc' ht => ?_) hc h
  cases result with
  | error e => exact ⟨hc', ht⟩
  | ok a =>
    refine ⟨hc', ?_⟩
    rcases hra : r a with _ | _ | item
    · exact ht
    · exact ht
    · exact absurd hra (hr a item)

/-- After a failed read nothing is taken, and the cursor is as it was. -/
theorem failObservation_takes {s : StreamId} {failure : Failure} {s₀ t : World}
    (hc : c < t.cursors.length) (h : t.cursor c = s₀.cursor c) :
    (Act.failObservation s failure).Meets (quietly c) (Takes c) s₀ t := by
  rw [Act.failObservation, meets_bind]
  exact takes_of_steady (r := fun _ => .error failure)
    (Act.endObservation_steady still_tolerant s) nofun hc h

/-- A read takes one item, whose effect its cursor shows. -/
theorem readObserved_takes {s : StreamId} (w₀ : World) (hc : c < w.cursors.length)
    (hs : (w.stream s).cursor = c) (hw₀ : w.cursor c = w₀.cursor c) :
    (Act.readObserved s).Meets (quietly c) (Takes c) w₀ w := by
  rw [Act.meets_readObserved]
  refine leaves_of_steady (Act.nextItem_steady still_reads (fun _ => trivial) _)
    (fun t₀ r t hc' ht => ?_) hc hw₀
  rcases r with failure | _ | item
  · exact failObservation_takes hc' ht
  · dsimp only
    rw [meets_bind]
    exact takes_of_steady (r := fun _ => .ok none)
      (Act.endObservation_steady still_tolerant s) nofun hc' ht
  · -- nobody can act between the arrival of an item and its delivery
    obtain ⟨changes, u, hgo, hconf⟩ := Act.observe_goes (hs.symm ▸ hc') item
    rw [hs] at hgo hconf
    dsimp only
    rw [hgo.meets_iff, meets_ofExcept]
    refine ⟨World.requestsOf_eq_nil_iff.mp hconf.noRequest, ?_⟩
    have hu : c < u.cursors.length := by
      rw [hconf.length]
      exact hc'
    have hcursor := hconf.cursor
    cases heffect : item.effect (t.cursor c) with
    | error failure =>
      rw [heffect] at hcursor
      exact failObservation_takes hu (hcursor.trans ht)
    | ok k =>
      rw [heffect] at hcursor
      have htakes : Takes c t₀ (.ok (some item)) u := by
        refine ⟨hu, ?_⟩
        show item.effect (t₀.cursor c) = .ok (u.cursor c)
        rw [← ht, heffect, hcursor]
        rfl
      exact Act.noteObserved_meets htakes fun _ => ⟨World.asked?_of_journal rfl, htakes⟩

/-- So does a read that marks its stream as busy meanwhile. -/
theorem nextObserved_takes {s : StreamId} (hc : c < w.cursors.length)
    (hs : (w.stream s).cursor = c) :
    (Act.nextObserved s).Meets (quietly c) (Takes c) w w := by
  cases hbusy : (w.stream s).busy with
  | true =>
    rw [Act.meets_nextObserved_of_busy hbusy]
    exact ⟨hc, rfl⟩
  | false =>
    by_cases hover : (w.stream s).progress = .over
    · rw [Act.meets_nextObserved_of_over hbusy hover]
      exact ⟨hc, rfl⟩
    · rw [Act.meets_nextObserved hbusy hover]
      refine ⟨World.asked?_of_journal rfl, World.asked?_of_journal rfl, ?_⟩
      have hopened := World.part_changeStream Stream.cursor w s s
        (f := fun stream => { stream with progress := .open }) fun _ => rfl
      have hreading := World.part_changeStream Stream.cursor
        (w.changeStream s fun stream => { stream with progress := .open }) s s
        (f := fun stream => { stream with busy := true }) fun _ => rfl
      -- neither mark on the stream touches its cursor
      have hread := readObserved_takes (w := (w.changeStream s fun stream =>
        { stream with progress := .open }).changeStream s fun stream =>
          { stream with busy := true }) w hc (hreading.trans (hopened.trans hs)) rfl
      exact hread.mono fun t₀ r t hr => ⟨World.asked?_of_journal rfl, hr⟩

/-- So does a read that closes its stream at the end. -/
theorem nextOfStream_takes {s : StreamId} (hc : c < w.cursors.length)
    (hs : (w.stream s).cursor = c) :
    (Act.nextOfStream s).Meets (quietly c) (Takes c) w w := by
  rw [Act.meets_nextOfStream]
  refine (nextObserved_takes hc hs).mono fun t₀ r t hr => ?_
  rcases r with failure | _ | item
  · exact hr
  · rw [meets_bind]
    exact takes_of_steady (r := fun _ => .ok none) (Act.closeStream_steady still_tolerant s) nofun
      hr.1 hr.2
  · exact hr

/-! ### Calls that may wait -/

/-- A poll that has its backoff behind it, or never had one, has not just slept. -/
theorem rested_eq_false {x : Stretch World Call Outcome}
    (h : x.number = 1 → (x.origin.cursor c).expired = false) : x.rested c = false := by
  rw [Stretch.rested]
  by_cases hnumber : x.number = 1
  · rw [h hnumber, Bool.and_false, Bool.false_and]
  · rw [beq_eq_false_iff_ne.mpr hnumber, Bool.false_and, Bool.false_and]

/-- What a call makes of the cursor up to the end of a stretch. -/
def Call.LeavesAt (c : CursorId) (call : Call) (w : World) (t : World) : Ending Outcome → Prop
  | .done o => call.Leaves c w (.ok o) t
  | .failed e => call.Leaves c w (.error e) t
  | .waits _ => c < t.cursors.length ∧ t.cursor c = w.cursor c

theorem leavesAt_of_atPause {call : Call} {s₀ s : World} {pause : Pause World Outcome}
    (h : AtPause (quietly c) (call.Leaves c) s₀ s pause) : call.LeavesAt c s₀ s pause.ending := by
  cases pause with
  | done o => exact h
  | fail e => exact h
  | wait what next => exact h.1

/-- Polls and closings leave the cursor alone, however the stretch ends. -/
theorem same_of_leavesAt {call : Call} {t : World} {ending : Ending Outcome}
    (hcall : (∃ i, call = .poll i) ∨ ∃ s, call = .close s) (h : call.LeavesAt c w t ending) :
    c < t.cursors.length ∧ t.cursor c = w.cursor c := by
  rcases hcall with ⟨i, rfl⟩ | ⟨s, rfl⟩ <;> cases ending <;> exact h

/-- What a call leaves behind is the effect of its mark, if it has one. -/
theorem effect_of_leaves {x : Stretch World Call Outcome} (hwait : x.call.MayWait)
    (hrested : ∀ i, x.call = .poll i → x.rested c = false)
    (h : x.call.LeavesAt c x.before x.after x.ending) :
    c < x.after.cursors.length ∧
      ((x.mark? c = none ∧ x.after.cursor c = x.before.cursor c) ∨
        ∃ mark, x.mark? c = some mark ∧
          mark.effect (x.before.cursor c) = .ok (x.after.cursor c)) := by
  obtain ⟨call, origin, number, answer, before, changes, after, ending⟩ := x
  cases call with
  | poll i =>
    -- a poll that has not slept leaves the cursor alone
    have hnone : Stretch.mark? c ⟨.poll i, origin, number, answer, before, changes, after, ending⟩
        = none := by rw [Stretch.mark?, hrested i rfl]; rfl
    obtain ⟨hthere, hsame⟩ := same_of_leavesAt (.inl ⟨i, rfl⟩) h
    exact ⟨hthere, .inl ⟨hnone, hsame⟩⟩
  | close s =>
    obtain ⟨hthere, hsame⟩ := same_of_leavesAt (.inr ⟨s, rfl⟩) h
    exact ⟨hthere, .inl ⟨rfl, hsame⟩⟩
  | next s =>
    cases ending with
    | failed e => exact ⟨h.1, .inl ⟨rfl, h.2⟩⟩
    | waits what => exact ⟨h.1, .inl ⟨rfl, h.2⟩⟩
    | done o =>
      cases o with
      -- only a read that gives an item can move the cursor
      | item item => exact ⟨h.1, Item.effect_mark h.2⟩
      | _ => exact ⟨h.1, .inl ⟨rfl, h.2⟩⟩
  | _ => exact hwait.elim

/-- Enough is known of a call that keeps to the terms and waits, once its backoff is behind it. -/
theorem resumable_of_atPause {x : Stretch World Call Outcome} {pause : Pause World Outcome}
    {s₀ s : World} (hwait : x.call.MayWait)
    (hpoll : ∀ i, x.call = .poll i → x.number = 0 → (x.origin.cursor c).expired = false)
    (h : AtPause (quietly c) (x.call.Leaves c) s₀ s pause) :
    ∀ u ∈ x.waiting? pause, Resumable c u := by
  intro u hu
  cases pause with
  | done o => cases hu
  | fail e => cases hu
  | wait what next =>
    cases hu
    refine .reading hwait (fun i hi => ⟨Nat.succ_pos x.number, fun hnumber => ?_⟩) ?_
    · exact hpoll i hi (Nat.succ.inj hnumber)
    · exact fun answer s' hs' => h.2 answer s' trivial hs' trivial

/-- A stretch is sound in which a call that may wait keeps to the terms. -/
theorem sound_of_meets {call : Call} {origin : World} {number : Nat} {answer : Wakeup}
    {m : Act Outcome} (hwait : call.MayWait)
    (hpoll : ∀ i, call = .poll i →
      0 < number ∧ (number = 1 → (origin.cursor c).expired = false))
    (hm : m.Meets (quietly c) (call.Leaves c) w w) :
    (Stretch.run call origin number answer m w).Sound c (m.advance w).2 := by
  obtain ⟨hchanges, hpause⟩ := meets_iff_advance.mp hm
  -- such a stretch issues no request, and cannot be the beginning of a poll
  have hrequests : (Stretch.run call origin number answer m w).requests = [] :=
    World.requestsOf_eq_nil_iff.mpr hchanges
  have hrested : ∀ i, call = .poll i →
      (Stretch.run call origin number answer m w).rested c = false :=
    fun i hi => rested_eq_false (hpoll i hi).2
  obtain ⟨hthere, heffect⟩ := effect_of_leaves (x := .run call origin number answer m w) hwait
    hrested (leavesAt_of_atPause hpause)
  refine ⟨⟨hthere, heffect, ?requests, ?begins, ?rests⟩, resumable_of_atPause hwait ?pause hpause⟩
  case requests =>
    rw [hrequests]
    simp
  case begins => exact fun i hi hnumber => absurd hnumber (Nat.pos_iff_ne_zero.mp (hpoll i hi).1)
  case rests =>
    intro i hi hr
    rw [hrested i hi] at hr
    cases hr
  case pause => exact fun i hi hnumber => absurd hnumber (Nat.pos_iff_ne_zero.mp (hpoll i hi).1)

/-- A close leaves no mark. -/
theorem close_sound (hc : c < w.cursors.length) (s : StreamId) : (Call.close s).Sound c w := by
  refine sound_of_meets trivial nofun ?_
  exact leaves_of_steady ((Act.closeStream_steady still_tolerant s).bind fun _ => Steady.pure _)
    (fun _ _ _ hc' h => ⟨hc', h⟩) hc rfl

/-- A read marks the cursor with the item that it takes, and nothing else. -/
theorem next_sound {s : StreamId} (hc : c < w.cursors.length) (hs : (w.stream s).cursor = c) :
    (Call.next s).Sound c w := by
  refine sound_of_meets trivial nofun ?_
  show (Act.nextOfStream s >>= _).Meets (quietly c) ((Call.next s).Leaves c) w w
  rw [meets_bind]
  refine (nextOfStream_takes hc hs).mono fun t₀ r t hr => ?_
  rcases r with failure | _ | item
  · exact hr
  · exact hr
  · exact hr

/-! ### Polls -/

/-- What a stretch of a poll comes to that asks from a version. -/
theorem asks_stretch {i : InformerId} {m : Act Outcome} {version : String} {r : WatchRequest}
    (hc : c < w.cursors.length) (hasks : Asks m w c version r) :
    World.requestsOf (m.changes w) = [r] ∧ c < (m.advance w).1.cursors.length ∧
      (m.advance w).1.cursor c = ⟨version, false⟩ ∧
      ∃ after, AtPause (quietly c) ((Call.poll i).Leaves c) after (m.advance w).1
        (m.advance w).2 := by
  obtain ⟨changes, before, after, rest, hgo, hnone, hasked, hcursor, hlength, hcursors, hrest⟩ :=
    hasks
  have hthere : c < after.cursors.length := by
    rw [hcursors, hlength]
    exact hc
  have hafter : after.cursor c = ⟨version, false⟩ := by
    rw [World.cursor_of_cursors hcursors, hcursor]
  -- after the request the poll keeps to the terms of the other calls
  have hmeets : rest.Meets (quietly c) ((Call.poll i).Leaves c) after after :=
    leaves_of_steady (hrest.mono (fun _ _ h => h) fun _ _ => trivial)
      (fun _ _ _ hc' h => ⟨hc', h⟩) hthere rfl
  obtain ⟨hchanges, hpause⟩ := meets_iff_advance.mp hmeets
  obtain ⟨hend, hsame⟩ := same_of_leavesAt (.inl ⟨i, rfl⟩) (leavesAt_of_atPause hpause)
  have hadvance : m.advance w = rest.advance after := hgo.advance_eq
  refine ⟨?requests, ?there, ?cursor, after, ?pause⟩
  case requests =>
    rw [hgo.changes_eq, World.requestsOf_append, hnone, List.nil_append]
    show World.requestsOf ((before, after) :: rest.changes after) = _
    rw [World.requestsOf_cons_of_some hasked, World.requestsOf_eq_nil_iff.mpr hchanges]
  case there =>
    rw [hadvance]
    exact hend
  case cursor => rw [hadvance, hsame, hafter]
  case pause =>
    rw [hadvance]
    exact hpause

/-- A stretch in which a poll asks from a version is sound, when its mark leads to that version. -/
theorem sound_of_asks {i : InformerId} {origin : World} {number : Nat} {answer : Wakeup}
    {m : Act Outcome} {version : String} (hc : c < w.cursors.length)
    (hasks : Asks m w c version ((origin.informer i).request version))
    (hmark : let x := Stretch.run (Call.poll i) origin number answer m w
      (x.mark? c = none ∧ ⟨version, false⟩ = w.cursor c) ∨
        ∃ mark, x.mark? c = some mark ∧ mark.effect (w.cursor c) = .ok ⟨version, false⟩)
    (hfirst : number = 0 → (w.cursor c).expired = false ∧ (origin.cursor c).expired = false) :
    (Stretch.run (Call.poll i) origin number answer m w).Sound c (m.advance w).2 := by
  obtain ⟨hrequests, hthere, hcursor, after, hpause⟩ := asks_stretch (i := i) hc hasks
  replace hrequests : (Stretch.run (Call.poll i) origin number answer m w).requests
      = [(origin.informer i).request version] := hrequests
  have hversion : ((m.advance w).1.cursor c).version = version := by rw [hcursor]
  refine ⟨⟨hthere, ?effect, ?requests, ?begins, ?rests⟩, ?waits⟩
  case effect =>
    rw [show (Stretch.run (Call.poll i) origin number answer m w).after = (m.advance w).1 from rfl,
      hcursor]
    exact hmark
  case requests =>
    intro r hr
    rw [hrequests, List.mem_singleton] at hr
    refine ⟨i, rfl, ?_, ?_⟩
    · rw [hr, Stretch.run, hversion]
    · rw [Stretch.run, hcursor]
  case begins =>
    -- a poll that asks in its first stretch found the cursor clear
    rintro _ ⟨⟩ hnumber
    rw [if_neg (by rw [Stretch.run, (hfirst hnumber).1]; exact Bool.false_ne_true), hrequests,
      Stretch.run, hversion]
  case rests =>
    rintro _ ⟨⟩ -
    rw [hrequests, Stretch.run, hversion]
  case waits => exact resumable_of_atPause trivial (fun _ _ hnumber => (hfirst hnumber).2) hpause

/-- From a cursor that is not armed the first stretch of a poll asks. -/
theorem poll_sound_of_clear {i : InformerId} (hc : (w.informer i).cursor < w.cursors.length)
    (h : (w.cursor (w.informer i).cursor).expired = false) :
    (Call.poll i).Sound (w.informer i).cursor w := by
  have hcursor : w.cursor (w.informer i).cursor
      = ⟨(w.cursor (w.informer i).cursor).version, false⟩ := by rw [← h]
  have hasks := (Act.poll_asks_of_clear hcursor).bind
    (f := fun s => pure (Outcome.opened s)) fun _ => Steady.pure _
  exact sound_of_asks hc hasks (.inl ⟨rfl, hcursor.symm⟩) fun _ => ⟨h, h⟩

/-- From an armed cursor the first stretch of a poll ends in the backoff. -/
theorem poll_sound_of_armed {i : InformerId} (hc : (w.informer i).cursor < w.cursors.length)
    (h : (w.cursor (w.informer i).cursor).expired = true) :
    (Call.poll i).Sound (w.informer i).cursor w := by
  obtain ⟨changes, asleep, hgo, hstill, hcursors⟩ := Act.poll_goes_of_armed h
  -- the poll goes as far as its sleep, and asks for nothing
  have hcall : Goes (Call.poll i).act w changes
      (.wait (.sleep (w.informer i).backoff) (Call.afterBackoff i (w.informer i))) asleep :=
    hgo.bind fun s => pure (Outcome.opened s)
  have hadvance : (Call.poll i).act.advance w
      = (asleep, .wait (.sleep (w.informer i).backoff) (Call.afterBackoff i (w.informer i))) :=
    hcall.advance_eq
  have hrequests : (Stretch.first (Call.poll i) (Call.poll i).act w).requests = [] := by
    rw [Stretch.requests, Stretch.first, Stretch.run, hcall.changes_eq, changes_wait,
      List.append_nil]
    exact World.requestsOf_eq_nil_iff.mpr fun change hchange => (hstill change hchange).2
  have hafter : (Stretch.first (Call.poll i) (Call.poll i).act w).after = asleep := by
    rw [Stretch.first, Stretch.run, hadvance]
  refine ⟨⟨?there, .inl ⟨rfl, ?effect⟩, ?requests, ?begins, ?rests⟩, ?waits⟩
  case there =>
    rw [hafter, hcursors]
    exact hc
  case effect =>
    rw [hafter]
    exact World.cursor_of_cursors hcursors _
  case requests =>
    rw [hrequests]
    simp
  case begins =>
    -- the first stretch of such a poll asks nothing, and waits for its backoff
    rintro _ ⟨⟩ -
    rw [Stretch.first, Stretch.run, if_pos h]
    refine ⟨hrequests, ?_⟩
    rw [hadvance]
    rfl
  case rests =>
    intro j _ hrested
    cases hrested
  case waits =>
    -- what waits then is a poll at rest
    intro u hu
    rw [hadvance] at hu
    cases hu
    exact .resting i rfl rfl h rfl rfl

/-- A poll leaves no mark before its sleep, and one after it. -/
theorem poll_sound {i : InformerId} (hc : c < w.cursors.length)
    (hi : (w.informer i).cursor = c) : (Call.poll i).Sound c w := by
  subst hi
  cases h : (w.cursor (w.informer i).cursor).expired with
  | false => exact poll_sound_of_clear hc h
  | true => exact poll_sound_of_armed hc h

/-- A poll whose sleep is struck by a failure ends with it, and nothing has happened. -/
theorem struck_sound (hc : c < w.cursors.length) (i : InformerId) (origin : World)
    (failure : Failure) :
    (Stretch.run (Call.poll i) origin 1 (.error failure)
      (Call.afterBackoff i (origin.informer i) (.error failure)) w).Sound c
        ((Call.afterBackoff i (origin.informer i) (.error failure)).advance w).2 := by
  -- a sleep that was struck does not count as one
  have hrested : (Stretch.run (Call.poll i) origin 1 (.error failure)
      (Call.afterBackoff i (origin.informer i) (.error failure)) w).rested c = false := by
    rw [Stretch.rested, Stretch.run]
    exact Bool.and_false _
  refine ⟨⟨hc, .inl ⟨?effect, rfl⟩, ?requests, nofun, ?rests⟩, ?waits⟩
  case effect =>
    rw [Stretch.mark?]
    exact if_neg (by rw [hrested]; exact Bool.false_ne_true)
  case requests => exact fun r hr => nomatch hr
  case rests =>
    intro j _ hr
    rw [hrested] at hr
    cases hr
  case waits => exact fun u hu => nomatch hu

/-- A poll that has slept asks, from the version it settles on. -/
theorem rested_sound (hc : c < w.cursors.length) {i : InformerId} {origin : World}
    (horigin : (origin.cursor c).expired = true) (hi : (origin.informer i).cursor = c) :
    (Stretch.run (Call.poll i) origin 1 (.ok ())
      (Call.afterBackoff i (origin.informer i) (.ok ())) w).Sound c
        ((Call.afterBackoff i (origin.informer i) (.ok ())).advance w).2 := by
  have hasks := (Act.afterBackoff_asks i (origin.informer i) w).bind
    (f := fun s => pure (Outcome.opened s)) fun _ => Steady.pure _
  rw [hi] at hasks
  refine sound_of_asks hc hasks (.inr ?_) nofun
  -- the sleep is over, so the mark is one of a restart, or of none if
  -- somebody has disarmed the cursor
  have hrested : (Stretch.run (Call.poll i) origin 1 (.ok ())
      (Call.afterBackoff i (origin.informer i) (.ok ())) w).rested c = true := by
    rw [Stretch.rested, Stretch.run, horigin]
    rfl
  refine ⟨_, if_pos hrested, ?_⟩
  show Mark.effect (if (w.cursor c).expired then .restarted else .skipped) _ = _
  rw [Act.settledVersion]
  split
  · rfl
  · rfl

/-- A waiting call makes a sound stretch, whatever its wait comes to. -/
theorem Resumable.sound {u : Waiting World Call Outcome} (hc : c < w.cursors.length)
    (hu : Resumable c u) (answer : Wakeup) :
    (u.stretch answer w).Sound c ((u.next answer).advance w).2 := by
  cases hu with
  | reading hwait hpoll hmeets => exact sound_of_meets hwait hpoll (hmeets answer w hc)
  | resting i hcall hnumber horigin hi hnext =>
    obtain ⟨call, origin, number, next⟩ := u
    obtain rfl : call = .poll i := hcall
    obtain rfl : number = 1 := hnumber
    obtain rfl : next = Call.afterBackoff i (origin.informer i) := hnext
    replace horigin : (origin.cursor c).expired = true := horigin
    replace hi : (origin.informer i).cursor = c := hi
    cases answer with
    | error failure => exact struck_sound hc i origin failure
    | ok _ => exact rested_sound hc horigin hi

/-- Every call about the cursor begins with a sound stretch. -/
theorem Call.On.sound {call : Call} (hc : c < w.cursors.length) (h : call.On c w) :
    call.Sound c w := by
  cases call with
  | setVersion i version => exact setVersion_sound hc h.2 version
  | resetVersion i => exact resetVersion_sound hc h.2
  | arm i => exact arm_sound hc h.2
  | clear i => exact clear_sound hc h.2
  | copy i query => exact copy_sound hc i query
  | poll i => exact poll_sound hc h.2
  | next s => exact next_sound hc h.2
  | close s => exact close_sound hc s

end Sound

end ResumableWatch
