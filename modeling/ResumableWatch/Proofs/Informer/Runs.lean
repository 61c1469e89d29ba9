import Mathlib.Data.List.Basic
import ResumableWatch.Proofs.Informer.Calls
/-!
# Runs of a session

What holds along every run of calls about one cursor, in whatever order they are made and go on.

The history of a run is the list of the marks of its stretches.  `Reaches.runLaw` says that each
stretch finds the cursor where the history up to it says, and leaves it where the history with it
says.  From this follow the version law (`request_follows_history`) and what becomes of the answer
that a version has expired (`backsOff_after_expired`).
-/

namespace ResumableWatch

open Interplay

/-! ### Histories of runs -/

/-- What the stretches of a run meant to a cursor. -/
def history (c : CursorId) (past : List (Stretch World Call Outcome)) : List Mark :=
  past.filterMap (·.mark? c)

theorem history_append (c : CursorId) (first second : List (Stretch World Call Outcome)) :
    history c (first ++ second) = history c first ++ history c second := List.filterMap_append

theorem history_cons (c : CursorId) (x : Stretch World Call Outcome)
    (rest : List (Stretch World Call Outcome)) :
    history c (x :: rest) = (x.mark? c).toList ++ history c rest := by
  cases h : x.mark? c with
  | none => exact List.filterMap_cons_none h
  | some mark => exact List.filterMap_cons_some h

/-- A lawful stretch keeps step with the history. -/
theorem Stretch.Lawful.follows {c : CursorId} {x : Stretch World Call Outcome} (hx : x.Lawful c)
    {start : Cursor} {past : List (Stretch World Call Outcome)}
    (h : Follows start (history c past) (x.before.cursor c)) :
    Follows start (history c (past ++ [x])) (x.after.cursor c) := by
  rw [history_append, history_cons]
  rcases hx.effect with ⟨hnone, hsame⟩ | ⟨mark, hmark, heffect⟩
  · rw [hnone, hsame, show (none : Option Mark).toList ++ history c [] = [] from rfl,
      List.append_nil]
    exact h
  · rw [hmark]
    exact h.snoc heffect

/-- What holds of a stretch that a run has made after others. -/
structure Kept (c : CursorId) (start : Cursor) (earlier : List (Stretch World Call Outcome))
    (x : Stretch World Call Outcome) : Prop where
  lawful : x.Lawful c
  before : Follows start (history c earlier) (x.before.cursor c)

theorem Kept.after {c : CursorId} {start : Cursor} {earlier : List (Stretch World Call Outcome)}
    {x : Stretch World Call Outcome} (h : Kept c start earlier x) :
    Follows start (history c (earlier ++ [x])) (x.after.cursor c) :=
  h.lawful.follows h.before

/-- The law of runs: the cursor stands where the history says, now and at each stretch. -/
structure RunLaw (c : CursorId) (start : Cursor) (t : World)
    (past : List (Stretch World Call Outcome)) : Prop where
  there : c < t.cursors.length
  now : Follows start (history c past) (t.cursor c)
  kept : ∀ earlier x later, past = earlier ++ x :: later → Kept c start earlier x

namespace RunLaw

variable {c : CursorId} {start : Cursor} {t : World} {past : List (Stretch World Call Outcome)}

/-- A lawful stretch from here carries the law on. -/
theorem snoc (h : RunLaw c start t past) {x : Stretch World Call Outcome} (hbefore : x.before = t)
    (hx : x.Lawful c) : RunLaw c start x.after (past ++ [x]) where
  there := hx.there
  now := hx.follows (by rw [hbefore]; exact h.now)
  kept := by
    -- a stretch of the longer past is the new one, or one of the others
    intro earlier y later hpast
    rcases later.eq_nil_or_concat' with rfl | ⟨init, last, rfl⟩
    · obtain ⟨rfl, heq⟩ := List.append_inj' hpast rfl
      obtain rfl : x = y := List.head_eq_of_cons_eq heq
      exact ⟨hx, by rw [hbefore]; exact h.now⟩
    · rw [← List.cons_append, ← List.append_assoc] at hpast
      exact h.kept earlier y init (List.append_inj' hpast rfl).1

end RunLaw

/-- The law of runs holds of every run. -/
theorem Reaches.runLaw {c : CursorId} {w : World} (hc : c < w.cursors.length)
    {p : Interplay World Call Outcome} (h : Reaches (sharing c) w p) :
    RunLaw c (w.cursor c) p.state p.past := by
  refine (h.law (RunLaw c (w.cursor c)) (Resumable c) ⟨hc, Follows.refl _, by simp⟩ ?_ ?_ ?_).1
  · intro t past call hlaw hallowed
    obtain ⟨hlawful, hwaiting⟩ := hallowed.sound hlaw.there
    exact ⟨hlaw.snoc rfl hlawful, hwaiting⟩
  · intro t past u answer hlaw hknown _
    obtain ⟨hlawful, hwaiting⟩ := hknown.sound hlaw.there answer
    exact ⟨hlaw.snoc rfl hlawful, hwaiting⟩
  · intro t t' past hlaw hothers
    exact ⟨hothers.2 hlaw.there, by rw [hothers.1]; exact hlaw.now, hlaw.kept⟩

/-- Calls that begin one after the other. -/
def inTurn (w : World) (calls : List Call) : Interplay World Call Outcome :=
  calls.foldl (fun p call => p.begin call call.act) { state := w }

/-! ### The version law -/

/-- **The version law.**  Every watch request of a run is issued by a poll, asks the query of the
informer that polls, and resumes from the version after the history up to it: the versions seen
since the latest rewind point are merged into the version there. -/
theorem request_follows_history {c : CursorId} {w : World} (hc : c < w.cursors.length)
    {p : Interplay World Call Outcome} (h : Reaches (sharing c) w p)
    {earlier later : List (Stretch World Call Outcome)} {x : Stretch World Call Outcome}
    (hp : p.past = earlier ++ x :: later) {r : WatchRequest} (hr : r ∈ x.requests) :
    ∃ i version, x.call = .poll i ∧
      versionAfter (w.cursor c).version (history c (earlier ++ [x])) = .ok version ∧
      r = (x.origin.informer i).request version ∧ r.version? = some (.text version) := by
  have hkept := (Reaches.runLaw hc h).kept earlier x later hp
  obtain ⟨i, hcall, hrequest, -⟩ := hkept.lawful.requests r hr
  refine ⟨i, (x.after.cursor c).version, hcall, hkept.after.version, hrequest, ?_⟩
  rw [hrequest]
  exact Informer.version?_request _ _

/-- A session of one informer, to which the server sends one item, of version 7. -/
def oneItem : World where
  informers := [{ transport := .feed }]
  server.script := [{
    reply := .stream [.item none (.ok (.event {
      type := .added
      raw := .object [("metadata", .object [("resourceVersion", .text "7")])] }))] none true }]

/-- A caller sets the version to 5, polls, and reads the item. -/
def oneItemRead : Interplay World Call Outcome :=
  inTurn oneItem [.setVersion 0 "5", .poll 0, .next 0]

/-- The next poll resumes from the version of the item. -/
theorem oneItemRead_resumes :
    ∃ r ∈ (Stretch.first (.poll 0) (Call.act (.poll 0)) oneItemRead.state).requests,
      r.version? = some (.text "7") := by
  have hreaches : Reaches (sharing 0) oneItem (oneItemRead.begin (.poll 0) (Call.act (.poll 0))) :=
    .begin (.begin (.begin (.begin .start ⟨Nat.one_pos, rfl⟩) ⟨Nat.one_pos, rfl⟩)
      ⟨Nat.one_pos, rfl⟩) ⟨Nat.one_pos, rfl⟩
  have hpast : (oneItemRead.begin (.poll 0) (Call.act (.poll 0))).past
      = oneItemRead.past ++ .first (.poll 0) (Call.act (.poll 0)) oneItemRead.state :: [] := rfl
  have hrequests : (Stretch.first (.poll 0) (Call.act (.poll 0)) oneItemRead.state).requests
      = [⟨none, [("resource_version", .text "7")]⟩] := rfl
  have hmem : ⟨none, [("resource_version", .text "7")]⟩
      ∈ (Stretch.first (.poll 0) (Call.act (.poll 0)) oneItemRead.state).requests := by
    rw [hrequests]
    exact List.mem_singleton_self _
  obtain ⟨i, version, -, hversion, -, hr⟩ :=
    request_follows_history Nat.one_pos hreaches hpast hmem
  have hseven : versionAfter "0" (history 0 (oneItemRead.past ++
      [.first (.poll 0) (Call.act (.poll 0)) oneItemRead.state])) = .ok "7" := rfl
  obtain rfl : version = "7" := Except.ok.inj (hversion.symm.trans hseven)
  exact ⟨_, hmem, hr⟩

/-! ### Expired versions -/

namespace Stretch

variable (x : Stretch World Call Outcome)

/-- An item of an open stream says that the version has expired. -/
def ExpiredInStream : Prop :=
  ∃ s item, x.call = .next s ∧ x.ending = .done (.item item) ∧ item.isExpiry = true

/-- The server rejects a watch request because its version has expired. -/
def ExpiredAtRequest : Prop :=
  ∃ i message, x.call = .poll i ∧ x.ending = .failed (.transport message (some Status.goneCode))

/-- A poll goes to sleep before it asks. -/
def BacksOff (i : InformerId) : Prop :=
  x.requests = [] ∧ x.ending = .waits (.sleep (x.origin.informer i).backoff)

variable {x} {c : CursorId}

/-- A poll backs off exactly if it finds its cursor armed. -/
theorem Lawful.backsOff_iff {i : InformerId} (hx : x.Lawful c) (hcall : x.call = .poll i)
    (hnumber : x.number = 0) : x.BacksOff i ↔ (x.before.cursor c).expired = true := by
  have hbegins := hx.begins i hcall hnumber
  cases h : (x.before.cursor c).expired with
  | true =>
    rw [h, if_pos rfl] at hbegins
    exact iff_of_true hbegins rfl
  | false =>
    rw [h, if_neg Bool.false_ne_true] at hbegins
    refine iff_of_false (fun hback => ?_) Bool.false_ne_true
    rw [hback.1] at hbegins
    cases hbegins

/-- From a cursor that is still armed when the backoff is over, a poll asks for everything. -/
theorem Lawful.requests_of_rested {i : InformerId} (hx : x.Lawful c) (hcall : x.call = .poll i)
    (hrested : x.rested c = true) (harmed : (x.before.cursor c).expired = true) :
    x.requests = [(x.origin.informer i).request Version.origin] := by
  have hmark : x.mark? c = some .restarted := by
    simp only [mark?, hcall, hrested, harmed, if_true]
  rcases hx.effect with ⟨hnone, -⟩ | ⟨mark, hmark', heffect⟩
  · rw [hmark] at hnone
    cases hnone
  · obtain rfl : Mark.restarted = mark := Option.some.inj (hmark.symm.trans hmark')
    rw [hx.rests i hcall hrested, ← Except.ok.inj heffect]
    rfl

/-- What an answer that the version has expired means to the history: a mark of its own only when it
comes in an open stream. -/
theorem armedAfter_of_expired (hx : x.ExpiredInStream ∨ x.ExpiredAtRequest) (armed : Bool) :
    armedAfter armed (x.mark? c).toList = true ↔
      x.ExpiredInStream ∨ (armed = true ∧ x.rested c = false) := by
  rcases hx with ⟨s, item, hcall, hending, hexpiry⟩ | ⟨i, message, hcall, hending⟩
  · have hmark : x.mark? c = some .expiry := by
      simp only [mark?, hcall, hending, Item.mark?_of_isExpiry hexpiry]
    rw [hmark]
    exact iff_of_true rfl (.inl ⟨s, item, hcall, hending, hexpiry⟩)
  · have hstream : ¬ x.ExpiredInStream := by
      rintro ⟨s, item, hnext, -, -⟩
      rw [hcall] at hnext
      cases hnext
    rw [or_iff_right hstream]
    cases hrested : x.rested c with
    | false =>
      have hmark : x.mark? c = none := by
        simp only [mark?, hcall, hrested, Bool.false_eq_true, if_false]
      rw [hmark, and_iff_left rfl]
      exact Iff.rfl
    | true =>
      -- the rejected request came after a backoff, at whose end the cursor was disarmed
      have hmark : x.mark? c
          = some (if (x.before.cursor c).expired then .restarted else .skipped) := by
        simp only [mark?, hcall, hrested, if_true]
      rw [hmark]
      refine iff_of_false ?_ fun h => by cases h.2
      split
      · exact Bool.false_ne_true
      · exact Bool.false_ne_true

end Stretch

/-- **Expired versions.**  When the server answers that a version has expired, and nothing arms or
disarms the cursor before the next poll begins, that poll backs off exactly if the answer came in an
open stream, or if the cursor had been armed before and was left armed.  So it does not back off
after a rejected request, as a rule: it asks at once for the version after the history.  A poll
that did back off, and finds the cursor still armed, asks for everything. -/
theorem backsOff_after_expired {c : CursorId} {w : World} (hc : c < w.cursors.length)
    {p : Interplay World Call Outcome} (h : Reaches (sharing c) w p)
    {earlier between later : List (Stretch World Call Outcome)}
    {x y : Stretch World Call Outcome} (hp : p.past = earlier ++ x :: (between ++ y :: later))
    (hx : x.ExpiredInStream ∨ x.ExpiredAtRequest) {i : InformerId} (hy : y.call = .poll i)
    (hfirst : y.number = 0) (hbetween : ∀ mark ∈ history c between, mark.OnVersion) :
    (y.BacksOff i ↔ x.ExpiredInStream ∨
      (armedAfter (w.cursor c).expired (history c earlier) = true ∧ x.rested c = false)) ∧
    (¬ y.BacksOff i → ∃ version,
      versionAfter (w.cursor c).version (history c (earlier ++ x :: between)) = .ok version ∧
        y.requests = [(y.origin.informer i).request version]) ∧
    ∀ z ∈ later, z.call = .poll i → z.rested c = true → (z.before.cursor c).expired = true →
      z.requests = [(z.origin.informer i).request Version.origin] := by
  have hlaw := Reaches.runLaw hc h
  have hy' : p.past = (earlier ++ x :: between) ++ y :: later := by
    rw [hp, List.append_assoc, List.cons_append]
  have hkept := hlaw.kept _ y later hy'
  -- nothing between the answer and the poll touches the flag, so the poll finds it as it was then
  have harmed : (y.before.cursor c).expired
      = armedAfter (armedAfter (w.cursor c).expired (history c earlier)) (x.mark? c).toList := by
    rw [← hkept.before.expired, history_append, history_cons, ← List.append_assoc,
      armedAfter_append, armedAfter_of_onVersion hbetween, armedAfter_append]
  refine ⟨?_, ?_, ?_⟩
  · rw [hkept.lawful.backsOff_iff hy hfirst, harmed]
    exact Stretch.armedAfter_of_expired hx _
  · -- without a backoff the poll asks in its first stretch, for the version it finds
    intro hback
    rw [hkept.lawful.backsOff_iff hy hfirst] at hback
    have hbegins := hkept.lawful.begins i hy hfirst
    rw [if_neg hback] at hbegins
    have hrested : y.rested c = false := rested_eq_false fun hnumber => by omega
    have hmark : y.mark? c = none := by
      simp only [Stretch.mark?, hy, hrested, Bool.false_eq_true, if_false]
    have hversion := hkept.after.version
    rw [history_append, history_cons, hmark, show (none : Option Mark).toList ++ history c [] = []
      from rfl, List.append_nil] at hversion
    exact ⟨_, hversion, hbegins⟩
  · intro z hz hcall hrested hexpired
    obtain ⟨front, back, rfl⟩ := List.append_of_mem hz
    have hz' : p.past = (earlier ++ x :: (between ++ y :: front)) ++ z :: back := by
      rw [hp, List.append_assoc, List.cons_append, List.append_assoc, List.cons_append]
    exact (hlaw.kept _ z back hz').lawful.requests_of_rested hcall hrested hexpired

/-- The server says that the version has expired. -/
def gone : Item := .event { type := .error, status := some { code := Status.goneCode } }

/-- A session of one informer, to which the server sends just that. -/
def expiring : World where
  informers := [{ transport := .feed }]
  server.script := [{ reply := .stream [.item none (.ok gone)] none true }]

/-- A caller polls, reads that, and polls again. -/
def expiringRead : Interplay World Call Outcome := inTurn expiring [.poll 0, .next 0, .poll 0]

/-- The second of these polls, in its backoff. -/
def expiringAsleep : Waiting World Call Outcome :=
  expiringRead.waiting.head (List.cons_ne_nil _ _)

/-- The second poll backs off, and then it asks for everything. -/
theorem expiringRead_asks_for_everything :
    (expiringAsleep.stretch (.ok ()) expiringRead.state).requests.map (·.version?)
      = [some (.text "0")] := by
  have hreaches : Reaches (sharing 0) expiring expiringRead :=
    .begin (.begin (.begin .start ⟨Nat.one_pos, rfl⟩) ⟨Nat.one_pos, rfl⟩) ⟨Nat.one_pos, rfl⟩
  have hwaiting : expiringRead.waiting = [] ++ expiringAsleep :: [] := rfl
  have hwoken : Reaches (sharing 0) expiring
      (expiringRead.wake expiringAsleep ([] ++ []) (.ok ())) := hreaches.wake hwaiting trivial
  have hpast : (expiringRead.wake expiringAsleep ([] ++ []) (.ok ())).past
      = (inTurn expiring [.poll 0]).past
        ++ .first (.next 0) (Call.act (.next 0)) (inTurn expiring [.poll 0]).state
        :: ([] ++ .first (.poll 0) (Call.act (.poll 0)) (inTurn expiring [.poll 0, .next 0]).state
        :: [expiringAsleep.stretch (.ok ()) expiringRead.state]) := rfl
  have hexpired : (Stretch.first (.next 0) (Call.act (.next 0))
      (inTurn expiring [.poll 0]).state).ExpiredInStream := ⟨0, gone, rfl, rfl, rfl⟩
  obtain ⟨-, -, hlater⟩ :=
    backsOff_after_expired Nat.one_pos hwoken hpast (.inl hexpired) rfl rfl nofun
  rw [hlater _ List.mem_cons_self rfl rfl rfl]
  rfl

/-- A session of one informer over HTTP that stands at version 5, which the server rejects. -/
def rejecting : World where
  cursors := [{ version := "5" }]
  informers := [{ transport := .http { name := "kubernetes" } }]
  server.script := [{ reply := .raise (.rejected (some Status.goneCode) (some "Gone")) }]

/-- After the rejection the next poll asks for the same version again, without a backoff. -/
theorem rejecting_asks_again :
    ∃ p x y, Reaches (sharing 0) rejecting p ∧ p.past = [x, y] ∧ x.ExpiredAtRequest ∧
      y.call = .poll 0 ∧ y.number = 0 ∧ ¬ y.BacksOff 0 ∧
      x.requests.map (·.version?) = [some (.text "5")] ∧
      y.requests.map (·.version?) = [some (.text "5")] := by
  have hreaches : Reaches (sharing 0) rejecting (inTurn rejecting [.poll 0, .poll 0]) :=
    .begin (.begin .start ⟨Nat.one_pos, rfl⟩) ⟨Nat.one_pos, rfl⟩
  refine ⟨_, _, _, hreaches, rfl, ⟨0, _, rfl, rfl⟩, rfl, rfl, ?_, rfl, rfl⟩
  intro hback
  exact List.cons_ne_nil _ _ hback.1

end ResumableWatch
