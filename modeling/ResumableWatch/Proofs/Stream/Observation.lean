import ResumableWatch.Proofs.World.Change
import ResumableWatch.Stream
/-!
# The observation of one item

`Item.effect` is what the observation of an item makes of a cursor, or the failure with which it
refuses the item.  `observe_goes` says that an observation is nothing more: it takes no wait, issues
no request, touches no stream and no connection, and leaves a cursor alone if it fails.
-/

namespace ResumableWatch

open ResumableWatch.Fiber

/-! ### Effects -/

namespace Cursor

/-- What the observation of a version makes of a cursor; an empty version is none. -/
def observe (incoming : String) (k : Cursor) : Except Failure Cursor :=
  if incoming.isEmpty then .ok k
  else
    match k.merge incoming with
    | .error cause => .error (.numeral cause)
    | .ok merged => .ok merged

/-- Merging changes the version only. -/
theorem merge_eq {k k' : Cursor} {incoming : String} (h : k.merge incoming = .ok k') :
    Version.merge k.version incoming = .ok k'.version ∧ k'.expired = k.expired := by
  rw [Cursor.merge] at h
  cases hv : Version.merge k.version incoming with
  | error cause =>
    rw [hv] at h
    cases h
  | ok version =>
    rw [hv] at h
    cases h
    exact ⟨rfl, rfl⟩

theorem observe_eq {k k' : Cursor} {incoming : String} (h : k.observe incoming = .ok k') :
    (incoming.isEmpty = true ∧ k' = k) ∨
      (incoming.isEmpty = false ∧ k.merge incoming = .ok k') := by
  rw [Cursor.observe] at h
  split at h
  · rename_i hempty
    cases h
    exact .inl ⟨hempty, rfl⟩
  · rename_i hempty
    split at h
    · cases h
    · rename_i merged hmerge
      cases h
      exact .inr ⟨by simpa using hempty, hmerge⟩

end Cursor

namespace Item

/-- What the observation of an item makes of a cursor. -/
def effect : Item → Cursor → Except Failure Cursor
  | .failure f, k => if f.isOwn then .ok k else .error (.missingAttribute f.typeName "type")
  | .event e, k =>
    match e.status with
    | some status => .ok (if status.isGone then k.arm else k)
    | none =>
      match e.version with
      | .error f => .error f
      | .ok incoming => k.observe incoming

/-- The version that an item carries, unless it is empty; a status takes its place. -/
def version? : Item → Option String
  | .failure _ => none
  | .event e =>
    match e.status, e.version with
    | none, .ok incoming => if incoming.isEmpty then none else some incoming
    | _, _ => none

/-- Whether the server says with an item that the version has left its history. -/
def isExpiry : Item → Bool
  | .failure _ => false
  | .event e =>
    match e.status with
    | some status => status.isGone
    | none => false

/-- The observed items, by what they make of a cursor. -/
theorem cases_of_effect {item : Item} {k k' : Cursor} (h : item.effect k = .ok k') :
    (item.version? = none ∧ k' = if item.isExpiry then k.arm else k) ∨
      ∃ incoming, item.version? = some incoming ∧ item.isExpiry = false ∧
        k.merge incoming = .ok k' := by
  cases item with
  | failure f =>
    rw [effect] at h
    split at h
    · cases h
      exact .inl ⟨rfl, rfl⟩
    · cases h
  | event e =>
    cases hs : e.status with
    | some status =>
      simp only [effect, hs, Except.ok.injEq] at h
      refine .inl ⟨by simp only [version?, hs], ?_⟩
      simp only [isExpiry, hs, ← h]
    | none =>
      cases hv : e.version with
      | error f =>
        simp only [effect, hs, hv] at h
        cases h
      | ok incoming =>
        simp only [effect, hs, hv] at h
        -- An empty version is passed over, any other is merged.
        rcases Cursor.observe_eq h with ⟨hempty, rfl⟩ | ⟨hempty, hmerge⟩
        · refine .inl ⟨by simp only [version?, hs, hv, hempty, if_true], ?_⟩
          simp only [isExpiry, hs, Bool.false_eq_true, if_false]
        · refine .inr ⟨incoming, ?_, by simp only [isExpiry, hs], hmerge⟩
          simp only [version?, hs, hv, hempty, Bool.false_eq_true, if_false]

end Item

/-! ### Observations -/

namespace Act

open Log

theorem markDesynced_goes (c : CursorId) (owner : Option InformerId) (w : World) :
    ∃ changes t, Goes (markDesynced owner) w changes (pure ()) t ∧
      Confined c w (w.cursor c) changes t := by
  cases owner with
  | none => exact ⟨_, _, .here, Confined.refl c w⟩
  | some i => exact ⟨_, _, .read (.write .here), Confined.changeInformer c w i _⟩

theorem observeStatus_goes {s : Stream} {w : World} (hc : s.cursor < w.cursors.length)
    (status : Status) :
    ∃ changes t, Goes (observeStatus s status) w changes (pure ()) t ∧
      Confined s.cursor w
        (if status.isGone then (w.cursor s.cursor).arm else w.cursor s.cursor) changes t := by
  let reason := if status.reason.isEmpty then toString status.code else status.reason
  let fields := [("informer", Json.text s.name), ("code", .int status.code),
    ("reason", .text status.reason), ("message", .text status.message)]
  have hcounted := Confined.metrics s.cursor w (·.countError s.name reason)
  rw [observeStatus]
  -- The error is counted in either case; only one that says gone arms the cursor.
  cases hgone : status.isGone with
  | false =>
    rw [if_neg Bool.false_ne_true, if_neg Bool.false_ne_true]
    exact ⟨_, _, .read (.write (.read (.write .here))), hcounted.trans (Confined.log _ _ _ _ _ _)⟩
  | true =>
    rw [if_pos rfl, if_pos rfl]
    have hlogged := hcounted.trans
      (Confined.log s.cursor _ .warning ("intercept." ++ s.name) "watch_desynced" fields)
    have harmed := hlogged.trans
      (Confined.changeCursor (hlogged.length.symm ▸ hc) Cursor.arm)
    rw [hlogged.cursor] at harmed
    obtain ⟨marking, t, hmark, hmarked⟩ := markDesynced_goes s.cursor s.owner _
    have hall := harmed.trans hmarked
    rw [harmed.cursor] at hall
    exact ⟨_, t, .read (.write (.read (.write (.read (.write hmark))))), hall⟩

theorem observeVersion_goes {s : Stream} {w : World} (hc : s.cursor < w.cursors.length)
    (incoming : String) :
    ∃ changes t,
      Goes (observeVersion s incoming) w changes
        (Fiber.ofExcept (((w.cursor s.cursor).observe incoming).map fun _ => ())) t ∧
      Confined s.cursor w
        (((w.cursor s.cursor).observe incoming).toOption.getD (w.cursor s.cursor)) changes t := by
  rw [observeVersion, Cursor.observe]
  cases hempty : incoming.isEmpty with
  | true => exact ⟨_, _, .here, Confined.refl s.cursor w⟩
  | false =>
    rw [if_neg Bool.false_ne_true, if_neg Bool.false_ne_true]
    -- the merge is decided on the cursor as it is read, and written before anybody else can act
    cases hmerge : (w.cursor s.cursor).merge incoming with
    | error cause =>
      refine ⟨_, _, .read ?_, Confined.refl s.cursor w⟩
      show Goes (match (w.cursor s.cursor).merge incoming with
        | .error cause => Fiber.fail (.numeral cause)
        | .ok _ => _) w _ _ _
      rw [hmerge]
      exact .here
    | ok merged =>
      have hchanged := Confined.changeCursor hc fun _ => merged
      have hlogged := hchanged.trans (Confined.log s.cursor _ .debug ("intercept." ++ s.name)
        "cursor_advanced" [("informer", .text s.name), ("version", .text merged.version),
          ("received", .text incoming)])
      rw [hchanged.cursor] at hlogged
      refine ⟨_, _, .read ?_, hlogged⟩
      show Goes (match (w.cursor s.cursor).merge incoming with
        | .error _ => _
        | .ok _ => _) w _ _ _
      rw [hmerge]
      exact .read (.write (.read (.write .here)))

theorem observe_goes {s : Stream} {w : World} (hc : s.cursor < w.cursors.length) (item : Item) :
    ∃ changes t,
      Goes (observe s item) w changes
        (Fiber.ofExcept ((item.effect (w.cursor s.cursor)).map fun _ => ())) t ∧
      Confined s.cursor w
        ((item.effect (w.cursor s.cursor)).toOption.getD (w.cursor s.cursor)) changes t := by
  cases item with
  | failure f =>
    rw [observe, Item.effect]
    cases hown : f.isOwn with
    | false => exact ⟨_, _, .here, Confined.refl s.cursor w⟩
    | true =>
      exact ⟨_, _, .read (.write (.read (.write .here))),
        (Confined.metrics s.cursor w _).trans (Confined.log s.cursor _ _ _ _ _)⟩
  | event e =>
    have hcounted := Confined.metrics s.cursor w (·.countEvent s.name e.type.name)
    rw [observe, Item.effect]
    cases hs : e.status with
    | some status =>
      obtain ⟨changes, t, hgo, hconf⟩ := observeStatus_goes (w := w.changeMetrics _) hc status
      exact ⟨_, t, .read (.write hgo), hcounted.trans hconf⟩
    | none =>
      cases hv : e.version with
      | error f => exact ⟨_, _, .read (.write .here), hcounted⟩
      | ok incoming =>
        obtain ⟨changes, t, hgo, hconf⟩ := observeVersion_goes (w := w.changeMetrics _) hc incoming
        exact ⟨_, t, .read (.write hgo), hcounted.trans hconf⟩

end Act

end ResumableWatch
