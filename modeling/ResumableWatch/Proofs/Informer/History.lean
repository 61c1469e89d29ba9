import ResumableWatch.Proofs.Stream.Observation
/-!
# Histories of a cursor

What happens to a cursor in the course of a session, and what a history of such marks makes of it.

`versionAfter` is the version law: take the latest point at which the version was set or started
over, and merge the versions seen since then into it, in order.  `armedAfter` is the law of the
flag.
`Follows.snoc` says that both laws keep step with the cursor when one more mark is made.
-/

namespace ResumableWatch

/-- What happens to a cursor. -/
inductive Mark where
  /-- A caller sets the version, or resets it to the origin. -/
  | set (version : String)
  /-- An event with a version is observed. -/
  | seen (version : String)
  /-- The server says that the version has expired. -/
  | expiry
  /-- The expiry is withdrawn. -/
  | withdrawn
  /-- A poll has slept its backoff, and the cursor is armed still. -/
  | restarted
  /-- A poll has slept its backoff, and the cursor is not armed any more. -/
  | skipped

namespace Mark

/-- What a mark makes of a cursor. -/
def effect : Mark → Cursor → Except Number.NumeralError Cursor
  | set version, k => .ok (k.set version)
  | seen incoming, k => k.merge incoming
  | expiry, k => .ok k.arm
  | withdrawn, k => .ok k.clear
  | restarted, k => .ok k.reset.clear
  | skipped, k => .ok k.clear

/-- The latest rewind point and the versions seen since then, with one more mark. -/
def track : String × List String → Mark → String × List String
  | _, set version => (version, [])
  | _, restarted => (Version.origin, [])
  | (base, versions), seen incoming => (base, versions ++ [incoming])
  | latest, _ => latest

/-- The marks that neither arm nor disarm. -/
def OnVersion : Mark → Prop
  | set _ | seen _ => True
  | _ => False

/-- Whether the cursor is armed, with one more mark. -/
def arms : Bool → Mark → Bool
  | _, expiry => true
  | _, withdrawn => false
  | _, restarted => false
  | _, skipped => false
  | armed, _ => armed

end Mark

/-! ### The laws -/

/-- The latest rewind point of a history, and the versions seen since then. -/
def latest (start : String) (history : List Mark) : String × List String :=
  history.foldl Mark.track (start, [])

/-- The version after a history: the versions seen since the latest rewind point are merged into
the version there. -/
def versionAfter (start : String) (history : List Mark) : Except Number.NumeralError String :=
  (latest start history).2.foldlM Version.merge (latest start history).1

/-- Whether the cursor is armed after a history. -/
def armedAfter (start : Bool) (history : List Mark) : Bool := history.foldl Mark.arms start

theorem armedAfter_append (start : Bool) (first second : List Mark) :
    armedAfter start (first ++ second) = armedAfter (armedAfter start first) second :=
  List.foldl_append

/-- Marks on the version alone leave the flag alone. -/
theorem armedAfter_of_onVersion {history : List Mark} (h : ∀ mark ∈ history, mark.OnVersion)
    (start : Bool) : armedAfter start history = start := by
  induction history with
  | nil => rfl
  | cons mark rest ih =>
    have hrest := ih fun m hm => h m (List.mem_cons_of_mem mark hm)
    cases mark with
    | set version => exact hrest
    | seen incoming => exact hrest
    | _ => exact (h _ List.mem_cons_self).elim

theorem armedAfter_snoc (start : Bool) (history : List Mark) (mark : Mark) :
    armedAfter start (history ++ [mark]) = Mark.arms (armedAfter start history) mark := by
  rw [armedAfter_append]
  rfl

theorem latest_snoc (start : String) (history : List Mark) (mark : Mark) :
    latest start (history ++ [mark]) = Mark.track (latest start history) mark := by
  rw [latest, List.foldl_append]
  rfl

/-- One more mark carries the version law on. -/
theorem versionAfter_snoc {start : String} {history : List Mark} {k k' : Cursor}
    (h : versionAfter start history = .ok k.version) {mark : Mark}
    (hmark : mark.effect k = .ok k') :
    versionAfter start (history ++ [mark]) = .ok k'.version := by
  rw [versionAfter] at h
  rw [versionAfter, latest_snoc]
  cases mark with
  | set version =>
    cases hmark
    rfl
  | restarted =>
    cases hmark
    rfl
  | seen incoming =>
    -- the version that was merged so far is merged with one more
    have hmerge := (Cursor.merge_eq hmark).1
    show ((latest start history).2 ++ [incoming]).foldlM Version.merge (latest start history).1 = _
    rw [List.foldlM_append, h]
    show [incoming].foldlM Version.merge k.version = _
    rw [List.foldlM_cons, hmerge]
    rfl
  | expiry =>
    cases hmark
    exact h
  | withdrawn =>
    cases hmark
    exact h
  | skipped =>
    cases hmark
    exact h

/-- A mark arms and disarms as the cursor is armed and disarmed. -/
theorem Mark.arms_of_effect {mark : Mark} {k k' : Cursor} (hmark : mark.effect k = .ok k') :
    Mark.arms k.expired mark = k'.expired := by
  cases mark with
  | seen incoming => exact (Cursor.merge_eq hmark).2.symm
  | _ =>
    cases hmark
    rfl

/-- A cursor stands where the history of it from a start says. -/
structure Follows (start : Cursor) (history : List Mark) (k : Cursor) : Prop where
  version : versionAfter start.version history = .ok k.version
  expired : armedAfter start.expired history = k.expired

namespace Follows

variable {start k k' : Cursor} {history : List Mark}

theorem refl (start : Cursor) : Follows start [] start := ⟨rfl, rfl⟩

/-- One more mark carries both laws on. -/
theorem snoc (h : Follows start history k) {mark : Mark} (hmark : mark.effect k = .ok k') :
    Follows start (history ++ [mark]) k' where
  version := versionAfter_snoc h.version hmark
  expired := by
    rw [armedAfter_snoc, h.expired]
    exact Mark.arms_of_effect hmark

end Follows

/-- What an observed item is to the history of a cursor. -/
def Item.mark? (item : Item) : Option Mark :=
  match item.version? with
  | some incoming => some (.seen incoming)
  | none => if item.isExpiry then some .expiry else none

/-- A status that says the version has expired arms the cursor. -/
theorem Item.mark?_of_isExpiry {item : Item} (h : item.isExpiry = true) :
    item.mark? = some .expiry := by
  cases item with
  | failure f => cases h
  | event e =>
    cases hs : e.status with
    | none => simp [isExpiry, hs] at h
    | some status => simp [mark?, version?, hs, h]

/-- The observation of an item does to a cursor what its mark does, or nothing without a mark. -/
theorem Item.effect_mark {item : Item} {k k' : Cursor} (h : item.effect k = .ok k') :
    (item.mark? = none ∧ k' = k) ∨ ∃ mark, item.mark? = some mark ∧ mark.effect k = .ok k' := by
  rcases Item.cases_of_effect h with ⟨hv, rfl⟩ | ⟨incoming, hv, -, hmerge⟩
  · cases hexpiry : item.isExpiry with
    | false => exact .inl ⟨by simp [mark?, hv, hexpiry], rfl⟩
    | true => exact .inr ⟨.expiry, by simp [mark?, hv, hexpiry], rfl⟩
  · exact .inr ⟨.seen incoming, by simp [mark?, hv], hmerge⟩

/-! ### Histories of observed items -/

/-- The versions of observed items are merged into the version that was there before. -/
theorem versionAfter_items (start : String) (items : List Item) :
    versionAfter start (items.filterMap Item.mark?)
      = (items.filterMap Item.version?).foldlM Version.merge start := by
  -- items never rewind: each adds its version or none
  have hlatest (versions : List String) :
      (items.filterMap Item.mark?).foldl Mark.track (start, versions)
        = (start, versions ++ items.filterMap Item.version?) := by
    induction items generalizing versions with
    | nil => exact congrArg (Prod.mk start) (List.append_nil versions).symm
    | cons item rest ih =>
      cases hv : item.version? with
      | some incoming =>
        have hmark : item.mark? = some (.seen incoming) := by rw [Item.mark?, hv]
        rw [List.filterMap_cons_some hmark, List.filterMap_cons_some hv, List.foldl_cons,
          Mark.track, ih, List.append_assoc, List.singleton_append]
      | none =>
        rw [List.filterMap_cons_none hv]
        cases hexpiry : item.isExpiry with
        | false =>
          have hmark : item.mark? = none := by simp [Item.mark?, hv, hexpiry]
          rw [List.filterMap_cons_none hmark, ih]
        | true =>
          have hmark : item.mark? = some .expiry := by simp [Item.mark?, hv, hexpiry]
          rw [List.filterMap_cons_some hmark, List.foldl_cons, Mark.track, ih] <;> nofun
  rw [versionAfter, latest, hlatest, List.nil_append]

/-- Observed items arm once one of them says that the version has expired, and never disarm. -/
theorem armedAfter_items (start : Bool) (items : List Item) :
    armedAfter start (items.filterMap Item.mark?) = (start || items.any Item.isExpiry) := by
  induction items generalizing start with
  | nil => exact (Bool.or_false start).symm
  | cons item rest ih =>
    rw [List.any_cons, ← Bool.or_assoc, ← ih]
    cases hexpiry : item.isExpiry with
    | true =>
      -- from here on the cursor is armed, whatever follows
      rw [List.filterMap_cons_some (Item.mark?_of_isExpiry hexpiry), Bool.or_true]
      rfl
    | false =>
      rw [Bool.or_false]
      cases hv : item.version? with
      | some incoming =>
        have hmark : item.mark? = some (.seen incoming) := by rw [Item.mark?, hv]
        rw [List.filterMap_cons_some hmark]
        rfl
      | none =>
        have hmark : item.mark? = none := by simp [Item.mark?, hv, hexpiry]
        rw [List.filterMap_cons_none hmark]

end ResumableWatch
