import ResumableWatch.Proofs.Fiber.Interplay
/-!
# Calls that tell more

A fiber that ends in `m >>= fun a => ofExcept (f a)` does what `m` does, and keeps part of what `m`
comes to for itself.  So a run of calls that end like this is a run of the calls that tell all, seen
through `f`: the states, the changes and the waits are the same (`Reaches.told`).  What is to be said
of a run may then be said of what the calls could have told.
-/

namespace ResumableWatch

variable {σ κ α β : Type}

namespace Fiber

/-- What is left of a fiber when its result is seen through `f`. -/
def through (f : α → Except Failure β) (m : Fiber σ α) : Fiber σ β := m >>= fun a => ofExcept (f a)

end Fiber

/-- The same pause, seen through `f`. -/
def Pause.through (f : α → Except Failure β) : Pause σ α → Pause σ β
  | .done a => .of (f a)
  | .fail e => .fail e
  | .wait what next => .wait what fun answer => (next answer).through f

/-- The same ending, seen through `f`. -/
def Ending.through (f : α → Except Failure β) : Ending α → Ending β
  | .done a =>
    match f a with
    | .ok b => .done b
    | .error e => .failed e
  | .failed e => .failed e
  | .waits what => .waits what

namespace Fiber

variable (f : α → Except Failure β) (m : Fiber σ α) (s : σ)

theorem advance_through :
    (m.through f).advance s = ((m.advance s).1, (m.advance s).2.through f) := by
  induction m generalizing s with
  | done a =>
    show (ofExcept (f a) : Fiber σ β).advance s = (s, .of (f a))
    cases f a <;> rfl
  | fail e => rfl
  | read next ih => exact ih s s
  | write s' next ih => exact ih s'
  | wait what next ih => rfl

theorem changes_through : (m.through f).changes s = m.changes s := by
  induction m generalizing s with
  | done a =>
    show (ofExcept (f a) : Fiber σ β).changes s = []
    cases f a <;> rfl
  | fail e => rfl
  | read next ih => exact ih s s
  | write s' next ih => exact congrArg _ (ih s')
  | wait what next ih => rfl

end Fiber

theorem Pause.ending_through (f : α → Except Failure β) (pause : Pause σ α) :
    (pause.through f).ending = pause.ending.through f := by
  cases pause with
  | done a =>
    show (Pause.of (f a) : Pause σ β).ending = Ending.through f (.done a)
    rw [Ending.through]
    cases f a <;> rfl
  | fail e => rfl
  | wait what next => rfl

/-- The same stretch, seen through `f`. -/
def Stretch.through (f : α → Except Failure β) (x : Stretch σ κ α) : Stretch σ κ β :=
  { x with ending := x.ending.through f }

/-- The same waiting call, seen through `f`. -/
def Waiting.through (f : α → Except Failure β) (u : Waiting σ κ α) : Waiting σ κ β :=
  { u with next := fun answer => (u.next answer).through f }

theorem Stretch.run_through (f : α → Except Failure β) (call : κ) (origin : σ) (number : Nat)
    (answer : Wakeup) (m : Fiber σ α) (s : σ) :
    Stretch.run call origin number answer (m.through f) s
      = (Stretch.run call origin number answer m s).through f := by
  rw [run, m.advance_through f s, m.changes_through f s, Pause.ending_through]
  rfl

theorem Stretch.waiting?_through (f : α → Except Failure β) (x : Stretch σ κ α)
    (pause : Pause σ α) :
    (x.through f).waiting? (pause.through f) = (x.waiting? pause).map (·.through f) := by
  cases pause with
  | done a =>
    show (x.through f).waiting? (.of (f a)) = none
    exact waiting?_of_ended _ rfl
  | fail e => rfl
  | wait what next => rfl

namespace Interplay

/-- The same run, seen through `f`. -/
def through (f : α → Except Failure β) (p : Interplay σ κ α) : Interplay σ κ β where
  state := p.state
  waiting := p.waiting.map (·.through f)
  past := p.past.map (·.through f)

theorem made_through (f : α → Except Failure β) (p : Interplay σ κ α) (x : Stretch σ κ α)
    (pause : Pause σ α) :
    (p.through f).made (x.through f) (pause.through f) = (p.made x pause).through f := by
  rw [made, made, through, through, Stretch.waiting?_through, List.map_append, List.map_append]
  cases x.waiting? pause <;> rfl

theorem begin_through (f : α → Except Failure β) (p : Interplay σ κ α) (call : κ)
    (m : Fiber σ α) : (p.through f).begin call (m.through f) = (p.begin call m).through f := by
  rw [begin, Stretch.first, Stretch.run_through, m.advance_through f]
  exact made_through f p _ _

theorem wake_through (f : α → Except Failure β) (p : Interplay σ κ α) (u : Waiting σ κ α)
    (left : List (Waiting σ κ α)) (answer : Wakeup) :
    (p.through f).wake (u.through f) (left.map (·.through f)) answer
      = (p.wake u left answer).through f := by
  rw [wake, Waiting.stretch]
  show made _ (Stretch.run u.call u.origin u.number answer ((u.next answer).through f) p.state)
    (((u.next answer).through f).advance p.state).2 = _
  rw [Stretch.run_through, (u.next answer).advance_through f]
  exact made_through f { p with waiting := left } _ _

/-- A run is a run of the calls that tell all, seen through `f`. -/
theorem Reaches.told {setting : Setting σ κ α} {act : κ → Fiber σ β} (f : α → Except Failure β)
    (hact : ∀ call, act call = (setting.act call).through f) {s : σ} {p : Interplay σ κ β}
    (h : Reaches { setting with act } s p) : ∃ q, Reaches setting s q ∧ q.through f = p := by
  induction h with
  | start => exact ⟨_, .start, rfl⟩
  | @begin p call _ hallowed ih =>
    obtain ⟨q, hq, rfl⟩ := ih
    refine ⟨_, hq.begin hallowed, ?_⟩
    show _ = (q.through f).begin call (act call)
    rw [hact, begin_through]
  | @wake p earlier u later answer _ hwaiting hanswer ih =>
    obtain ⟨q, hq, rfl⟩ := ih
    -- who waits is the image of somebody who waits in the run that tells all
    obtain ⟨before, rest, hsplit, rfl, hrest⟩ := List.map_eq_append_iff.mp hwaiting
    obtain ⟨v, after, rfl, rfl, rfl⟩ := List.map_eq_cons_iff.mp hrest
    refine ⟨_, hq.wake hsplit hanswer, ?_⟩
    rw [← List.map_append, wake_through]
  | elsewhere _ hothers ih =>
    obtain ⟨q, hq, rfl⟩ := ih
    exact ⟨_, hq.elsewhere hothers, rfl⟩

end Interplay

end ResumableWatch
