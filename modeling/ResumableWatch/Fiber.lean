import ResumableWatch.Failure
/-!
# Fibers

A fiber is a computation that shares a state with others and gives up control only where it
waits.  It is data: a tree whose nodes read the state, write it, or wait, and whose leaves are
results.  What happens while it waits, and what the wait comes to, is up to whoever runs the tree;
so one tree serves the scheduler, which answers waits by its clock and its queue, and statements
about every way in which other tasks may interfere.

`bind`, `attempt` and `ensure` are by recursion on the tree; a cancellation reaches a fiber only
as the answer to a wait.
-/

namespace ResumableWatch

/-- The number of a task. -/
abbrev TaskId := Nat

/-- What a fiber can wait for. -/
inductive Wait where
  /-- The other ready tasks run once. -/
  | turn
  /-- That many seconds pass. -/
  | sleep (seconds : Double)
  /-- Nothing; only a cancellation ends this wait. -/
  | forever
  /-- A task finishes; its failure becomes the failure of the wait. -/
  | join (task : TaskId)
  deriving DecidableEq

/-- What a wait comes to: the fiber goes on, or a failure strikes where it waited. -/
abbrev Wakeup := Except Failure Unit

/-- A computation over a shared state `σ` with a result in `α`. -/
inductive Fiber (σ α : Type) where
  | done (result : α)
  | fail (failure : Failure)
  | read (next : σ → Fiber σ α)
  | write (state : σ) (next : Fiber σ α)
  | wait (what : Wait) (next : Wakeup → Fiber σ α)

namespace Fiber

variable {σ α β : Type}

/-- One fiber after the other; a failure ends both. -/
def bind (f : α → Fiber σ β) : Fiber σ α → Fiber σ β
  | done a => f a
  | fail e => fail e
  | read next => read fun s => bind f (next s)
  | write s next => write s (bind f next)
  | wait w next => wait w fun answer => bind f (next answer)

instance : Monad (Fiber σ) where
  pure := done
  bind m f := bind f m

theorem bind_done (m : Fiber σ α) : bind done m = m := by
  induction m with
  | done a => rfl
  | fail e => rfl
  | read next ih => exact congrArg read (funext ih)
  | write s next ih => exact congrArg (write s) ih
  | wait w next ih => exact congrArg (wait w) (funext ih)

theorem bind_bind {γ : Type} (f : α → Fiber σ β) (g : β → Fiber σ γ) (m : Fiber σ α) :
    bind g (bind f m) = bind (fun a => bind g (f a)) m := by
  induction m with
  | done a => rfl
  | fail e => rfl
  | read next ih => exact congrArg read (funext ih)
  | write s next ih => exact congrArg (write s) ih
  | wait w next ih => exact congrArg (wait w) (funext ih)

instance : LawfulMonad (Fiber σ) :=
  LawfulMonad.mk' (Fiber σ) bind_done (fun _ _ => rfl) fun m f g => bind_bind f g m

/-- A failure taken as a result. -/
def attempt : Fiber σ α → Fiber σ (Except Failure α)
  | done a => done (.ok a)
  | fail e => done (.error e)
  | read next => read fun s => attempt (next s)
  | write s next => write s (attempt next)
  | wait w next => wait w fun answer => attempt (next answer)

/-- A failure of the first fiber ends both, so it is the second one that is attempted otherwise. -/
theorem attempt_bind (f : α → Fiber σ β) (m : Fiber σ α) :
    attempt (bind f m) = bind (fun | .ok a => attempt (f a) | .error e => done (.error e))
      (attempt m) := by
  induction m with
  | done a => rfl
  | fail e => rfl
  | read next ih => exact congrArg read (funext ih)
  | write s next ih => exact congrArg (write s) ih
  | wait w next ih => exact congrArg (wait w) (funext ih)

/-- Goes on from an outcome. -/
def ofExcept : Except Failure α → Fiber σ α
  | .ok a => done a
  | .error e => fail e

/-- Runs `last` whether or not the fiber fails; a failure of `last` replaces the outcome. -/
def ensure (last : Fiber σ Unit) (m : Fiber σ α) : Fiber σ α := do
  let outcome ← attempt m
  last
  ofExcept outcome

/-- Answers a failure. -/
def recover (handler : Failure → Fiber σ α) (m : Fiber σ α) : Fiber σ α := do
  match ← attempt m with
  | .ok a => done a
  | .error e => handler e

/-- The state as it is now. -/
def state : Fiber σ σ := read done

/-- Something about the state as it is now. -/
def gets (f : σ → α) : Fiber σ α := read fun s => done (f s)

/-- Changes the state in one step. -/
def update (f : σ → σ) : Fiber σ Unit := read fun s => write (f s) (done ())

/-- Waits, and fails if a failure strikes meanwhile. -/
def await (w : Wait) : Fiber σ Unit := wait w ofExcept

end Fiber

end ResumableWatch
