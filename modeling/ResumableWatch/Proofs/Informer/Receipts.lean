import ResumableWatch.Proofs.Fiber.Telling
import ResumableWatch.Proofs.Informer.Calls
/-!
# Reads that tell what they receive

A read of a stream may fail after it has received an item, so what it received cannot be read off
what it comes to.  `Act.tellNext` is the same read, which tells it as well; `Call.act_eq_tell` says
that the calls of a session are the calls that tell all, seen without what they tell.
-/

namespace ResumableWatch

open ResumableWatch.Fiber Interplay

/-- What a call comes to, with the item that it received from the server, if it received one. -/
structure Told where
  received : Option Item := none
  result : Except Failure Outcome

namespace Fiber

variable {σ α : Type}

theorem attempt_ofExcept_bind (m : Fiber σ α) : (m.attempt >>= fun r => ofExcept r) = m := by
  show bind ofExcept m.attempt = m
  induction m with
  | done a => rfl
  | fail e => rfl
  | read next ih => exact congrArg read (funext ih)
  | write s next ih => exact congrArg (write s) ih
  | wait what next ih => exact congrArg (wait what) (funext ih)

/-- What comes last comes after an attempt as well. -/
theorem ensure_attempt_bind {β : Type} (last : Fiber σ Unit) (m : Fiber σ α)
    (f : Except Failure α → Fiber σ β) :
    ensure last (m.attempt >>= f) = m.attempt >>= fun r => ensure last (f r) := by
  induction m with
  | done a => rfl
  | fail e => rfl
  | read next ih => exact congrArg read (funext ih)
  | write s next ih => exact congrArg (write s) ih
  | wait what next ih => exact congrArg (wait what) (funext ih)

end Fiber

namespace Act

/-- What an observation makes of what its connection has come to. -/
def conclude (s : StreamId) (stream : Stream) (taken : Except Failure (Option Item)) :
    Act (Option Item) := do
  match taken with
  | .error failure => failObservation s failure
  | .ok none =>
    endObservation s
    return none
  | .ok (some item) =>
    match ← (observe stream item).attempt with
    | .error failure => failObservation s failure
    | .ok () =>
      noteObserved stream.owner item
      return some item

/-- What is given to the consumer; at the end the stream is closed. -/
def deliver (s : StreamId) : Option Item → Act Outcome
  | some item => pure (.item item)
  | none => do
    closeStream s
    return .ended

/-- The rest of a read, once the connection has come to something. -/
def finish (s : StreamId) (stream : Stream) (taken : Except Failure (Option Item)) : Act Outcome := do
  deliver s (← Fiber.ensure (setBusy s false) (conclude s stream taken))

/-- A call that receives nothing. -/
def told (m : Act Outcome) : Act Told := do
  return { result := ← m.attempt }

/-- The next item of a stream, with what was received for it. -/
def tellNext (s : StreamId) : Act Told := do
  let stream := (← Fiber.state).stream s
  if stream.busy then told (Fiber.fail (.reading "anext"))
  else if stream.progress = .over then told (deliver s none)
  else
    setProgress s .open
    setBusy s true
    let stream := (← Fiber.state).stream s
    let taken ← (nextItem stream.connection).attempt
    return { received := taken.toOption.join, result := ← (finish s stream taken).attempt }

/-- What a call comes to is what is left when it no longer tells what it received. -/
theorem told_through (m : Act Outcome) : (told m).through Told.result = m := by
  rw [Fiber.through, told, bind_assoc]
  exact attempt_ofExcept_bind m

theorem call_next_eq (s : StreamId) :
    Call.act (.next s) = nextObserved s >>= deliver s := by
  show (((nextObserved s >>= _) : Act (Option Item)) >>= _) = _
  rw [bind_assoc]
  refine congrArg (nextObserved s >>= ·) (funext fun taken => ?_)
  cases taken with
  | none => exact bind_assoc _ _ _
  | some item => rfl

theorem tellNext_through (s : StreamId) :
    (tellNext s).through Told.result = Call.act (.next s) := by
  rw [call_next_eq, nextObserved, Fiber.through, tellNext, bind_assoc, bind_assoc]
  refine congrArg (Fiber.state >>= ·) (funext fun w => ?_)
  dsimp only
  by_cases hbusy : (w.stream s).busy = true
  · rw [if_pos hbusy, if_pos hbusy]
    exact told_through _
  · rw [if_neg hbusy, if_neg hbusy]
    by_cases hover : (w.stream s).progress = .over
    · rw [if_pos hover, if_pos hover]
      exact told_through _
    · simp only [if_neg hover, bind_assoc]
      refine congrArg (setProgress s .open >>= ·) (funext fun _ => ?_)
      refine congrArg (setBusy s true >>= ·) (funext fun _ => ?_)
      -- the observation of what was taken is a matter of its own
      show _ = (Fiber.state >>= fun w => Fiber.ensure (setBusy s false)
        ((nextItem (w.stream s).connection).attempt >>= conclude s (w.stream s))) >>= deliver s
      rw [bind_assoc]
      refine congrArg (Fiber.state >>= ·) (funext fun w => ?_)
      rw [ensure_attempt_bind, bind_assoc]
      refine congrArg (_ >>= ·) (funext fun taken => ?_)
      exact attempt_ofExcept_bind _

end Act

namespace Call

/-- What a call does, telling what it receives. -/
def tell : Call → Act Told
  | next s => Act.tellNext s
  | call => Act.told call.act

theorem act_eq_tell (call : Call) : call.act = call.tell.through Told.result := by
  cases call with
  | next s => exact (Act.tellNext_through s).symm
  | _ => exact (Act.told_through _).symm

/-- The kind under which a call is accounted for. -/
def kind (w : World) : Call → String
  | setVersion i _ | resetVersion i | arm i | clear i | copy i _ | poll i => (w.informer i).name
  | next s | close s => (w.stream s).name

end Call

/-- Calls about any informers and any streams, in any order.  Others do not count anything, and are
free to do anything else; a wait may come to anything. -/
def telling : Setting World Call Told where
  act := Call.tell
  allowed _ _ := True
  others w t := t.metrics = w.metrics

/-- The same calls, without what they could tell. -/
def calling : Setting World Call Outcome := { telling with act := Call.act }

end ResumableWatch
