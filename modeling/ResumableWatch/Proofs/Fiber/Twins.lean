import Mathlib.Data.List.Forall2
import ResumableWatch.Proofs.Fiber.Agreement
/-!
# Twin runs

A list of moves decides a run of calls with all that the scheduler, the clock and others have to say
about it: which call begins, which waiting call goes on with which answer, and what others do
(`Interplay.play`).  Every run is played by some moves (`Reaches.played`).

So the same moves can be made in two states that look alike, with calls that agree.  The two runs
cannot be told apart then by what is seen of them, but for results that correspond without being the
same (`play_alike`).
-/

namespace ResumableWatch

open ResumableWatch.Fiber

variable {σ κ α β γ : Type}

/-! ### Moves -/

/-- What happens next in a run. -/
inductive Move (σ κ : Type) where
  | begin (call : κ)
  /-- The call that waits in this place goes on with an answer. -/
  | wake (place : Nat) (answer : Wakeup)
  /-- Somebody else does something. -/
  | elsewhere (act : σ → σ)

namespace Interplay

/-- What a move comes to.  Where nobody waits, nobody goes on. -/
def after (act : κ → Fiber σ α) (p : Interplay σ κ α) : Move σ κ → Interplay σ κ α
  | .begin call => p.begin call (act call)
  | .wake place answer =>
    match p.waiting[place]? with
    | some u => p.wake u (p.waiting.eraseIdx place) answer
    | none => p
  | .elsewhere f => { p with state := f p.state }

/-- What some moves come to, one after the other. -/
def play (act : κ → Fiber σ α) (s : σ) (moves : List (Move σ κ)) : Interplay σ κ α :=
  moves.foldl (after act) { state := s }

theorem play_concat (act : κ → Fiber σ α) (s : σ) (moves : List (Move σ κ)) (move : Move σ κ) :
    play act s (moves ++ [move]) = (play act s moves).after act move := by
  rw [play, List.foldl_append]
  rfl

/-- Every run is played by some moves. -/
theorem Reaches.played {setting : Setting σ κ α} {s : σ} {p : Interplay σ κ α}
    (h : Reaches setting s p) : ∃ moves, play setting.act s moves = p := by
  induction h with
  | start => exact ⟨[], rfl⟩
  | @begin p call _ _ ih =>
    obtain ⟨moves, rfl⟩ := ih
    exact ⟨moves ++ [.begin call], play_concat ..⟩
  | @wake p earlier u later answer _ hwaiting _ ih =>
    obtain ⟨moves, rfl⟩ := ih
    refine ⟨moves ++ [.wake earlier.length answer], ?_⟩
    -- the call that goes on is named by its place among those that wait
    have hfound : (play setting.act s moves).waiting[earlier.length]? = some u := by
      rw [hwaiting, List.getElem?_append_right (Nat.le_refl _), Nat.sub_self]
      rfl
    have hleft : (play setting.act s moves).waiting.eraseIdx earlier.length = earlier ++ later := by
      rw [hwaiting, List.eraseIdx_append_of_length_le (Nat.le_refl _), Nat.sub_self]
      rfl
    rw [play_concat, after, hfound, ← hleft]
  | @elsewhere p s' _ _ ih =>
    obtain ⟨moves, rfl⟩ := ih
    exact ⟨moves ++ [.elsewhere fun _ => s'], play_concat ..⟩

end Interplay

/-! ### What looks alike -/

variable {view : σ → γ} {R : α → β → Prop}

/-- Two stretches end alike, with results that correspond. -/
inductive Ending.Alike (R : α → β → Prop) : Ending α → Ending β → Prop
  | done {a b} (h : R a b) : Alike R (.done a) (.done b)
  | failed (failure) : Alike R (.failed failure) (.failed failure)
  | waits (what) : Alike R (.waits what) (.waits what)

/-- Two stretches of the same call that look alike. -/
structure Stretch.Alike (view : σ → γ) (R : α → β → Prop) (x : Stretch σ κ α)
    (x' : Stretch σ κ β) : Prop where
  call : x.call = x'.call
  number : x.number = x'.number
  answer : x.answer = x'.answer
  changes : Matched view (Step.ofChanges x.changes) (Step.ofChanges x'.changes)
  after : view x.after = view x'.after
  ending : x.ending.Alike R x'.ending

/-- The same call waits in two runs, and goes on alike. -/
structure Waiting.Alike (view : σ → γ) (R : α → β → Prop) (u : Waiting σ κ α)
    (u' : Waiting σ κ β) : Prop where
  call : u.call = u'.call
  number : u.number = u'.number
  next : ∀ answer, Agree view (Likewise R) (u.next answer) (u'.next answer)

/-- Two runs that cannot be told apart by what is seen of them. -/
structure Interplay.Alike (view : σ → γ) (R : α → β → Prop) (p : Interplay σ κ α)
    (p' : Interplay σ κ β) : Prop where
  state : view p.state = view p'.state
  waiting : List.Forall₂ (Waiting.Alike view R) p.waiting p'.waiting
  past : List.Forall₂ (Stretch.Alike view R) p.past p'.past

theorem Fiber.Alongside.ending {pause : Pause σ α} {pause' : Pause σ β}
    (h : Alongside view (Likewise R) pause pause') : pause.ending.Alike R pause'.ending := by
  cases h with
  | ended hr =>
    cases hr with
    | ok h => exact .done h
    | error e => exact .failed e
  | wait hnext => exact .waits _

/-! ### Twin runs -/

/-- Lists that correspond do so in each place, and when it is left out. -/
theorem rel_place {R : α → β → Prop} {l : List α} {l' : List β} (h : List.Forall₂ R l l')
    (place : Nat) :
    Option.Rel R l[place]? l'[place]? ∧
      List.Forall₂ R (l.eraseIdx place) (l'.eraseIdx place) := by
  induction h generalizing place with
  | nil => exact ⟨.none, .nil⟩
  | @cons a b rest rest' hab hrest ih =>
    cases place with
    | zero => exact ⟨.some hab, hrest⟩
    | succ place => exact ⟨(ih place).1, .cons hab (ih place).2⟩

namespace Interplay.Alike

variable {p : Interplay σ κ α} {p' : Interplay σ κ β} {m : Fiber σ α} {m' : Fiber σ β}

/-- The same call makes a stretch in both runs. -/
theorem made (h : Alike view R p p') (hm : Agree view (Likewise R) m m') (call : κ)
    (origin origin' : σ) (number : Nat) (answer : Wakeup) :
    Alike view R (p.made (.run call origin number answer m p.state) (m.advance p.state).2)
      (p'.made (.run call origin' number answer m' p'.state) (m'.advance p'.state).2) := by
  obtain ⟨hmatched, hstate, hpauses⟩ := (hm p.state p'.state h.state).advance
  refine ⟨hstate, List.rel_append h.waiting ?_, List.rel_append h.past (.cons ?_ .nil)⟩
  · -- who has come to a wait in one of the runs has come to it in the other one
    generalize (m.advance p.state).2 = pause at hpauses ⊢
    generalize (m'.advance p'.state).2 = pause' at hpauses ⊢
    cases hpauses with
    | ended hr => cases hr <;> exact .nil
    | wait hnext => exact .cons ⟨rfl, rfl, hnext⟩ .nil
  · exact ⟨rfl, rfl, rfl, hmatched, hstate, hpauses.ending⟩

/-- The same move is made in both runs. -/
theorem after {act : κ → Fiber σ α} {act' : κ → Fiber σ β} (h : Alike view R p p')
    (hact : ∀ call, Agree view (Likewise R) (act call) (act' call)) {move : Move σ κ}
    (hmove : ∀ f, move = .elsewhere f → ∀ s s', view s = view s' → view (f s) = view (f s')) :
    Alike view R (p.after act move) (p'.after act' move) := by
  cases move with
  | begin call => exact h.made (hact call) call p.state p'.state 0 (.ok ())
  | elsewhere f => exact ⟨hmove f rfl _ _ h.state, h.waiting, h.past⟩
  | wake place answer =>
    obtain ⟨hfound, hleft⟩ := rel_place h.waiting place
    rw [Interplay.after, Interplay.after]
    generalize p.waiting[place]? = found at hfound ⊢
    generalize p'.waiting[place]? = found' at hfound ⊢
    -- the places of the two lists correspond, so the same call goes on or none does
    cases hfound with
    | none => exact h
    | @some u u' hu =>
      have hothers : Alike view R { p with waiting := p.waiting.eraseIdx place }
          { p' with waiting := p'.waiting.eraseIdx place } := ⟨h.state, hleft, h.past⟩
      dsimp only
      rw [Interplay.wake, Interplay.wake, Waiting.stretch, Waiting.stretch, hu.call, hu.number]
      exact hothers.made (hu.next answer) u'.call u.origin u'.origin u'.number answer

/-- The same moves are made in both runs. -/
theorem run {act : κ → Fiber σ α} {act' : κ → Fiber σ β} (h : Alike view R p p')
    (hact : ∀ call, Agree view (Likewise R) (act call) (act' call)) {moves : List (Move σ κ)}
    (hmoves : ∀ f, .elsewhere f ∈ moves → ∀ s s', view s = view s' → view (f s) = view (f s')) :
    Alike view R (moves.foldl (Interplay.after act) p) (moves.foldl (Interplay.after act') p') := by
  induction moves generalizing p p' with
  | nil => exact h
  | cons move rest ih =>
    refine ih (h.after hact fun f hf => ?_) fun f hf => hmoves f (List.mem_cons_of_mem move hf)
    exact hmoves f (hf ▸ List.mem_cons_self)

end Interplay.Alike

/-- **Twin runs.**  Calls that agree, moved in the same way in two states that look alike, make runs
that do, as long as what others do looks alike in both. -/
theorem Interplay.play_alike {act : κ → Fiber σ α} {act' : κ → Fiber σ β} {s s' : σ}
    (hact : ∀ call, Agree view (Likewise R) (act call) (act' call)) (hs : view s = view s')
    {moves : List (Move σ κ)}
    (hmoves : ∀ f, .elsewhere f ∈ moves → ∀ t t', view t = view t' → view (f t) = view (f t')) :
    Alike view R (play act s moves) (play act' s' moves) := by
  have hstart : Alike view R { state := s : Interplay σ κ α } { state := s' : Interplay σ κ β } :=
    ⟨hs, .nil, .nil⟩
  exact hstart.run hact hmoves

end ResumableWatch
