import ResumableWatch.Proofs.Fiber.Terms
/-!
# Calls in any order

Calls run as fibers over one state, one stretch at a time and in any order: a call may begin
whenever it is allowed, a waiting call may go on whenever it is answered, and between the stretches
others may change the state as far as the setting lets them.  An `Interplay` is what this has come to
so far, with the stretches that were made; `Reaches` says which of them there are.  The order in which
a scheduler takes the tasks is one of these orders.

`Reaches.law` carries a law about the stretches through a whole run: one has to say what is known of
a call that waits, and then look at single stretches only.
-/

namespace ResumableWatch

variable {σ κ α : Type}

/-! ### Stretches -/

/-- How a stretch ends. -/
inductive Ending (α : Type) where
  | done (result : α)
  | failed (failure : Failure)
  | waits (what : Wait)

/-- How a stretch ends that has come to a pause. -/
def Pause.ending : Pause σ α → Ending α
  | .done a => .done a
  | .fail e => .failed e
  | .wait what _ => .waits what

/-- What a call goes on with after a pause, if it goes on. -/
def Pause.next? : Pause σ α → Option (Wakeup → Fiber σ α)
  | .wait _ next => some next
  | _ => none

/-- The end of a call, as a pause. -/
def Pause.of : Except Failure α → Pause σ α
  | .ok a => .done a
  | .error e => .fail e

/-- A fiber that never waits, by its terms, comes to an end in one stretch. -/
theorem Fiber.Meets.ends {change : σ → σ → Prop} {post : σ → Except Failure α → σ → Prop}
    {m : Fiber σ α} {s₀ s : σ}
    (h : m.Meets { change, pause := fun _ _ _ => False } post s₀ s) :
    ∃ r, (m.advance s).2 = .of r ∧ post s₀ r (m.advance s).1 := by
  have hpause := (meets_iff_advance.mp h).2
  cases hadvance : (m.advance s).2 with
  | done a =>
    rw [hadvance] at hpause
    exact ⟨.ok a, rfl, hpause⟩
  | fail e =>
    rw [hadvance] at hpause
    exact ⟨.error e, rfl, hpause⟩
  | wait w next =>
    rw [hadvance] at hpause
    exact hpause.1.elim

/-- One stretch of a call: all that it does without a wait. -/
structure Stretch (σ κ α : Type) where
  call : κ
  /-- The state that the call began in. -/
  origin : σ
  /-- How many waits of the call lie behind. -/
  number : Nat := 0
  /-- What the last of these waits came to. -/
  answer : Wakeup := .ok ()
  before : σ
  changes : List (σ × σ)
  after : σ
  ending : Ending α

/-- A call that waits. -/
structure Waiting (σ κ α : Type) where
  call : κ
  origin : σ
  /-- How many waits the call has come to, with this one. -/
  number : Nat
  next : Wakeup → Fiber σ α

/-- The stretch that a fiber makes from a state. -/
def Stretch.run (call : κ) (origin : σ) (number : Nat) (answer : Wakeup) (m : Fiber σ α) (s : σ) :
    Stretch σ κ α where
  call
  origin
  number
  answer
  before := s
  changes := m.changes s
  after := (m.advance s).1
  ending := (m.advance s).2.ending

/-- The first stretch of a call. -/
def Stretch.first (call : κ) (m : Fiber σ α) (s : σ) : Stretch σ κ α :=
  .run call s 0 (.ok ()) m s

/-- The stretch that a waiting call makes when it is answered. -/
def Waiting.stretch (u : Waiting σ κ α) (answer : Wakeup) (s : σ) : Stretch σ κ α :=
  .run u.call u.origin u.number answer (u.next answer) s

/-- The call of a stretch, when it waits at the end of it. -/
def Stretch.waiting? (x : Stretch σ κ α) (pause : Pause σ α) : Option (Waiting σ κ α) :=
  pause.next?.map fun next => { call := x.call, origin := x.origin, number := x.number + 1, next }

/-- A stretch that comes to the end of its call leaves nobody waiting. -/
theorem Stretch.waiting?_of_ended (x : Stretch σ κ α) {pause : Pause σ α} {r : Except Failure α}
    (h : pause = .of r) : x.waiting? pause = none := by
  rw [h]
  cases r <;> rfl

/-! ### Runs -/

/-- Who may do what. -/
structure Setting (σ κ α : Type) where
  act : κ → Fiber σ α
  /-- Which calls may begin in a state. -/
  allowed : σ → κ → Prop
  /-- What others may make of the state between two stretches. -/
  others : σ → σ → Prop
  /-- What a wait may come to. -/
  answers : Wakeup → Prop := fun _ => True

/-- What calls have come to so far. -/
structure Interplay (σ κ α : Type) where
  state : σ
  waiting : List (Waiting σ κ α) := []
  /-- The stretches, the first one first. -/
  past : List (Stretch σ κ α) := []

namespace Interplay

/-- A stretch is made that comes to a pause. -/
def made (p : Interplay σ κ α) (x : Stretch σ κ α) (pause : Pause σ α) : Interplay σ κ α where
  state := x.after
  waiting := p.waiting ++ (x.waiting? pause).toList
  past := p.past ++ [x]

/-- A call begins. -/
def begin (p : Interplay σ κ α) (call : κ) (m : Fiber σ α) : Interplay σ κ α :=
  p.made (.first call m p.state) (m.advance p.state).2

/-- A waiting call goes on while others are left waiting. -/
def wake (p : Interplay σ κ α) (u : Waiting σ κ α) (left : List (Waiting σ κ α))
    (answer : Wakeup) : Interplay σ κ α :=
  { p with waiting := left }.made (u.stretch answer p.state) ((u.next answer).advance p.state).2

/-- What calls can come to from a state. -/
inductive Reaches (setting : Setting σ κ α) (s : σ) : Interplay σ κ α → Prop where
  | start : Reaches setting s { state := s }
  | begin {p call} :
    Reaches setting s p → setting.allowed p.state call →
      Reaches setting s (p.begin call (setting.act call))
  | wake {p earlier u later answer} :
    Reaches setting s p → p.waiting = earlier ++ u :: later → setting.answers answer →
      Reaches setting s (p.wake u (earlier ++ later) answer)
  | elsewhere {p s'} :
    Reaches setting s p → setting.others p.state s' → Reaches setting s { p with state := s' }

variable {setting : Setting σ κ α} {s : σ}

/-- A law about the state and the past holds of every run, and what is known of waiting calls
with it, when it holds at the beginning, each stretch carries it on, and the others respect it. -/
theorem Reaches.law {p : Interplay σ κ α} (h : Reaches setting s p)
    (Law : σ → List (Stretch σ κ α) → Prop) (Known : Waiting σ κ α → Prop) (hstart : Law s [])
    (hbegin : ∀ t past call, Law t past → setting.allowed t call →
      let m := setting.act call
      let x := Stretch.first call m t
      Law x.after (past ++ [x]) ∧ ∀ u ∈ x.waiting? (m.advance t).2, Known u)
    (hwake : ∀ t past u answer, Law t past → Known u → setting.answers answer →
      let x := u.stretch answer t
      Law x.after (past ++ [x]) ∧ ∀ u' ∈ x.waiting? ((u.next answer).advance t).2, Known u')
    (hothers : ∀ t t' past, Law t past → setting.others t t' → Law t' past) :
    Law p.state p.past ∧ ∀ u ∈ p.waiting, Known u := by
  -- what is known of a call lasts while it waits, since nobody else changes what it goes on with
  induction h with
  | start => exact ⟨hstart, by simp⟩
  | begin _ hallowed ih =>
    obtain ⟨hlaw, hnew⟩ := hbegin _ _ _ ih.1 hallowed
    refine ⟨hlaw, fun u hu => ?_⟩
    rcases List.mem_append.mp hu with hu | hu
    · exact ih.2 u hu
    · exact hnew u (Option.mem_toList.mp hu)
  | @wake p earlier u later answer _ hwaiting hanswer ih =>
    have hknown : ∀ v ∈ earlier ++ u :: later, Known v := hwaiting ▸ ih.2
    obtain ⟨hlaw, hnew⟩ := hwake _ _ u answer ih.1 (hknown u (by simp)) hanswer
    -- who waits now has waited before, or is the call that went on
    refine ⟨hlaw, fun v hv => ?_⟩
    rcases List.mem_append.mp hv with hv | hv
    · refine hknown v ?_
      rcases List.mem_append.mp hv with hv | hv
      · exact List.mem_append_left _ hv
      · exact List.mem_append_right _ (List.mem_cons_of_mem u hv)
    · exact hnew v (Option.mem_toList.mp hv)
  | elsewhere _ hothers' ih => exact ⟨hothers _ _ _ ih.1 hothers', ih.2⟩

end Interplay

end ResumableWatch
