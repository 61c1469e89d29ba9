import ResumableWatch.Proofs.Fiber.Terms
/-!
# Courses

A stretch of a fiber ends at its next wait.  `Course` goes on across waits: it lists, step by step,
the changes and the waits of a fiber up to any point that it can come to, where `meanwhile` says what
a wait may come to and what others may make of the state until then.

The course of `m >>= f` is one of `m`, or one of `m` to its end and then one of `f`
(`Course.of_bind`).  So a course is taken apart along the program, while what holds of each of its
steps is read off from terms (`Meets.course`, `Steady.course`).

A task that goes round and round is a chain of courses, one for each round (`Rounds`).
-/

namespace ResumableWatch

namespace Fiber

variable {σ α β : Type}

/-! ### Steps -/

/-- One step of a fiber: it changes the state, or comes to a wait. -/
inductive Step (σ : Type) where
  | change (before after : σ)
  | wait (what : Wait)

namespace Step

/-- Changes as steps. -/
def ofChanges (changes : List (σ × σ)) : List (Step σ) := changes.map fun c => .change c.1 c.2

/-- The wait that a step comes to, if it is one. -/
def wait? : Step σ → Option Wait
  | .change _ _ => none
  | .wait what => some what

/-- The waits among some steps. -/
def waits (steps : List (Step σ)) : List Wait := steps.filterMap wait?

@[simp] theorem waits_nil : waits ([] : List (Step σ)) = [] := rfl

@[simp] theorem waits_append (first second : List (Step σ)) :
    waits (first ++ second) = waits first ++ waits second := List.filterMap_append

@[simp] theorem waits_cons_change (before after : σ) (steps : List (Step σ)) :
    waits (.change before after :: steps) = waits steps := rfl

@[simp] theorem waits_cons_wait (what : Wait) (steps : List (Step σ)) :
    waits (.wait what :: steps) = what :: waits steps := rfl

@[simp] theorem waits_ofChanges (changes : List (σ × σ)) : waits (ofChanges changes) = [] := by
  induction changes with
  | nil => rfl
  | cons c rest ih => exact ih

/-- A wait among some steps is one of them. -/
theorem mem_waits {what : Wait} {steps : List (Step σ)} :
    what ∈ waits steps ↔ .wait what ∈ steps := by
  induction steps with
  | nil => simp
  | cons step rest ih => cases step <;> simp [ih]

/-- A step is as terms ask for it. -/
def Keeps (terms : Terms σ) : Step σ → Prop
  | .change before after => terms.change before after
  | .wait what => ∃ s₀ s, terms.pause s₀ what s

end Step

/-! ### Fibers that have not come to their end -/

/-- There is something left to do. -/
def Unended (m : Fiber σ α) : Prop := ∀ r, m ≠ ofExcept r

theorem Unended.read (next : σ → Fiber σ α) : (Fiber.read next).Unended := by
  intro r h
  cases r <;> cases h

theorem Unended.wait (what : Wait) (next : Wakeup → Fiber σ α) : (Fiber.wait what next).Unended := by
  intro r h
  cases r <;> cases h

theorem Unended.write (s : σ) (next : Fiber σ α) : (Fiber.write s next).Unended := by
  intro r h
  cases r <;> cases h

/-- A fiber has ended, or has something left to do. -/
theorem ended_or_unended (m : Fiber σ α) : (∃ r, m = ofExcept r) ∨ m.Unended := by
  cases m with
  | done a => exact .inl ⟨.ok a, rfl⟩
  | fail e => exact .inl ⟨.error e, rfl⟩
  | read next => exact .inr (.read next)
  | write s next => exact .inr (.write s next)
  | wait what next => exact .inr (.wait what next)

theorem Unended.bind {m : Fiber σ α} (h : m.Unended) (f : α → Fiber σ β) : (m >>= f).Unended := by
  cases m with
  | done a => exact absurd rfl (h (.ok a))
  | fail e => exact absurd rfl (h (.error e))
  | read next => exact .read _
  | write s next => exact .write s _
  | wait what next => exact .wait what _

/-- Turning the end into a result does not bring it about. -/
theorem Unended.attempt {m : Fiber σ α} (h : m.Unended) : m.attempt.Unended := by
  cases m with
  | done a => exact absurd rfl (h (.ok a))
  | fail e => exact absurd rfl (h (.error e))
  | read next => exact .read _
  | write s next => exact .write s _
  | wait what next => exact .wait what _

/-- A fiber that comes to one with something left to do has something left to do. -/
theorem Unended.of_goes {m m' : Fiber σ α} {s t : σ} {made : List (σ × σ)}
    (h : Goes m s made m' t) (hm' : m'.Unended) : m.Unended := by
  rintro r rfl
  cases r with
  | ok a =>
    cases h
    exact hm' (.ok a) rfl
  | error e =>
    cases h
    exact hm' (.error e) rfl

/-! ### Courses -/

/-- From a state a fiber can take these steps, and has come to another fiber and state then. -/
inductive Course (meanwhile : σ → Wait → Wakeup → σ → Prop) :
    Fiber σ α → σ → List (Step σ) → Fiber σ α → σ → Prop
  | here {m s} : Course meanwhile m s [] m s
  | read {next s steps m t} :
    Course meanwhile (next s) s steps m t → Course meanwhile (.read next) s steps m t
  | write {next s s' steps m t} :
    Course meanwhile next s' steps m t →
      Course meanwhile (.write s' next) s (.change s s' :: steps) m t
  | wait {what next s answer s' steps m t} :
    meanwhile s what answer s' → Course meanwhile (next answer) s' steps m t →
      Course meanwhile (.wait what next) s (.wait what :: steps) m t

namespace Course

variable {meanwhile : σ → Wait → Wakeup → σ → Prop} {s t : σ} {steps : List (Step σ)}

/-- A fiber that has come to its end takes no more steps. -/
theorem of_ended {r : Except Failure α} {m : Fiber σ α}
    (h : Course meanwhile (ofExcept r) s steps m t) : steps = [] ∧ m = ofExcept r ∧ t = s := by
  cases r with
  | ok a =>
    cases h
    exact ⟨rfl, rfl, rfl⟩
  | error e =>
    cases h
    exact ⟨rfl, rfl, rfl⟩

/-- Two fibers one after the other: the first one is still at it, or has come to its end. -/
theorem of_bind {m : Fiber σ α} {f : α → Fiber σ β} {m' : Fiber σ β}
    (h : Course meanwhile (m >>= f) s steps m' t) :
    (∃ m₁, Course meanwhile m s steps m₁ t ∧ m' = m₁ >>= f) ∨
      ∃ first second a u, steps = first ++ second ∧ Course meanwhile m s first (.done a) u ∧
        Course meanwhile (f a) u second m' t := by
  -- the second fiber is entered where the first one has come to its end, and nowhere else
  induction m generalizing s steps with
  | done a => exact .inr ⟨[], steps, a, s, rfl, .here, h⟩
  | fail e =>
    obtain ⟨rfl, rfl, rfl⟩ := of_ended (r := .error e) h
    exact .inl ⟨.fail e, .here, rfl⟩
  | read next ih =>
    cases h with
    | here => exact .inl ⟨.read next, .here, rfl⟩
    | read h =>
      rcases ih s h with ⟨m₁, hm, rfl⟩ | ⟨first, second, a, u, rfl, hm, hf⟩
      · exact .inl ⟨m₁, .read hm, rfl⟩
      · exact .inr ⟨first, second, a, u, rfl, .read hm, hf⟩
  | write s' next ih =>
    cases h with
    | here => exact .inl ⟨.write s' next, .here, rfl⟩
    | write h =>
      rcases ih h with ⟨m₁, hm, rfl⟩ | ⟨first, second, a, u, rfl, hm, hf⟩
      · exact .inl ⟨m₁, .write hm, rfl⟩
      · exact .inr ⟨_ :: first, second, a, u, rfl, .write hm, hf⟩
  | wait what next ih =>
    cases h with
    | here => exact .inl ⟨.wait what next, .here, rfl⟩
    | @wait _ _ _ answer _ _ _ _ hanswer h =>
      rcases ih answer h with ⟨m₁, hm, rfl⟩ | ⟨first, second, a, u, rfl, hm, hf⟩
      · exact .inl ⟨m₁, .wait hanswer hm, rfl⟩
      · exact .inr ⟨_ :: first, second, a, u, rfl, .wait hanswer hm, hf⟩

/-- An attempt takes the steps of what is attempted. -/
theorem of_attempt {m : Fiber σ α} {m' : Fiber σ (Except Failure α)}
    (h : Course meanwhile m.attempt s steps m' t) :
    ∃ m₁, Course meanwhile m s steps m₁ t ∧ m' = m₁.attempt := by
  -- whatever the fiber does, the one that carries its end does at the same time
  induction m generalizing s steps with
  | done a =>
    cases h
    exact ⟨.done a, .here, rfl⟩
  | fail e =>
    cases h
    exact ⟨.fail e, .here, rfl⟩
  | read next ih =>
    cases h with
    | here => exact ⟨.read next, .here, rfl⟩
    | read h =>
      obtain ⟨m₁, hm, rfl⟩ := ih s h
      exact ⟨m₁, .read hm, rfl⟩
  | write s' next ih =>
    cases h with
    | here => exact ⟨.write s' next, .here, rfl⟩
    | write h =>
      obtain ⟨m₁, hm, rfl⟩ := ih h
      exact ⟨m₁, .write hm, rfl⟩
  | wait what next ih =>
    cases h with
    | here => exact ⟨.wait what next, .here, rfl⟩
    | @wait _ _ _ answer _ _ _ _ hanswer h =>
      obtain ⟨m₁, hm, rfl⟩ := ih answer h
      exact ⟨m₁, .wait hanswer hm, rfl⟩

/-- An end turns into a result that carries it. -/
theorem attempt_ofExcept (r : Except Failure α) :
    (ofExcept r : Fiber σ α).attempt = .done r := by
  cases r with
  | ok a => rfl
  | error e => rfl

/-- A fiber whose attempt has come to an outcome has come to it itself. -/
theorem ended_of_attempt {m : Fiber σ α} {r : Except Failure α} (h : m.attempt = .done r) :
    m = ofExcept r := by
  cases m with
  | done a =>
    cases h
    rfl
  | fail e =>
    cases h
    rfl
  | read next => cases h
  | write s' next => cases h
  | wait what next => cases h

/-- A course begins with what the fiber does without waiting, or is still within it. -/
theorem of_goes {m m₁ m' : Fiber σ α} {made : List (σ × σ)} {u : σ} (hgoes : Goes m s made m₁ u)
    (h : Course meanwhile m s steps m' t) :
    (∃ first second, made = first ++ second ∧ steps = Step.ofChanges first ∧
      Goes m' t second m₁ u) ∨
      ∃ rest, steps = Step.ofChanges made ++ rest ∧ Course meanwhile m₁ u rest m' t := by
  -- what does not wait leaves the others no say, so the course follows it step by step
  induction hgoes generalizing steps with
  | here => exact .inr ⟨steps, rfl, h⟩
  | read hgoes ih =>
    cases h with
    | here => exact .inl ⟨[], _, rfl, rfl, .read hgoes⟩
    | read h => exact ih h
  | write hgoes ih =>
    cases h with
    | here => exact .inl ⟨[], _, rfl, rfl, .write hgoes⟩
    | write h =>
      rcases ih h with ⟨first, second, rfl, rfl, hleft⟩ | ⟨rest, rfl, hrest⟩
      · exact .inl ⟨_ :: first, second, rfl, rfl, hleft⟩
      · exact .inr ⟨rest, rfl, hrest⟩

end Course

/-- The course of a fiber that is left alone, when its waits come to these answers. -/
def alone : List Wakeup → Fiber σ α → σ → List (Step σ) × Fiber σ α × σ
  | _, .done a, s => ([], .done a, s)
  | _, .fail e, s => ([], .fail e, s)
  | answers, .read next, s => alone answers (next s) s
  | answers, .write s' next, s => (alone answers next s').map (.change s s' :: ·) id
  | [], .wait what next, s => ([], .wait what next, s)
  | answer :: answers, .wait what next, s =>
    (alone answers (next answer) s).map (.wait what :: ·) id

/-- Alone, with answers for its waits, a fiber takes a course. -/
theorem course_alone {meanwhile : σ → Wait → Wakeup → σ → Prop} (m : Fiber σ α) {s : σ}
    {answers : List Wakeup}
    (h : ∀ answer ∈ answers, ∀ s what, meanwhile s what answer s) :
    Course meanwhile m s (alone answers m s).1 (alone answers m s).2.1 (alone answers m s).2.2 := by
  -- only a wait takes an answer off the list
  induction m generalizing s answers with
  | done a =>
    rw [alone]
    exact .here
  | fail e =>
    rw [alone]
    exact .here
  | read next ih =>
    rw [alone]
    exact .read (ih s h)
  | write s' next ih =>
    rw [alone]
    exact .write (ih h)
  | wait what next ih =>
    cases answers with
    | nil =>
      rw [alone]
      exact .here
    | cons answer answers =>
      obtain ⟨hfirst, hrest⟩ := List.forall_mem_cons.mp h
      rw [alone]
      exact .wait (hfirst s what) (ih answer hrest)

/-! ### Steps and terms -/

variable {meanwhile : σ → Wait → Wakeup → σ → Prop} {s t : σ} {steps : List (Step σ)}

/-- A fiber that keeps to terms does so all along a course, as far as the others keep to them. -/
theorem Meets.course {terms : Terms σ} {post : σ → Except Failure α → σ → Prop} {m m' : Fiber σ α}
    {s₀ : σ} (h : m.Meets terms post s₀ s) (hcourse : Course meanwhile m s steps m' t)
    (hothers : ∀ s what answer s', meanwhile s what answer s' →
      terms.answers answer ∧ terms.rely s s' ∧ terms.resume s what answer s') :
    (∀ step ∈ steps, step.Keeps terms) ∧ ∃ t₀, m'.Meets terms post t₀ t := by
  -- over the course; each wait is answered as the terms allow, so they hold in the next stretch
  induction hcourse generalizing s₀ with
  | here => exact ⟨by simp, s₀, h⟩
  | read _ ih => exact ih h
  | write _ ih =>
    obtain ⟨hrest, hend⟩ := ih h.2
    exact ⟨List.forall_mem_cons.mpr ⟨h.1, hrest⟩, hend⟩
  | wait hanswer _ ih =>
    obtain ⟨hanswers, hrely, hresume⟩ := hothers _ _ _ _ hanswer
    obtain ⟨hrest, hend⟩ := ih (h.2 _ _ hanswers hrely hresume)
    exact ⟨List.forall_mem_cons.mpr ⟨⟨_, _, h.1⟩, hrest⟩, hend⟩

/-- All steps of a steady fiber are of its kinds, whatever the others do. -/
theorem Steady.course {change : σ → σ → Prop} {waits : Wait → Prop} {m m' : Fiber σ α}
    (h : Steady change waits m) (hcourse : Course meanwhile m s steps m' t) :
    ∀ step ∈ steps, step.Keeps { change, pause := fun _ what _ => waits what } :=
  ((h s s).course hcourse fun _ _ _ _ _ => ⟨trivial, trivial, trivial⟩).1

/-! ### Rounds -/

/-- What lies behind a fiber that goes round and round: the rounds that were made and did not end
it, each with the state that it began in, and the state that they have led to. -/
inductive Rounds (meanwhile : σ → Wait → Wakeup → σ → Prop) (round : Fiber σ Bool) (s : σ) :
    List (σ × List (Step σ)) → σ → Prop
  | none : Rounds meanwhile round s [] s
  | more {past t steps u} :
    Rounds meanwhile round s past t → Course meanwhile round t steps (.done true) u →
      Rounds meanwhile round s (past ++ [(t, steps)]) u

/-- What each round finds when the one before it has kept it, each round keeps. -/
theorem Rounds.law {round : Fiber σ Bool} {past : List (σ × List (Step σ))}
    (h : Rounds meanwhile round s past t) (kept : σ → Prop) (Law : σ → List (Step σ) → Prop)
    (hround : ∀ v steps u, kept v → Course meanwhile round v steps (.done true) u →
      Law v steps ∧ kept u) (hs : kept s) :
    (∀ x ∈ past, Law x.1 x.2) ∧ kept t := by
  -- over the rounds that lie behind; what each one leaves is what the next one begins with
  induction h with
  | none => exact ⟨by simp, hs⟩
  | more _ hcourse ih =>
    obtain ⟨hpast, hkept⟩ := ih
    obtain ⟨hlaw, hkept⟩ := hround _ _ _ hkept hcourse
    refine ⟨fun x hx => ?_, hkept⟩
    rcases List.mem_append.mp hx with hx | hx
    · exact hpast x hx
    · rw [List.mem_singleton.mp hx]
      exact hlaw

end Fiber

end ResumableWatch
