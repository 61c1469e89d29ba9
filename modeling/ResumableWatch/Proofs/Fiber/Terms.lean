import Mathlib.Tactic.Common
import ResumableWatch.Scheduler
/-!
# Terms that fibers keep to

A fiber runs in stretches: from its start, or from the answer to a wait, up to its next wait or to
its end.  Nobody else acts within a stretch, and between two stretches everybody else may.

`Fiber.Meets terms post m s₀ s` says that `m`, in state `s` of a stretch that began in state `s₀`,
keeps to the terms whatever its waits come to and whatever the others make of the state meanwhile:
each change it makes, each wait it enters and its end are as they have to be.  It is defined by
recursion on the tree, and `meets_bind` turns it into symbolic execution.

`Fiber.Steady change waits m` says less and asks for less: all changes and all waits of `m`, in any
stretch and from any state, are of the given kinds.
-/

namespace ResumableWatch

namespace Fiber

variable {σ α β : Type}

/-! ### One stretch -/

/-- The changes of the state that a fiber makes up to its next wait or to its end, each with the
state before it and the state after it. -/
def changes : Fiber σ α → σ → List (σ × σ)
  | done _, _ => []
  | fail _, _ => []
  | read next, s => changes (next s) s
  | write s' next, s => (s, s') :: changes next s'
  | wait _ _, _ => []

theorem changes_wait (w : Wait) (next : Wakeup → Fiber σ α) (s : σ) :
    (wait w next).changes s = [] := rfl

/-- A fiber makes these changes without waiting, and has come to another fiber and state then. -/
inductive Goes : Fiber σ α → σ → List (σ × σ) → Fiber σ α → σ → Prop where
  | here {m s} : Goes m s [] m s
  | read {next s changes m t} : Goes (next s) s changes m t → Goes (read next) s changes m t
  | write {next s s' changes m t} :
    Goes next s' changes m t → Goes (write s' next) s ((s, s') :: changes) m t

/-- The changes of a stretch are those made so far and those still to come. -/
theorem Goes.changes_eq {m m' : Fiber σ α} {s t : σ} {made : List (σ × σ)}
    (h : Goes m s made m' t) : m.changes s = made ++ m'.changes t := by
  induction h with
  | here => rfl
  | read _ ih => exact ih
  | write _ ih => rw [changes, ih, List.cons_append]

/-- A stretch ends where it would end from any point on its way. -/
theorem Goes.advance_eq {m m' : Fiber σ α} {s t : σ} {made : List (σ × σ)}
    (h : Goes m s made m' t) : m.advance s = m'.advance t := by
  induction h with
  | here => rfl
  | read _ ih => exact ih
  | write _ ih => exact ih

theorem Goes.trans {m₁ m₂ m₃ : Fiber σ α} {s t u : σ} {first second : List (σ × σ)}
    (h₁ : Goes m₁ s first m₂ t) (h₂ : Goes m₂ t second m₃ u) :
    Goes m₁ s (first ++ second) m₃ u := by
  induction h₁ with
  | here => exact h₂
  | read _ ih => exact .read (ih h₂)
  | write _ ih => exact .write (ih h₂)

/-- What comes behind a fiber does not show before that one has come to its end. -/
theorem Goes.bind {m m' : Fiber σ α} {s t : σ} {made : List (σ × σ)} (h : Goes m s made m' t)
    (f : α → Fiber σ β) : Goes (m >>= f) s made (m' >>= f) t := by
  induction h with
  | here => exact .here
  | read _ ih => exact .read ih
  | write _ ih => exact .write ih

theorem Goes.attempt {m m' : Fiber σ α} {s t : σ} {made : List (σ × σ)} (h : Goes m s made m' t) :
    Goes m.attempt s made m'.attempt t := by
  induction h with
  | here => exact .here
  | read _ ih => exact .read ih
  | write _ ih => exact .write ih

/-- Nor does what would catch its failure. -/
theorem Goes.recover {m m' : Fiber σ α} {s t : σ} {made : List (σ × σ)} (h : Goes m s made m' t)
    (handler : Failure → Fiber σ α) :
    Goes (m.recover handler) s made (m'.recover handler) t := h.attempt.bind _

/-! ### Terms -/

/-- What a fiber has to keep to, and what it may count on. -/
structure Terms (σ : Type) where
  /-- What others may make of the state while the fiber waits. -/
  rely : σ → σ → Prop := fun _ _ => True
  /-- What a wait may come to. -/
  answers : Wakeup → Prop := fun _ => True
  /-- How others, the wait and what it comes to belong together. -/
  resume : σ → Wait → Wakeup → σ → Prop := fun _ _ _ _ => True
  /-- What holds of each change that the fiber makes. -/
  change : σ → σ → Prop := fun _ _ => True
  /-- What holds when a stretch ends in a wait: of the state it began in, the wait and the state. -/
  pause : σ → Wait → σ → Prop := fun _ _ _ => True

/-- What holds at the end of a fiber, by the two kinds of outcome. -/
def byOutcome (ok : σ → α → σ → Prop) (error : σ → Failure → σ → Prop) :
    σ → Except Failure α → σ → Prop
  | s₀, .ok a, s => ok s₀ a s
  | s₀, .error e, s => error s₀ e s

@[simp] theorem byOutcome_ok (ok : σ → α → σ → Prop) (error : σ → Failure → σ → Prop) (s₀ : σ)
    (a : α) (s : σ) : byOutcome ok error s₀ (.ok a) s ↔ ok s₀ a s := Iff.rfl

/-- The fiber keeps to the terms, and its last stretch ends as `post` says: by the state the stretch
began in, the outcome and the state. -/
def Meets (terms : Terms σ) (post : σ → Except Failure α → σ → Prop) :
    Fiber σ α → σ → σ → Prop
  | done a, s₀, s => post s₀ (.ok a) s
  | fail e, s₀, s => post s₀ (.error e) s
  | read next, s₀, s => Meets terms post (next s) s₀ s
  | write s' next, s₀, s => terms.change s s' ∧ Meets terms post next s₀ s'
  | wait w next, s₀, s =>
    terms.pause s₀ w s ∧ ∀ answer s', terms.answers answer → terms.rely s s' →
      terms.resume s w answer s' → Meets terms post (next answer) s' s'

section Meets

variable {terms : Terms σ} {s₀ s : σ}

/-- The end may be said less about. -/
theorem Meets.mono {post post' : σ → Except Failure α → σ → Prop} {m : Fiber σ α}
    (h : m.Meets terms post s₀ s) (himp : ∀ s₀ r s, post s₀ r s → post' s₀ r s) :
    m.Meets terms post' s₀ s := by
  induction m generalizing s₀ s with
  | done a => exact himp _ _ _ h
  | fail e => exact himp _ _ _ h
  | read next ih => exact ih s h
  | write s' next ih => exact ⟨h.1, ih h.2⟩
  | wait w next ih =>
    exact ⟨h.1, fun answer s' ha hs' hr => ih answer (h.2 answer s' ha hs' hr)⟩

theorem meets_congr {post post' : σ → Except Failure α → σ → Prop} {m : Fiber σ α}
    (h : ∀ s₀ r s, post s₀ r s ↔ post' s₀ r s) : m.Meets terms post s₀ s ↔ m.Meets terms post' s₀ s :=
  ⟨fun hm => hm.mono fun s₀ r s => (h s₀ r s).mp, fun hm => hm.mono fun s₀ r s => (h s₀ r s).mpr⟩

/-- Other terms are kept to as well, when each of them follows where it is needed.  The stretch may
have begun earlier: `since` leads from there to where the first terms let it begin. -/
theorem Meets.imp {terms' : Terms σ} {post post' : σ → Except Failure α → σ → Prop} {m : Fiber σ α}
    (h : m.Meets terms post s₀ s) (since : σ → σ → Prop)
    (hchange : ∀ t t', terms.change t t' → terms'.change t t')
    (hpause : ∀ t₀ t₁ w t, since t₀ t₁ → terms.pause t₁ w t → terms'.pause t₀ w t)
    (hresume : ∀ t₀ t₁ w t answer t', since t₀ t₁ → terms.pause t₁ w t → terms'.answers answer →
      terms'.rely t t' → terms'.resume t w answer t' →
        terms.answers answer ∧ terms.rely t t' ∧ terms.resume t w answer t' ∧ since t' t')
    (hpost : ∀ t₀ t₁ r t, since t₀ t₁ → post t₁ r t → post' t₀ r t) {t₀ : σ} (hs : since t₀ s₀) :
    m.Meets terms' post' t₀ s := by
  -- after a wait both stretches begin in the same state, so `since` has to hold there again
  induction m generalizing t₀ s₀ s with
  | done a => exact hpost _ _ _ _ hs h
  | fail e => exact hpost _ _ _ _ hs h
  | read next ih => exact ih s h hs
  | write s' next ih => exact ⟨hchange _ _ h.1, ih h.2 hs⟩
  | wait w next ih =>
    refine ⟨hpause _ _ _ _ hs h.1, fun answer s' ha hs' hr => ?_⟩
    obtain ⟨ha', hs'', hr', hsince⟩ := hresume _ _ _ _ _ _ hs h.1 ha hs' hr
    exact ih answer (h.2 answer s' ha' hs'' hr') hsince

/-- Both of two terms. -/
def Terms.and (first second : Terms σ) : Terms σ where
  rely s s' := first.rely s s' ∧ second.rely s s'
  answers answer := first.answers answer ∧ second.answers answer
  resume s w answer s' := first.resume s w answer s' ∧ second.resume s w answer s'
  change s s' := first.change s s' ∧ second.change s s'
  pause s₀ w s := first.pause s₀ w s ∧ second.pause s₀ w s

/-- What keeps to two terms keeps to both, and counts on what both allow. -/
theorem Meets.and {terms' : Terms σ} {post post' : σ → Except Failure α → σ → Prop}
    {m : Fiber σ α} (h : m.Meets terms post s₀ s) (h' : m.Meets terms' post' s₀ s) :
    m.Meets (terms.and terms') (fun s₀ r s => post s₀ r s ∧ post' s₀ r s) s₀ s := by
  induction m generalizing s₀ s with
  | done a => exact ⟨h, h'⟩
  | fail e => exact ⟨h, h'⟩
  | read next ih => exact ih s h h'
  | write s' next ih => exact ⟨⟨h.1, h'.1⟩, ih h.2 h'.2⟩
  | wait w next ih =>
    refine ⟨⟨h.1, h'.1⟩, fun answer s' ha hs' hr => ?_⟩
    exact ih answer (h.2 answer s' ha.1 hs'.1 hr.1) (h'.2 answer s' ha.2 hs'.2 hr.2)

/-- What holds at the end of a fiber by other terms as well, which let it count on no more, holds at
once. -/
theorem Meets.alongside {terms' : Terms σ} {post post' : σ → Except Failure α → σ → Prop}
    {m : Fiber σ α} (h : m.Meets terms post s₀ s) (h' : m.Meets terms' post' s₀ s)
    (hless : ∀ t w answer t', terms.answers answer → terms.rely t t' → terms.resume t w answer t' →
      terms'.answers answer ∧ terms'.rely t t' ∧ terms'.resume t w answer t') :
    m.Meets terms (fun s₀ r s => post s₀ r s ∧ post' s₀ r s) s₀ s := by
  -- of the two terms those of `m` are kept, and they allow the others no
  -- more than the other ones do
  refine (h.and h').imp (fun t₀ t₁ => t₁ = t₀) (fun _ _ hchange => hchange.1) ?pause ?resume ?post rfl
  case pause =>
    rintro t₀ _ w t rfl hpause
    exact hpause.1
  case resume =>
    rintro t₀ _ w t answer t' rfl - ha hs hr
    obtain ⟨ha', hs', hr'⟩ := hless t w answer t' ha hs hr
    exact ⟨⟨ha, ha'⟩, ⟨hs, hs'⟩, ⟨hr, hr'⟩, rfl⟩
  case post =>
    rintro t₀ _ r t rfl hends
    exact hends

/-- What holds at the end of a fiber by the same terms holds at once. -/
theorem Meets.both {post post' : σ → Except Failure α → σ → Prop} {m : Fiber σ α}
    (h : m.Meets terms post s₀ s) (h' : m.Meets terms post' s₀ s) :
    m.Meets terms (fun s₀ r s => post s₀ r s ∧ post' s₀ r s) s₀ s :=
  h.alongside h' fun _ _ _ _ ha hs hr => ⟨ha, hs, hr⟩

/-! ### Symbolic execution -/

@[simp] theorem meets_pure {post : σ → Except Failure α → σ → Prop} (a : α) :
    (pure a : Fiber σ α).Meets terms post s₀ s ↔ post s₀ (.ok a) s := Iff.rfl

/-- What is left to be done after the first of two fibers decides whether both keep to the terms. -/
@[simp] theorem meets_bind {post : σ → Except Failure β → σ → Prop} (m : Fiber σ α)
    (f : α → Fiber σ β) :
    (m >>= f).Meets terms post s₀ s ↔
      m.Meets terms (byOutcome (fun t₀ a t => (f a).Meets terms post t₀ t)
        (fun t₀ e t => post t₀ (.error e) t)) s₀ s := by
  show (bind f m).Meets terms post s₀ s ↔ _
  induction m generalizing s₀ s with
  | done a => exact Iff.rfl
  | fail e => exact Iff.rfl
  | read next ih => exact ih s
  | write s' next ih => exact and_congr_right fun _ => ih
  | wait w next ih => simp only [bind, Meets, ih]

/-- What the first of two fibers keeps, whatever it comes to, is known to the second one. -/
theorem Meets.before {post : σ → Except Failure β → σ → Prop} {kept : σ → Prop} {m : Fiber σ α}
    {f : α → Fiber σ β} (hm : m.Meets terms (fun _ _ t => kept t) s₀ s)
    (hf : ∀ a t₀ t, kept t → (f a).Meets terms post t₀ t)
    (hfail : ∀ t₀ e t, kept t → post t₀ (.error e) t) : (m >>= f).Meets terms post s₀ s := by
  rw [meets_bind]
  refine hm.mono fun t₀ r t ht => ?_
  cases r with
  | ok a => exact hf a t₀ t ht
  | error e => exact hfail t₀ e t ht

@[simp] theorem meets_attempt {post : σ → Except Failure (Except Failure α) → σ → Prop}
    (m : Fiber σ α) :
    m.attempt.Meets terms post s₀ s ↔ m.Meets terms (fun t₀ r t => post t₀ (.ok r) t) s₀ s := by
  induction m generalizing s₀ s with
  | done a => exact Iff.rfl
  | fail e => exact Iff.rfl
  | read next ih => exact ih s
  | write s' next ih => exact and_congr_right fun _ => ih
  | wait w next ih => simp only [attempt, Meets, ih]

@[simp] theorem meets_state {post : σ → Except Failure σ → σ → Prop} :
    (state : Fiber σ σ).Meets terms post s₀ s ↔ post s₀ (.ok s) s := Iff.rfl

@[simp] theorem meets_gets {post : σ → Except Failure α → σ → Prop} (f : σ → α) :
    (gets f : Fiber σ α).Meets terms post s₀ s ↔ post s₀ (.ok (f s)) s := Iff.rfl

@[simp] theorem meets_update {post : σ → Except Failure Unit → σ → Prop} (f : σ → σ) :
    (update f : Fiber σ Unit).Meets terms post s₀ s ↔
      terms.change s (f s) ∧ post s₀ (.ok ()) (f s) := Iff.rfl

@[simp] theorem meets_ofExcept {post : σ → Except Failure α → σ → Prop} (r : Except Failure α) :
    (ofExcept r : Fiber σ α).Meets terms post s₀ s ↔ post s₀ r s := by
  cases r <;> exact Iff.rfl

/-- A wait: something has to hold before it, and the end follows from whatever it may come to. -/
@[simp] theorem meets_await {post : σ → Except Failure Unit → σ → Prop} (w : Wait) :
    (await w : Fiber σ Unit).Meets terms post s₀ s ↔
      terms.pause s₀ w s ∧ ∀ answer s', terms.answers answer → terms.rely s s' →
        terms.resume s w answer s' → post s' answer s' := by
  refine and_congr_right fun _ => forall_congr' fun answer => forall_congr' fun s' =>
    forall_congr' fun _ => forall_congr' fun _ => forall_congr' fun _ => ?_
  rw [meets_ofExcept]

/-- What is done at the end is done after results and failures alike, and a failure of its own
replaces what there was. -/
@[simp] theorem meets_ensure {post : σ → Except Failure α → σ → Prop} (last : Fiber σ Unit)
    (m : Fiber σ α) :
    (ensure last m).Meets terms post s₀ s ↔
      m.Meets terms (fun t₀ r t =>
        last.Meets terms (byOutcome (fun u₀ _ u => post u₀ r u)
          (fun u₀ e u => post u₀ (.error e) u)) t₀ t) s₀ s := by
  rw [ensure, meets_bind, meets_attempt]
  simp only [byOutcome_ok, meets_bind, meets_ofExcept]

/-- A failure leads on to what catches it, in the same stretch. -/
@[simp] theorem meets_recover {post : σ → Except Failure α → σ → Prop}
    (handler : Failure → Fiber σ α) (m : Fiber σ α) :
    (recover handler m).Meets terms post s₀ s ↔
      m.Meets terms (byOutcome (fun t₀ a t => post t₀ (.ok a) t)
        fun t₀ e t => (handler e).Meets terms post t₀ t) s₀ s := by
  rw [recover, meets_bind, meets_attempt]
  simp only [byOutcome_ok]
  constructor
  · refine fun h => h.mono fun t₀ r t hr => ?_
    cases r with
    | ok a => exact hr
    | error e => exact hr
  · refine fun h => h.mono fun t₀ r t hr => ?_
    cases r with
    | ok a => exact hr
    | error e => exact hr

/-- Without terms, what holds at the end of two fibers is up to the second one, unless the first one
fails. -/
theorem Meets.of_last {post : σ → Except Failure β → σ → Prop} (m : Fiber σ α) {f : α → Fiber σ β}
    (hf : ∀ a s₀ s, (f a).Meets {} post s₀ s) (hfail : ∀ s₀ e s, post s₀ (.error e) s) :
    (m >>= f).Meets {} post s₀ s := by
  show (bind f m).Meets {} post s₀ s
  induction m generalizing s₀ s with
  | done a => exact hf a s₀ s
  | fail e => exact hfail s₀ e s
  | read next ih => exact ih s
  | write s' next ih => exact ⟨trivial, ih⟩
  | wait w next ih => exact ⟨trivial, fun answer _ _ _ _ => ih answer⟩

end Meets

/-! ### Terms and stretches -/

/-- What is left of the terms where a stretch that began in `s₀` ends in `s`. -/
def AtPause (terms : Terms σ) (post : σ → Except Failure α → σ → Prop) (s₀ s : σ) :
    Pause σ α → Prop
  | .done a => post s₀ (.ok a) s
  | .fail e => post s₀ (.error e) s
  | .wait w next =>
    terms.pause s₀ w s ∧ ∀ answer s', terms.answers answer → terms.rely s s' →
      terms.resume s w answer s' → (next answer).Meets terms post s' s'

/-- Keeping to the terms is a matter of the changes up to the next wait, and of what is left of the
terms there. -/
theorem meets_iff_advance {terms : Terms σ} {post : σ → Except Failure α → σ → Prop}
    {m : Fiber σ α} {s₀ s : σ} :
    m.Meets terms post s₀ s ↔
      (∀ c ∈ m.changes s, terms.change c.1 c.2) ∧
        AtPause terms post s₀ (m.advance s).1 (m.advance s).2 := by
  induction m generalizing s with
  | done a => simp [Meets, changes, advance, AtPause]
  | fail e => simp [Meets, changes, advance, AtPause]
  | read next ih => exact ih s
  | write s' next ih => simp [Meets, changes, advance, ih, and_assoc]
  | wait w next ih => simp [Meets, changes, advance, AtPause]

/-- What each change of a stretch carries on, the whole stretch carries on. -/
theorem advance_of_changes {R : σ → σ → Prop} (hrefl : ∀ s, R s s)
    (htrans : ∀ s s' s'', R s s' → R s' s'' → R s s'') {m : Fiber σ α} {s : σ}
    (h : ∀ c ∈ m.changes s, R c.1 c.2) : R s (m.advance s).1 := by
  induction m generalizing s with
  | done a => exact hrefl s
  | fail e => exact hrefl s
  | read next ih => exact ih s h
  | write s' next ih =>
    obtain ⟨hfirst, hrest⟩ := List.forall_mem_cons.mp h
    exact htrans _ _ _ hfirst (ih hrest)
  | wait w next ih => exact hrefl s

/-- What a fiber does without waiting may be left out when the terms allow it. -/
theorem Goes.meets_iff {terms : Terms σ} {post : σ → Except Failure α → σ → Prop}
    {m m' : Fiber σ α} {s₀ s t : σ} {made : List (σ × σ)} (h : Goes m s made m' t) :
    m.Meets terms post s₀ s ↔
      (∀ c ∈ made, terms.change c.1 c.2) ∧ m'.Meets terms post s₀ t := by
  induction h with
  | here => simp
  | read _ ih => exact ih
  | write _ ih => simp [Meets, ih, and_assoc]

/-! ### Steady fibers -/

/-- In all stretches and from all states, the changes and the waits of the fiber are of these
kinds. -/
def Steady (change : σ → σ → Prop) (waits : Wait → Prop) (m : Fiber σ α) : Prop :=
  ∀ s₀ s, m.Meets { change, pause := fun _ w _ => waits w } (fun _ _ _ => True) s₀ s

section Steady

variable {change change' : σ → σ → Prop} {waits waits' : Wait → Prop}

theorem Steady.pure (a : α) : Steady change waits (pure a : Fiber σ α) := fun _ _ => trivial

theorem Steady.fail (e : Failure) : Steady change waits (fail e : Fiber σ α) := fun _ _ => trivial

theorem Steady.state : Steady change waits (state : Fiber σ σ) := fun _ _ => trivial

theorem Steady.gets (f : σ → α) : Steady change waits (gets f) := fun _ _ => trivial

theorem Steady.ofExcept (r : Except Failure α) : Steady change waits (ofExcept r : Fiber σ α) := by
  intro s₀ s
  rw [meets_ofExcept]
  trivial

theorem Steady.update {f : σ → σ} (h : ∀ s, change s (f s)) : Steady change waits (update f) :=
  fun _ s => ⟨h s, trivial⟩

theorem Steady.await {w : Wait} (h : waits w) : Steady change waits (await w : Fiber σ Unit) := by
  intro s₀ s
  rw [meets_await]
  exact ⟨h, fun _ _ _ _ _ => trivial⟩

/-- What comes after a steady fiber is steady from any state, so nothing has to be known of that. -/
theorem Steady.bind {m : Fiber σ α} {f : α → Fiber σ β} (hm : Steady change waits m)
    (hf : ∀ a, Steady change waits (f a)) : Steady change waits (m >>= f) := by
  intro s₀ s
  rw [meets_bind]
  refine (hm s₀ s).mono fun t₀ r t _ => ?_
  cases r with
  | ok a => exact hf a t₀ t
  | error e => trivial

theorem Steady.attempt {m : Fiber σ α} (hm : Steady change waits m) :
    Steady change waits m.attempt := by
  intro s₀ s
  rw [meets_attempt]
  exact hm s₀ s

theorem Steady.ensure {last : Fiber σ Unit} {m : Fiber σ α} (hlast : Steady change waits last)
    (hm : Steady change waits m) : Steady change waits (ensure last m) :=
  hm.attempt.bind fun _ => hlast.bind fun _ => Steady.ofExcept _

theorem Steady.recover {handler : Failure → Fiber σ α} {m : Fiber σ α}
    (hhandler : ∀ e, Steady change waits (handler e)) (hm : Steady change waits m) :
    Steady change waits (recover handler m) := by
  refine hm.attempt.bind fun r => ?_
  cases r with
  | ok a => exact Steady.pure a
  | error e => exact hhandler e

/-- A steady fiber keeps to any terms that follow from a relation between the state that a stretch
began in and the present one, when each of its changes carries that relation on and each answer
lets it begin anew. -/
theorem Steady.meets {m : Fiber σ α} (hm : Steady change waits m) {terms : Terms σ}
    {post : σ → Except Failure α → σ → Prop} (since : σ → σ → Prop)
    (hwait : ∀ s₀ w s answer s', since s₀ s → terms.rely s s' → terms.resume s w answer s' →
      since s' s')
    (hchange : ∀ s₀ s s', since s₀ s → change s s' → terms.change s s' ∧ since s₀ s')
    (hpause : ∀ s₀ w s, since s₀ s → waits w → terms.pause s₀ w s)
    (hpost : ∀ s₀ r s, since s₀ s → post s₀ r s) {s₀ s : σ} (h : since s₀ s) :
    m.Meets terms post s₀ s := by
  -- steadiness is about all states; the induction takes along what it says of this one
  have key := hm s₀ s
  clear hm
  induction m generalizing s₀ s with
  | done a => exact hpost s₀ _ s h
  | fail e => exact hpost s₀ _ s h
  | read next ih => exact ih s h key
  | write s' next ih =>
    obtain ⟨h₁, h₂⟩ := hchange s₀ s s' h key.1
    exact ⟨h₁, ih h₂ key.2⟩
  | wait w next ih =>
    -- the next stretch begins wherever the others have left the state
    refine ⟨hpause s₀ w s h key.1, fun answer s' _ hs' hr => ?_⟩
    exact ih answer (hwait s₀ w s answer s' h hs' hr) (key.2 answer s' trivial trivial trivial)

/-- A steady fiber that does not wait keeps to any terms that follow from what each of its changes
carries on. -/
theorem Steady.meets_at_once {m : Fiber σ α} (hm : Steady change (fun _ => False) m)
    {terms : Terms σ} {post : σ → Except Failure α → σ → Prop} {s₀ : σ} (known : σ → Prop)
    (hchange : ∀ s s', known s → change s s' → terms.change s s' ∧ known s')
    (hpost : ∀ r s, known s → post s₀ r s) {s : σ} (h : known s) : m.Meets terms post s₀ s := by
  have key := hm s₀ s
  clear hm
  induction m generalizing s with
  | done a => exact hpost _ s h
  | fail e => exact hpost _ s h
  | read next ih => exact ih s h key
  | write s' next ih =>
    obtain ⟨h₁, h₂⟩ := hchange s s' h key.1
    exact ⟨h₁, ih h₂ key.2⟩
  -- there is no wait
  | wait w next ih => exact key.1.elim

/-- The terms as long as something holds of the state.  Once it does not nothing is asked for any
more, and others do not mend it. -/
def Terms.asLongAs (terms : Terms σ) (intact : σ → Prop) : Terms σ where
  rely s s' := (intact s' → intact s) ∧ (intact s' → terms.rely s s')
  answers := terms.answers
  resume s w answer s' := intact s' → terms.resume s w answer s'
  change s s' := intact s' → terms.change s s'
  pause s₀ w s := intact s → terms.pause s₀ w s

/-- Who does not mend it either keeps to terms for as long as they are asked for. -/
theorem Meets.asLongAs {terms : Terms σ} {intact : σ → Prop}
    {post : σ → Except Failure α → σ → Prop} {m : Fiber σ α} {s₀ s : σ}
    (h : intact s → m.Meets terms post s₀ s)
    (hm : Steady (fun s s' => intact s' → intact s) waits m) :
    m.Meets (terms.asLongAs intact) (fun s₀ r s => intact s → post s₀ r s) s₀ s := by
  have key := hm s₀ s
  clear hm
  -- what holds after a step is carried back to the state before it, where the terms are known
  induction m generalizing s₀ s with
  | done a => exact h
  | fail e => exact h
  | read next ih => exact ih s h key
  | write s' next ih =>
    exact ⟨fun hs' => (h (key.1 hs')).1, ih (fun hs' => (h (key.1 hs')).2) key.2⟩
  | wait w next ih =>
    refine ⟨fun hs => (h hs).1, fun answer s' ha hs hr => ?_⟩
    refine ih answer (fun hs' => ?_) (key.2 answer s' trivial trivial trivial)
    exact (h (hs.1 hs')).2 answer s' ha (hs.2 hs') (hr hs')

/-- A steady fiber is so for more changes and more waits. -/
theorem Steady.mono {m : Fiber σ α} (hm : Steady change waits m)
    (hchange : ∀ s s', change s s' → change' s s') (hwaits : ∀ w, waits w → waits' w) :
    Steady change' waits' m := by
  intro s₀ s
  exact hm.meets (fun _ _ => True) (fun _ _ _ _ _ _ _ _ => trivial)
    (fun _ s s' _ h => ⟨hchange s s' h, trivial⟩) (fun _ w _ _ h => hwaits w h)
    (fun _ _ _ _ => trivial) trivial

end Steady

end Fiber

end ResumableWatch
