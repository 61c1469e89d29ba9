import ResumableWatch.Proofs.Fiber.Courses
import ResumableWatch.Proofs.Fiber.Interplay
/-!
# Fibers that agree

Two fibers, each in a state of its own, run abreast when all that tells them apart is out of sight:
as far as the states are seen through a `view`, they make the same changes, they come to the same
waits, and they go on like this whenever they are answered alike and find states that look alike
(`Abreast`).  What is not seen one of them may do, and the other one need not.

`Agree` says so of all states that look alike.  It is carried along programs: all that is to be shown
is that they go by nothing that is out of sight (`Agree.look`), and make changes that look alike of
states that do (`Agree.update`).  Their results may differ and still correspond (`Likewise`).
`Abreast.advance` is what it comes to for one stretch.
-/

namespace ResumableWatch

namespace Fiber

variable {σ γ α α' β β' : Type} {view : σ → γ} {s s' t t' : σ}

/-! ### Two fibers -/

/-- Where nothing was done that is seen, nothing looks different. -/
theorem Goes.view_eq {m m₁ : Fiber σ α} {made : List (σ × σ)} (h : Goes m s made m₁ t)
    (hunseen : ∀ c ∈ made, view c.2 = view c.1) : view t = view s := by
  induction h with
  | here => rfl
  | read _ ih => exact ih hunseen
  | write _ ih =>
    obtain ⟨hfirst, hrest⟩ := List.forall_mem_cons.mp hunseen
    exact (ih hrest).trans hfirst

/-- Two fibers in two states that look alike, which have come to no difference that is seen, and will
come to none.  `post` says how they may end. -/
inductive Abreast (view : σ → γ) (post : Except Failure α → Except Failure β → Prop) :
    Fiber σ α → σ → Fiber σ β → σ → Prop
  | ended {r r' s s'} :
    view s = view s' → post r r' → Abreast view post (ofExcept r) s (ofExcept r') s'
  | wait {what next next' s s'} :
    view s = view s' →
      (∀ answer t t', view t = view t' →
        Abreast view post (next answer) t (next' answer) t') →
      Abreast view post (.wait what next) s (.wait what next') s'
  | change {t next t' next' s s'} :
    view s = view s' → Abreast view post next t next' t' →
      Abreast view post (.write t next) s (.write t' next') s'
  | readLeft {next s m' s'} :
    Abreast view post (next s) s m' s' → Abreast view post (.read next) s m' s'
  | readRight {m s next s'} :
    Abreast view post m s (next s') s' → Abreast view post m s (.read next) s'
  | unseenLeft {t next s m' s'} :
    view t = view s → Abreast view post next t m' s' → Abreast view post (.write t next) s m' s'
  | unseenRight {m s t' next s'} :
    view t' = view s' → Abreast view post m s next t' → Abreast view post m s (.write t' next) s'

/-- Two fibers that run abreast from all states that look alike. -/
def Agree (view : σ → γ) (post : Except Failure α → Except Failure β → Prop) (m : Fiber σ α)
    (m' : Fiber σ β) : Prop :=
  ∀ s s', view s = view s' → Abreast view post m s m' s'

/-- Two ends that are the same failure, or results of which `R` holds. -/
inductive Likewise (R : α → β → Prop) : Except Failure α → Except Failure β → Prop
  | ok {a b} : R a b → Likewise R (.ok a) (.ok b)
  | error (e) : Likewise R (.error e) (.error e)

theorem Likewise.refl {R : α → α → Prop} (h : ∀ a, R a a) (r : Except Failure α) :
    Likewise R r r := by
  cases r with
  | ok a => exact .ok (h a)
  | error e => exact .error e

/-- Ends that correspond by equality are equal. -/
theorem Likewise.eq {r r' : Except Failure α} (h : Likewise Eq r r') : r = r' := by
  cases h with
  | ok h => exact congrArg _ h
  | error e => rfl

theorem Likewise.symm {R : α → β → Prop} {R' : β → α → Prop} {r : Except Failure α}
    {r' : Except Failure β} (h : Likewise R r r') (hsymm : ∀ a b, R a b → R' b a) :
    Likewise R' r' r := by
  cases h with
  | ok h => exact .ok (hsymm _ _ h)
  | error e => exact .error e

theorem Likewise.trans {R : α → α → Prop} {r r' r'' : Except Failure α} (h : Likewise R r r')
    (htrans : ∀ a b c, R a b → R b c → R a c) (h' : Likewise R r' r'') : Likewise R r r'' := by
  cases h with
  | ok h =>
    cases h' with
    | ok h' => exact .ok (htrans _ _ _ h h')
  | error e => exact h'

theorem Likewise.mono {R R' : α → β → Prop} {r : Except Failure α} {r' : Except Failure β}
    (h : Likewise R r r') (himp : ∀ a b, R a b → R' a b) : Likewise R' r r' := by
  cases h with
  | ok h => exact .ok (himp _ _ h)
  | error e => exact .error e

namespace Abreast

variable {post : Except Failure α → Except Failure β → Prop}
  {post' : Except Failure α' → Except Failure β' → Prop} {m : Fiber σ α} {m' : Fiber σ β}

theorem done {a : α} {b : β} (hview : view s = view s') (h : post (.ok a) (.ok b)) :
    Abreast view post (.done a) s (.done b) s' :=
  show Abreast view post (ofExcept (.ok a)) s (ofExcept (.ok b)) s' from .ended hview h

theorem fail {e e' : Failure} (hview : view s = view s') (h : post (.error e) (.error e')) :
    Abreast view post (.fail e) s (.fail e') s' :=
  show Abreast view post (ofExcept (.error e)) s (ofExcept (.error e')) s' from .ended hview h

/-- Fibers that run abreast are in states that look alike. -/
theorem view_eq (h : Abreast view post m s m' s') : view s = view s' := by
  induction h with
  | ended hview _ => exact hview
  | wait hview _ => exact hview
  | change hview _ => exact hview
  | readLeft _ ih => exact ih
  | readRight _ ih => exact ih
  | unseenLeft hunseen _ ih => exact hunseen.symm.trans ih
  | unseenRight hunseen _ ih => exact ih.trans hunseen

/-- How two fibers may end is all that those which come after them can count on. -/
theorem bind {f : α → Fiber σ α'} {f' : β → Fiber σ β'} (h : Abreast view post m s m' s')
    (hrest : ∀ r r' t t', post r r' → view t = view t' →
      Abreast view post' (ofExcept r >>= f) t (ofExcept r' >>= f') t') :
    Abreast view post' (m >>= f) s (m' >>= f') s' := by
  -- Every step of the first parts is one of the whole; only at their ends is there anything to show.
  induction h with
  | ended hview hpost => exact hrest _ _ _ _ hpost hview
  | wait hview _ ih => exact .wait hview ih
  | change hview _ ih => exact .change hview ih
  | readLeft _ ih => exact .readLeft ih
  | readRight _ ih => exact .readRight ih
  | unseenLeft hunseen _ ih => exact .unseenLeft hunseen ih
  | unseenRight hunseen _ ih => exact .unseenRight hunseen ih

/-- Attempts run abreast as well, and what they result in is how the fibers end. -/
theorem attempt_bind {f : Except Failure α → Fiber σ α'} {f' : Except Failure β → Fiber σ β'}
    (h : Abreast view post m s m' s')
    (hrest : ∀ r r' t t', post r r' → view t = view t' →
      Abreast view post' (f r) t (f' r') t') :
    Abreast view post' (m.attempt >>= f) s (m'.attempt >>= f') s' := by
  induction h with
  | ended hview hpost =>
    -- both have ended; what follows is entered with the two ends
    rw [Course.attempt_ofExcept, Course.attempt_ofExcept]
    exact hrest _ _ _ _ hpost hview
  | wait hview _ ih => exact .wait hview ih
  | change hview _ ih => exact .change hview ih
  | readLeft _ ih => exact .readLeft ih
  | readRight _ ih => exact .readRight ih
  | unseenLeft hunseen _ ih => exact .unseenLeft hunseen ih
  | unseenRight hunseen _ ih => exact .unseenRight hunseen ih

theorem mono {post' : Except Failure α → Except Failure β → Prop}
    (h : Abreast view post m s m' s') (hpost : ∀ r r', post r r' → post' r r') :
    Abreast view post' m s m' s' := by
  induction h with
  | ended hview hr => exact .ended hview (hpost _ _ hr)
  | wait hview _ ih => exact .wait hview ih
  | change hview _ ih => exact .change hview ih
  | readLeft _ ih => exact .readLeft ih
  | readRight _ ih => exact .readRight ih
  | unseenLeft hunseen _ ih => exact .unseenLeft hunseen ih
  | unseenRight hunseen _ ih => exact .unseenRight hunseen ih

theorem symm (h : Abreast view post m s m' s') :
    Abreast view (fun r' r => post r r') m' s' m s := by
  induction h with
  | ended hview hpost => exact .ended hview.symm hpost
  | wait hview _ ih => exact .wait hview.symm fun answer t t' ht => ih answer t' t ht.symm
  | change hview _ ih => exact .change hview.symm ih
  | readLeft _ ih => exact .readRight ih
  | readRight _ ih => exact .readLeft ih
  | unseenLeft hunseen _ ih => exact .unseenRight hunseen ih
  | unseenRight hunseen _ ih => exact .unseenLeft hunseen ih

/-- One of two fibers may go on for a while as long as it is not seen. -/
theorem of_goes {m₁ : Fiber σ α} {made : List (σ × σ)} (hgoes : Goes m s made m₁ t)
    (hunseen : ∀ c ∈ made, view c.2 = view c.1) (h : Abreast view post m₁ t m' s') :
    Abreast view post m s m' s' := by
  induction hgoes with
  | here => exact h
  | read _ ih => exact .readLeft (ih hunseen h)
  | write _ ih =>
    obtain ⟨hfirst, hrest⟩ := List.forall_mem_cons.mp hunseen
    exact .unseenLeft hfirst (ih hrest h)

end Abreast

/-! ### Programs -/

namespace Agree

variable {post : Except Failure α → Except Failure β → Prop}

theorem ofExcept (r : Except Failure α) :
    Agree view Eq (Fiber.ofExcept r : Fiber σ α) (Fiber.ofExcept r) :=
  fun _ _ hview => .ended hview rfl

theorem pure (a : α) : Agree view Eq (pure a : Fiber σ α) (pure a) := Agree.ofExcept (.ok a)

theorem fail (e : Failure) : Agree view Eq (fail e : Fiber σ α) (fail e) :=
  Agree.ofExcept (.error e)

theorem await (what : Wait) : Agree view Eq (await what : Fiber σ Unit) (await what) :=
  fun _ _ hview => .wait hview fun _ _ _ ht => .ended ht rfl

/-- Two changes that look alike where the states do. -/
theorem update {f f' : σ → σ} (h : ∀ s s', view s = view s' → view (f s) = view (f' s')) :
    Agree view Eq (update f) (update f') :=
  fun s s' hview =>
    .readLeft (.readRight (.change hview (.done (h s s' hview) rfl)))

/-- What a change does is a matter of what is seen. -/
theorem update_through {f : σ → σ} (g : γ → γ) (h : ∀ s, view (f s) = g (view s)) :
    Agree view Eq (Fiber.update f) (Fiber.update f) :=
  update fun s s' hview => (h s).trans ((congrArg g hview).trans (h s').symm)

/-- What is read is the same where the states look alike. -/
theorem gets {f f' : σ → α} (h : ∀ s s', view s = view s' → f s = f' s') :
    Agree view Eq (gets f) (gets f') :=
  fun s s' hview => .readLeft (.readRight (.done hview (congrArg _ (h s s' hview))))

/-- What is read of the states leads on alike. -/
theorem look {δ : Type} {f : σ → δ} {g : δ → Fiber σ α} {g' : δ → Fiber σ β}
    (h : ∀ s s', view s = view s' → Agree view post (g (f s)) (g' (f s'))) :
    Agree view post (Fiber.gets f >>= g) (Fiber.gets f >>= g') :=
  fun s s' hview => .readLeft (.readRight (h s s' hview s s' hview))

/-- The states as they are lead on alike. -/
theorem state {g : σ → Fiber σ α} {g' : σ → Fiber σ β}
    (h : ∀ s s', view s = view s' → Agree view post (g s) (g' s')) :
    Agree view post (Fiber.state >>= g) (Fiber.state >>= g') :=
  look h

/-- What comes after two fibers that end alike says how both may end, but for their failures. -/
theorem before {post : Except Failure β → Except Failure β' → Prop} {m m' : Fiber σ α}
    {f : α → Fiber σ β} {f' : α → Fiber σ β'} (hm : Agree view Eq m m')
    (hf : ∀ a, Agree view post (f a) (f' a)) (hfail : ∀ e, post (.error e) (.error e)) :
    Agree view post (m >>= f) (m' >>= f') := by
  refine fun s s' hview => (hm s s' hview).bind fun r r' t t' hr ht => ?_
  subst hr
  cases r with
  | ok a => exact hf a t t' ht
  | error e => exact .fail ht (hfail e)

theorem bind {m m' : Fiber σ α} {f f' : α → Fiber σ β} (hm : Agree view Eq m m')
    (hf : ∀ a, Agree view Eq (f a) (f' a)) : Agree view Eq (m >>= f) (m' >>= f') :=
  hm.before hf fun _ => rfl

/-- An end that is turned into a result is the same one on both sides. -/
theorem attempt {m m' : Fiber σ α} (hm : Agree view Eq m m') :
    Agree view Eq m.attempt m'.attempt := by
  intro s s' hview
  rw [← bind_pure m.attempt, ← bind_pure m'.attempt]
  refine (hm s s' hview).attempt_bind fun r r' t t' hr ht => ?_
  subst hr
  exact Agree.pure r t t' ht

theorem ensure {last last' : Fiber σ Unit} {m m' : Fiber σ α} (hlast : Agree view Eq last last')
    (hm : Agree view Eq m m') : Agree view Eq (ensure last m) (Fiber.ensure last' m') :=
  hm.attempt.bind fun r => hlast.bind fun _ => Agree.ofExcept r

/-- What two fibers do about failures agrees when it does after any two ends that they may come
to. -/
theorem recover {post' : Except Failure α' → Except Failure α' → Prop}
    {handler handler' : Failure → Fiber σ α'} {m m' : Fiber σ α'} (hm : Agree view post' m m')
    (hrest : ∀ r r', post' r r' → Agree view Eq
      (Fiber.recover handler (Fiber.ofExcept r)) (Fiber.recover handler' (Fiber.ofExcept r'))) :
    Agree view Eq (Fiber.recover handler m) (Fiber.recover handler' m') := by
  refine fun s s' hview => (hm s s' hview).attempt_bind fun r r' t t' hr ht => ?_
  have h := hrest r r' hr t t' ht
  rw [Fiber.recover, Fiber.recover, Course.attempt_ofExcept, Course.attempt_ofExcept] at h
  exact h

/-- Failures that are answered alike are of no account. -/
theorem recover_of_eq {handler handler' : Failure → Fiber σ α} {m m' : Fiber σ α}
    (hm : Agree view Eq m m') (hhandler : ∀ e, Agree view Eq (handler e) (handler' e)) :
    Agree view Eq (Fiber.recover handler m) (Fiber.recover handler' m') := by
  refine hm.attempt.bind fun r => ?_
  cases r with
  | ok a => exact Agree.pure a
  | error e => exact hhandler e

/-- What is done without being seen agrees when it comes to the same. -/
theorem of_unseen {m m' : Fiber σ α} {r : Except Failure α}
    (h : ∀ s, ∃ made t, Goes m s made (Fiber.ofExcept r) t ∧ ∀ c ∈ made, view c.2 = view c.1)
    (h' : ∀ s, ∃ made t, Goes m' s made (Fiber.ofExcept r) t ∧ ∀ c ∈ made, view c.2 = view c.1) :
    Agree view Eq m m' := by
  intro s s' hview
  obtain ⟨made, t, hgoes, hmade⟩ := h s
  obtain ⟨made', t', hgoes', hmade'⟩ := h' s'
  have hlook : view t = view t' :=
    (hgoes.view_eq hmade).trans (hview.trans (hgoes'.view_eq hmade').symm)
  have hends : Abreast view Eq (Fiber.ofExcept r) t (Fiber.ofExcept r) t' := .ended hlook rfl
  -- `of_goes` lets the left one of two fibers go on, so the other one is brought to that side.
  refine .of_goes hgoes hmade ?_
  exact (Abreast.of_goes hgoes' hmade' hends.symm).symm.mono fun _ _ h => h

/-! ### Ends that correspond -/

section Likewise

variable {R : α → β → Prop} {R' : α' → β' → Prop} {m : Fiber σ α} {m' : Fiber σ β}

theorem mono {post' : Except Failure α → Except Failure β → Prop} (h : Agree view post m m')
    (hpost : ∀ r r', post r r' → post' r r') : Agree view post' m m' :=
  fun s s' hview => (h s s' hview).mono hpost

theorem of_likewise {m m' : Fiber σ α} (h : Agree view (Likewise Eq) m m') : Agree view Eq m m' :=
  h.mono fun _ _ => Likewise.eq

theorem result {a : α} {b : β} (h : R a b) :
    Agree view (Likewise R) (Pure.pure a : Fiber σ α) (Pure.pure b : Fiber σ β) :=
  fun _ _ hview => .done hview (.ok h)

theorem failing (e : Failure) :
    Agree view (Likewise R) (Fiber.fail e : Fiber σ α) (Fiber.fail e : Fiber σ β) :=
  fun _ _ hview => .fail hview (.error e)

theorem of_ends {r : Except Failure α} {r' : Except Failure β} (h : Likewise R r r') :
    Agree view (Likewise R) (Fiber.ofExcept r : Fiber σ α) (Fiber.ofExcept r' : Fiber σ β) :=
  fun _ _ hview => .ended hview h

/-- What comes after the same result says how both end. -/
theorem andThen {δ : Type} {m m' : Fiber σ δ} {f : δ → Fiber σ α} {f' : δ → Fiber σ β}
    (hm : Agree view Eq m m') (hf : ∀ a, Agree view (Likewise R) (f a) (f' a)) :
    Agree view (Likewise R) (m >>= f) (m' >>= f') :=
  hm.before hf .error

/-- What comes after results that correspond says how both end. -/
theorem seq {f : α → Fiber σ α'} {f' : β → Fiber σ β'} (hm : Agree view (Likewise R) m m')
    (hf : ∀ a b, R a b → Agree view (Likewise R') (f a) (f' b)) :
    Agree view (Likewise R') (m >>= f) (m' >>= f') := by
  refine fun s s' hview => (hm s s' hview).bind fun r r' t t' hr ht => ?_
  cases hr with
  | ok h => exact hf _ _ h t t' ht
  | error e => exact .fail ht (.error e)

/-- What is made of ends that correspond, whatever they are. -/
theorem attempted {f : Except Failure α → Fiber σ α'} {f' : Except Failure β → Fiber σ β'}
    {post' : Except Failure α' → Except Failure β' → Prop} (hm : Agree view post m m')
    (hf : ∀ r r', post r r' → Agree view post' (f r) (f' r')) :
    Agree view post' (m.attempt >>= f) (m'.attempt >>= f') :=
  fun s s' hview => (hm s s' hview).attempt_bind fun r r' t t' hr ht => hf r r' hr t t' ht

/-- What is done at the end does not change how the ends correspond, unless it fails itself. -/
theorem ensured {last last' : Fiber σ Unit} (hlast : Agree view Eq last last')
    (hm : Agree view (Likewise R) m m') :
    Agree view (Likewise R) (Fiber.ensure last m) (Fiber.ensure last' m') := by
  exact hm.attempted fun r r' hr => hlast.andThen fun _ => of_ends hr

end Likewise

end Agree

/-! ### One stretch -/

/-- Steps that look alike but for those that are not seen. -/
inductive Matched (view : σ → γ) : List (Step σ) → List (Step σ) → Prop
  | nil : Matched view [] []
  | change {s t s' t' steps steps'} :
    view s = view s' → view t = view t' → Matched view steps steps' →
      Matched view (.change s t :: steps) (.change s' t' :: steps')
  | wait {what steps steps'} :
    Matched view steps steps' → Matched view (.wait what :: steps) (.wait what :: steps')
  | unseenLeft {s t steps steps'} :
    view t = view s → Matched view steps steps' → Matched view (.change s t :: steps) steps'
  | unseenRight {s' t' steps steps'} :
    view t' = view s' → Matched view steps steps' → Matched view steps (.change s' t' :: steps')

namespace Matched

variable {steps steps' more more' : List (Step σ)}

/-- Steps that match, behind others that do. -/
theorem append (h : Matched view steps steps') (h' : Matched view more more') :
    Matched view (steps ++ more) (steps' ++ more') := by
  induction h with
  | nil => exact h'
  | change hs ht _ ih => exact .change hs ht ih
  | wait _ ih => exact .wait ih
  | unseenLeft hunseen _ ih => exact .unseenLeft hunseen ih
  | unseenRight hunseen _ ih => exact .unseenRight hunseen ih

/-- Changes that are not seen match nothing at all. -/
theorem of_unseen {made : List (σ × σ)} (h : ∀ c ∈ made, view c.2 = view c.1) :
    Matched view (Step.ofChanges made) [] := by
  induction made with
  | nil => exact .nil
  | cons c rest ih =>
    obtain ⟨hfirst, hrest⟩ := List.forall_mem_cons.mp h
    exact .unseenLeft hfirst (ih hrest)

theorem symm (h : Matched view steps steps') : Matched view steps' steps := by
  induction h with
  | nil => exact .nil
  | change hs ht _ ih => exact .change hs.symm ht.symm ih
  | wait _ ih => exact .wait ih
  | unseenLeft hunseen _ ih => exact .unseenRight hunseen ih
  | unseenRight hunseen _ ih => exact .unseenLeft hunseen ih

/-- What is read off each step is the same for steps that match, if it is a matter of what is seen,
and nothing is read off a change that is not. -/
theorem filterMap_eq {read : Step σ → Option β} (h : Matched view steps steps')
    (hchange : ∀ s t s' t', view s = view s' → view t = view t' →
      read (.change s t) = read (.change s' t'))
    (hunseen : ∀ s t, view t = view s → read (.change s t) = none) :
    steps.filterMap read = steps'.filterMap read := by
  induction h with
  | nil => rfl
  | change hs ht _ ih => rw [List.filterMap_cons, List.filterMap_cons, hchange _ _ _ _ hs ht, ih]
  | wait _ ih => rw [List.filterMap_cons, List.filterMap_cons, ih]
  | unseenLeft hsame _ ih => rw [List.filterMap_cons_none (hunseen _ _ hsame), ih]
  | unseenRight hsame _ ih => rw [List.filterMap_cons_none (hunseen _ _ hsame), ih]

/-- Steps that match come to the same waits. -/
theorem waits_eq (h : Matched view steps steps') : Step.waits steps = Step.waits steps' :=
  h.filterMap_eq (fun _ _ _ _ _ _ => rfl) fun _ _ _ => rfl

end Matched

/-- Two pauses between which no difference is seen. -/
inductive Alongside (view : σ → γ) (post : Except Failure α → Except Failure β → Prop) :
    Pause σ α → Pause σ β → Prop
  | ended {r r'} : post r r' → Alongside view post (.of r) (.of r')
  | wait {what next next'} :
    (∀ answer, Agree view post (next answer) (next' answer)) →
      Alongside view post (.wait what next) (.wait what next')

/-- A fiber that has ended stays where it is. -/
theorem advance_ofExcept (r : Except Failure α) (s : σ) :
    (ofExcept r).advance s = (s, Pause.of r) := by
  cases r <;> rfl

theorem changes_ofExcept (r : Except Failure α) (s : σ) : (ofExcept r).changes s = [] := by
  cases r <;> rfl

/-- **One stretch.**  Fibers that run abreast make changes that match up to their next pauses, which
are in states that look alike, and go on from there without a difference. -/
theorem Abreast.advance {post : Except Failure α → Except Failure β → Prop} {m : Fiber σ α}
    {m' : Fiber σ β} (h : Abreast view post m s m' s') :
    Matched view (Step.ofChanges (m.changes s)) (Step.ofChanges (m'.changes s')) ∧
      view (m.advance s).1 = view (m'.advance s').1 ∧
      Alongside view post (m.advance s).2 (m'.advance s').2 := by
  induction h with
  | ended hview hpost =>
    rw [advance_ofExcept, advance_ofExcept, changes_ofExcept, changes_ofExcept]
    exact ⟨.nil, hview, .ended hpost⟩
  -- both are at the same wait, and nothing has been done since
  | wait hview hnext _ => exact ⟨.nil, hview, .wait fun answer t t' ht => hnext answer t t' ht⟩
  | change hview hrest ih => exact ⟨.change hview hrest.view_eq ih.1, ih.2⟩
  | readLeft _ ih => exact ih
  | readRight _ ih => exact ih
  | unseenLeft hunseen _ ih => exact ⟨.unseenLeft hunseen ih.1, ih.2⟩
  | unseenRight hunseen _ ih => exact ⟨.unseenRight hunseen ih.1, ih.2⟩

end Fiber

end ResumableWatch
