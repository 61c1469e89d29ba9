import ResumableWatch.Proofs.Fiber.Agreement
/-!
# A loop and its companion

A loop goes round over a state that it shares with a companion, which goes round as well, and with
others.  A `Tandem` is what this has come to; what happens next is an `Occasion`: one of the two goes
on, with an answer to the wait that it has come to, or somebody else acts.  So a list of occasions
decides a run, with all that the scheduler and the clock have to say about it.

`Tandem.run_agree` compares two runs.  If the rounds of the loops agree in all that is seen, and the
companions do nothing that is seen, the runs cannot be told apart, however often and whenever the
companions go on in either of them.
-/

namespace ResumableWatch

open ResumableWatch.Fiber

variable {σ γ : Type}

/-- What a loop goes on with after a pause: the rest of this round, or another one. -/
def Pause.onward (round : Fiber σ Bool) : Pause σ Bool → Option (Wakeup → Fiber σ Bool)
  | .done true => some fun _ => round
  | .done false => none
  | .fail _ => none
  | .wait _ next => some next

/-- The wait that a stretch ends in, if it ends in one, as a step. -/
def Pause.step : {α : Type} → Pause σ α → List (Step σ)
  | _, .done _ => []
  | _, .fail _ => []
  | _, .wait what _ => [.wait what]

/-! ### Runs -/

/-- What happens next. -/
inductive Occasion (σ : Type) where
  /-- The loop begins, or goes on with an answer to its wait. -/
  | loop (answer : Wakeup)
  /-- So does its companion. -/
  | companion (answer : Wakeup)
  /-- Somebody else does something. -/
  | elsewhere (act : σ → σ)

/-- Whether the companion goes on. -/
def Occasion.isCompanion : Occasion σ → Bool
  | companion _ => true
  | _ => false

/-- What has come of a loop and its companion. -/
structure Tandem (σ : Type) where
  state : σ
  /-- What the loop goes on with, unless it has ended. -/
  loop : Option (Wakeup → Fiber σ Bool)
  /-- What the companion goes on with, unless it has ended. -/
  companion : Option (Wakeup → Fiber σ Bool)
  /-- All changes of the state, with the waits of the loop between them. -/
  past : List (Step σ) := []

namespace Tandem

/-- A loop and its companion before they begin. -/
def first (round company : Fiber σ Bool) (s : σ) : Tandem σ where
  state := s
  loop := some fun _ => round
  companion := some fun _ => company

/-- The loop makes a stretch. -/
def goOn (round m : Fiber σ Bool) (p : Tandem σ) : Tandem σ :=
  { p with
    state := (m.advance p.state).1
    loop := (m.advance p.state).2.onward round
    past := p.past ++ (Step.ofChanges (m.changes p.state) ++ (m.advance p.state).2.step) }

/-- The companion makes a stretch. -/
def accompany (company m : Fiber σ Bool) (p : Tandem σ) : Tandem σ :=
  { p with
    state := (m.advance p.state).1
    companion := (m.advance p.state).2.onward company
    past := p.past ++ Step.ofChanges (m.changes p.state) }

/-- What an occasion comes to.  Who has ended does not go on. -/
def after (round company : Fiber σ Bool) (p : Tandem σ) : Occasion σ → Tandem σ
  | .loop answer =>
    match p.loop with
    | some next => p.goOn round (next answer)
    | none => p
  | .companion answer =>
    match p.companion with
    | some next => p.accompany company (next answer)
    | none => p
  | .elsewhere act => { p with state := act p.state, past := p.past ++ [.change p.state (act p.state)] }

/-- What some occasions come to, one after the other. -/
def run (round company : Fiber σ Bool) (s : σ) (occasions : List (Occasion σ)) : Tandem σ :=
  occasions.foldl (after round company) (first round company s)

end Tandem

/-! ### What is not seen -/

/-- A fiber that changes nothing that is seen. -/
def Fiber.Unseen (view : σ → γ) {α : Type} (m : Fiber σ α) : Prop :=
  Steady (fun s s' => view s' = view s) (fun _ => True) m

/-- A companion that goes on without being seen, if it goes on. -/
def Fiber.Quiet (view : σ → γ) (company : Option (Wakeup → Fiber σ Bool)) : Prop :=
  ∀ next, company = some next → ∀ answer s,
    (next answer).Meets { change := fun s s' => view s' = view s } (fun _ _ _ => True) s s

variable {view : σ → γ} {round round' company company' m m' : Fiber σ Bool} {s s' : σ}
  {p p' : Tandem σ}

/-- A companion that is not seen is so from the beginning of each of its rounds. -/
theorem Fiber.Unseen.quiet (h : Unseen view company) : Quiet view (some fun _ => company) := by
  rintro next ⟨⟩ answer s
  exact h s s

/-- A stretch of a companion is not seen, and leaves one that is not. -/
theorem Fiber.Unseen.stretch (h : Unseen view company)
    (hm : m.Meets { change := fun s s' => view s' = view s } (fun _ _ _ => True) s s) :
    (∀ c ∈ m.changes s, view c.2 = view c.1) ∧ view (m.advance s).1 = view s ∧
      Quiet view ((m.advance s).2.onward company) := by
  obtain ⟨hchanges, hpause⟩ := meets_iff_advance.mp hm
  refine ⟨hchanges, ?_, ?_⟩
  · exact advance_of_changes (R := fun s s' => view s' = view s) (fun _ => rfl)
      (fun _ _ _ h₁ h₂ => h₂.trans h₁) hchanges
  · -- the companion has ended a round, has failed, or waits; in none of these is
    -- anything seen of what comes next
    cases heq : (m.advance s).2 with
    | done more =>
      cases more with
      | true => exact h.quiet
      | false => exact fun _ hnext => by cases hnext
    | fail e => exact fun _ hnext => by cases hnext
    | wait what next =>
      rw [heq] at hpause
      rintro _ ⟨⟩ answer t
      exact hpause.2 answer t trivial trivial trivial

/-! ### Two runs -/

/-- What two loops go on with agrees. -/
abbrev Fiber.Onward (view : σ → γ) :
    Option (Wakeup → Fiber σ Bool) → Option (Wakeup → Fiber σ Bool) → Prop :=
  Option.Rel fun next next' => ∀ answer, Agree view Eq (next answer) (next' answer)

/-- What comes after pauses that are alike is alike, be it the rest of a round or the next one. -/
theorem Fiber.Alongside.onward {pause pause' : Pause σ Bool} (h : Alongside view Eq pause pause')
    (hround : Agree view Eq round round') :
    Onward view (pause.onward round) (pause'.onward round') := by
  cases h with
  | @ended r r' hr =>
    subst hr
    rcases r with e | _ | _
    · exact .none
    · exact .none
    · exact .some fun _ => hround
  | wait hnext => exact .some hnext

/-- Two loops that go on alike are both left or both over. -/
theorem Fiber.Onward.isSome_eq {loop loop' : Option (Wakeup → Fiber σ Bool)}
    (h : Onward view loop loop') : loop.isSome = loop'.isSome := by
  cases h <;> rfl

/-- Pauses that are alike show the same wait, or none. -/
theorem Fiber.Alongside.step {pause pause' : Pause σ Bool} (h : Alongside view Eq pause pause') :
    Matched view pause.step pause'.step := by
  cases h with
  | @ended r r' hr =>
    subst hr
    cases r with
    | ok a => exact .nil
    | error e => exact .nil
  | wait hnext => exact .wait .nil

namespace Tandem

/-- Two tandems that cannot be told apart. -/
structure Alike (view : σ → γ) (p p' : Tandem σ) : Prop where
  state : view p.state = view p'.state
  loop : Onward view p.loop p'.loop
  quiet : Quiet view p.companion
  quiet' : Quiet view p'.companion
  past : Matched view p.past p'.past

namespace Alike

/-- The loop goes on in both. -/
theorem goOn (h : Alike view p p') (hround : Agree view Eq round round')
    (hm : Agree view Eq m m') : Alike view (p.goOn round m) (p'.goOn round' m') := by
  obtain ⟨hmatched, hstate, hpauses⟩ := (hm p.state p'.state h.state).advance
  exact ⟨hstate, hpauses.onward hround, h.quiet, h.quiet',
    h.past.append (hmatched.append hpauses.step)⟩

/-- The companion goes on in the first one. -/
theorem accompanyLeft (h : Alike view p p') (hcompany : Unseen view company) (answer : Wakeup) :
    Alike view (p.after round company (.companion answer)) p' := by
  rw [Tandem.after]
  split
  · rename_i next hnext
    obtain ⟨hchanges, hstate, hquiet⟩ := hcompany.stretch (h.quiet next hnext answer p.state)
    refine ⟨hstate.trans h.state, h.loop, hquiet, h.quiet', ?_⟩
    rw [← List.append_nil p'.past]
    exact h.past.append (.of_unseen hchanges)
  · exact h

/-- The companion goes on in the second one. -/
theorem accompanyRight (h : Alike view p p') (hcompany : Unseen view company') (answer : Wakeup) :
    Alike view p (p'.after round' company' (.companion answer)) := by
  rw [Tandem.after]
  split
  · rename_i next hnext
    obtain ⟨hchanges, hstate, hquiet⟩ := hcompany.stretch (h.quiet' next hnext answer p'.state)
    refine ⟨h.state.trans hstate.symm, h.loop, h.quiet, hquiet, ?_⟩
    rw [← List.append_nil p.past]
    exact h.past.append (Matched.of_unseen hchanges).symm
  · exact h

/-- The same happens in both, and it is not the companion that goes on. -/
theorem after (h : Alike view p p') (hround : Agree view Eq round round') {o : Occasion σ}
    (ho : o.isCompanion = false)
    (hact : ∀ act, o = .elsewhere act → ∀ s s', view s = view s' → view (act s) = view (act s')) :
    Alike view (p.after round company o) (p'.after round' company' o) := by
  cases o with
  | companion answer => cases ho
  | loop answer =>
    have hloop := h.loop
    rw [Tandem.after, Tandem.after]
    -- where one loop has come to its end, so has the other
    cases hleft : p.loop with
    | none =>
      rw [hleft] at hloop
      cases hright : p'.loop with
      | none => exact h
      | some next' =>
        rw [hright] at hloop
        cases hloop
    | some next =>
      rw [hleft] at hloop
      cases hright : p'.loop with
      | none =>
        rw [hright] at hloop
        cases hloop
      | some next' =>
        rw [hright] at hloop
        cases hloop with
        | some hnext => exact h.goOn hround (hnext answer)
  | elsewhere act =>
    -- what others do is seen alike on both sides
    have hstate := hact act rfl _ _ h.state
    exact ⟨hstate, h.loop, h.quiet, h.quiet', h.past.append (.change h.state hstate .nil)⟩

/-- Only the companion goes on in the second one. -/
theorem afterCompany (h : Alike view p p') (hcompany : Unseen view company')
    {occasions : List (Occasion σ)} (hall : ∀ o ∈ occasions, o.isCompanion = true) :
    Alike view p (occasions.foldl (Tandem.after round' company') p') := by
  induction occasions generalizing p' with
  | nil => exact h
  | cons o rest ih =>
    obtain ⟨ho, hrest⟩ := List.forall_mem_cons.mp hall
    cases o with
    | companion answer => exact ih (h.accompanyRight hcompany answer) hrest
    | loop answer => cases ho
    | elsewhere act => cases ho

/-- Two tandems that cannot be told apart stay so when the same happens in both but for what their
companions do. -/
theorem run (h : Alike view p p') (hround : Agree view Eq round round')
    (hcompany : Unseen view company) (hcompany' : Unseen view company')
    {occasions occasions' : List (Occasion σ)}
    (hacts : ∀ act, .elsewhere act ∈ occasions →
      ∀ s s', view s = view s' → view (act s) = view (act s'))
    (hsame : occasions.filter (!·.isCompanion) = occasions'.filter (!·.isCompanion)) :
    Alike view (occasions.foldl (Tandem.after round company) p)
      (occasions'.foldl (Tandem.after round' company') p') := by
  -- the second run is brought up to date before each step that the two have in common
  induction occasions generalizing occasions' p p' with
  | nil =>
    refine h.afterCompany hcompany' fun o ho => ?_
    simpa using List.filter_eq_nil_iff.mp hsame.symm o ho
  | cons o rest ih =>
    have hrest : ∀ act, .elsewhere act ∈ rest →
        ∀ s s', view s = view s' → view (act s) = view (act s') :=
      fun act hmem => hacts act (List.mem_cons_of_mem o hmem)
    cases ho : o.isCompanion with
    | true =>
      cases o with
      | companion answer => exact ih (h.accompanyLeft hcompany answer) hrest hsame
      | loop answer => cases ho
      | elsewhere act => cases ho
    | false =>
      -- before the same happens in the second one, only its companion goes on
      rw [List.filter_cons_of_pos (by rw [ho]; rfl)] at hsame
      obtain ⟨before, after, rfl, hbefore, -, hafter⟩ := List.filter_eq_cons_iff.mp hsame.symm
      have hfound : Alike view p (before.foldl (Tandem.after round' company') p') :=
        h.afterCompany hcompany' fun x hx => by simpa using hbefore x hx
      rw [List.foldl_append]
      refine ih (hfound.after hround ho fun act hact => ?_) hrest hafter.symm
      exact hacts act (hact ▸ List.mem_cons_self)

end Alike

/-- **Two runs.**  If the rounds of two loops agree in all that is seen, and their companions are not
seen, nothing that is seen tells two runs apart in which the same happens otherwise. -/
theorem run_agree (hround : Agree view Eq round round') (hcompany : Unseen view company)
    (hcompany' : Unseen view company') (hs : view s = view s')
    {occasions occasions' : List (Occasion σ)}
    (hacts : ∀ act, .elsewhere act ∈ occasions →
      ∀ s s', view s = view s' → view (act s) = view (act s'))
    (hsame : occasions.filter (!·.isCompanion) = occasions'.filter (!·.isCompanion)) :
    Alike view (run round company s occasions) (run round' company' s' occasions') := by
  have hfirst : Alike view (first round company s) (first round' company' s') :=
    ⟨hs, .some fun _ => hround, hcompany.quiet, hcompany'.quiet, .nil⟩
  exact hfirst.run hround hcompany hcompany' hacts hsame

end Tandem

end ResumableWatch
