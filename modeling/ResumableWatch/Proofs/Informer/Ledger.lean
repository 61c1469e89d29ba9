import Mathlib.Data.List.Basic
import ResumableWatch.Proofs.World.Change
/-!
# What the metrics are to account for

An `Occurrence` is something that a run is to be held to account for: a watch request, an item that
was received, a cursor that went back to the origin, a poll that found its cursor armed.
`Metrics.post` is what one occurrence makes of the metrics.  `accounts_postAll` reads the series
after any occurrences: each counter shows how many there were of its sort, and each histogram how
many waits there were, except that it loses a wait that is no number.
-/

namespace ResumableWatch

/-! ### Looking up series -/

section Upsert

variable {κ β : Type} [BEq κ] [LawfulBEq κ] [DecidableEq κ]

/-- Changes what is kept under a key; what is not kept yet is there from now on. -/
def upsert (key : κ) (f : β → β) (initial : β) : List (κ × β) → List (κ × β)
  | [] => [(key, f initial)]
  | (other, b) :: rest =>
    if other = key then (other, f b) :: rest else (other, b) :: upsert key f initial rest

/-- Only what is looked for under that key has changed. -/
theorem lookup_upsert (key other : κ) (f : β → β) (initial : β) (l : List (κ × β)) :
    (upsert key f initial l).lookup other
      = if other = key then some (f ((l.lookup key).getD initial)) else l.lookup other := by
  induction l with
  | nil =>
    rw [upsert, List.lookup_cons]
    by_cases h : other = key
    · rw [if_pos h, beq_iff_eq.mpr h]
      rfl
    · rw [if_neg h, beq_eq_false_iff_ne.mpr h]
  | cons entry rest ih =>
    obtain ⟨first, b⟩ := entry
    rw [upsert]
    by_cases hfirst : first = key
    · -- the entry is the one of the key
      subst hfirst
      rw [if_pos rfl, List.lookup_cons, List.lookup_cons, List.lookup_cons, beq_self_eq_true]
      by_cases h : other = first
      · rw [if_pos h, beq_iff_eq.mpr h]
        rfl
      · rw [if_neg h, beq_eq_false_iff_ne.mpr h]
    · rw [if_neg hfirst, List.lookup_cons, List.lookup_cons, ih, List.lookup_cons,
        beq_eq_false_iff_ne.mpr (Ne.symm hfirst)]
      by_cases h : other = first
      · have hother : other ≠ key := fun heq => hfirst (h.symm.trans heq)
        rw [beq_iff_eq.mpr h, if_neg hother, if_neg hother]
      · rw [beq_eq_false_iff_ne.mpr h]

end Upsert

/-! ### Histograms -/

namespace Backoffs

/-- All buckets are there. -/
def Whole (b : Backoffs) : Prop := b.buckets.length = bounds.length + 1

theorem whole_empty : empty.Whole := by
  rw [Whole, empty, List.length_replicate]

/-- There are as many buckets as before. -/
theorem length_drop (value : Double) {bounds : List Double} {buckets : List Nat}
    (h : buckets.length = bounds.length + 1) :
    (drop value bounds buckets).length = buckets.length := by
  induction bounds generalizing buckets with
  | nil =>
    cases buckets with
    | nil => rfl
    | cons n rest => rfl
  | cons bound bounds ih =>
    cases buckets with
    | nil => cases h
    | cons n rest =>
      rw [drop]
      split
      · rfl
      · rw [List.length_cons, List.length_cons, ih (Nat.succ.inj h)]

/-- Whatever is at most some bound is a number. -/
theorem isNan_of_le {value bound : Double} (h : value.le bound = true) : value.isNan = false := by
  rw [Double.le, Bool.and_eq_true, Bool.and_eq_true, Bool.not_eq_true'] at h
  exact h.1.1

/-- One more wait falls into one of the buckets, unless it is no number. -/
theorem foldl_drop (value : Double) {bounds : List Double} {buckets : List Nat}
    (h : buckets.length = bounds.length + 1) (a : Nat) :
    (drop value bounds buckets).foldl (· + ·) a
      = buckets.foldl (· + ·) a + if value.isNan then 0 else 1 := by
  have hmore (a n : Nat) (rest : List Nat) :
      rest.foldl (· + ·) (a + (n + 1)) = rest.foldl (· + ·) (a + n) + 1 := by
    rw [← Nat.add_assoc, Nat.add_comm _ 1, List.foldl_assoc, Nat.add_comm 1]
  induction bounds generalizing buckets a with
  | nil =>
    cases buckets with
    | nil => cases h
    | cons n rest =>
      rw [drop, List.foldl_cons, List.foldl_cons]
      -- the last bucket takes what is above all bounds, but for what is no number
      split
      · rfl
      · exact hmore a n rest
  | cons bound bounds ih =>
    cases buckets with
    | nil => cases h
    | cons n rest =>
      rw [drop]
      split
      · -- a value below a bound is a number, and falls in here
        rename_i hle
        rw [isNan_of_le hle, if_neg Bool.false_ne_true, List.foldl_cons, List.foldl_cons]
        exact hmore a n rest
      · rw [List.foldl_cons, List.foldl_cons, ih (Nat.succ.inj h)]

theorem Whole.observe {b : Backoffs} (h : b.Whole) (value : Double) : (b.observe value).Whole :=
  (length_drop value h).trans h

theorem count_observe {b : Backoffs} (h : b.Whole) (value : Double) :
    (b.observe value).count = b.count + if value.isNan then 0 else 1 :=
  foldl_drop value h 0

end Backoffs

/-! ### Series -/

namespace Metrics

/-- Counting is one kind of upsert. -/
theorem bump_eq (key : String × Labels) (l : List ((String × Labels) × Nat)) :
    bump key l = upsert key (· + 1) 0 l := by
  induction l with
  | nil => rfl
  | cons entry rest ih => rw [bump, upsert, ih]

/-- Observing a wait is another. -/
theorem observeIn_eq (kind : String) (f : Backoffs → Backoffs) (l : List (String × Backoffs)) :
    observeIn kind f l = upsert kind f .empty l := by
  induction l with
  | nil => rfl
  | cons entry rest ih => rw [observeIn, upsert, ih]

/-- What a counter shows; one that was never touched shows nothing. -/
def value (name : String) (labels : Labels) (m : Metrics) : Nat :=
  (m.counters.lookup (name, labels)).getD 0

/-- The histogram of a kind. -/
def histogram (kind : String) (m : Metrics) : Backoffs := (m.backoffs.lookup kind).getD .empty

/-- One counter with its labels goes up by one. -/
theorem value_count (name other : String) (labels labels' : Labels) (m : Metrics) :
    (m.count other labels').value name labels
      = m.value name labels + if name = other ∧ labels = labels' then 1 else 0 := by
  show ((bump (other, labels') m.counters).lookup (name, labels)).getD 0 = _
  rw [bump_eq, lookup_upsert]
  by_cases h : name = other ∧ labels = labels'
  · rw [if_pos (Prod.ext_iff.mpr h), if_pos h, h.1, h.2]
    rfl
  · rw [if_neg fun heq => h (Prod.ext_iff.mp heq), if_neg h]
    rfl

/-- One kind of informer has one more wait. -/
theorem histogram_observeBackoff (kind other : String) (seconds : Double) (m : Metrics) :
    (m.observeBackoff other seconds).histogram kind
      = if kind = other then (m.histogram kind).observe seconds else m.histogram kind := by
  show ((observeIn other (Backoffs.observe seconds) m.backoffs).lookup kind).getD .empty = _
  rw [observeIn_eq, lookup_upsert]
  by_cases h : kind = other
  · rw [if_pos h, if_pos h, h]
    rfl
  · rw [if_neg h, if_neg h]
    rfl

/-- All buckets of all histograms are there. -/
def Whole (m : Metrics) : Prop := ∀ kind, (m.histogram kind).Whole

end Metrics

/-! ### Occurrences -/

/-- What an error event is counted under: its reason, or its code where it gives none. -/
def Status.cause (status : Status) : String :=
  if status.reason.isEmpty then toString status.code else status.reason

/-- Something that the metrics are to account for. -/
inductive Occurrence where
  /-- A watch request was issued. -/
  | asked (request : WatchRequest)
  /-- An item was received from the server. -/
  | received (item : Item)
  /-- A poll took its cursor back to the origin. -/
  | rewound
  /-- A poll found its cursor armed, and is to wait that long. -/
  | armed (backoff : Double)

namespace Occurrence

/-- A watch request. -/
def isRequest : Occurrence → Bool
  | asked _ => true
  | _ => false

/-- An event of a type. -/
def isEvent (type : EventType) : Occurrence → Bool
  | received (.event e) => e.type = type
  | _ => false

/-- A failure of this library, of that kind. -/
def isFailure (typeName : String) : Occurrence → Bool
  | received (.failure f) => f.isOwn && f.typeName = typeName
  | _ => false

/-- An event with a status of that cause. -/
def isStatus (cause : String) : Occurrence → Bool
  | received (.event e) => e.status.any (·.cause = cause)
  | _ => false

/-- A cursor that went back to the origin. -/
def isRewind : Occurrence → Bool
  | rewound => true
  | _ => false

/-- A poll that found its cursor armed. -/
def isArmed : Occurrence → Bool
  | armed _ => true
  | _ => false

/-- A poll that found its cursor armed, with a wait that is a number. -/
def isWait : Occurrence → Bool
  | armed backoff => !backoff.isNan
  | _ => false

end Occurrence

/-! ### Entering occurrences -/

namespace Metrics

/-- What one occurrence makes of the metrics, under its kind. -/
def post (m : Metrics) (kind : String) : Occurrence → Metrics
  | .asked _ => m.countPoll kind
  | .received (.failure f) => if f.isOwn then m.countError kind f.typeName else m
  | .received (.event e) =>
    let counted := m.countEvent kind e.type.name
    match e.status with
    | some status => counted.countError kind status.cause
    | none => counted
  | .rewound => m.countResync kind
  | .armed backoff => m.observeBackoff kind backoff

/-- What occurrences make of the metrics, one after the other. -/
def postAll (m : Metrics) (entries : List (String × Occurrence)) : Metrics :=
  entries.foldl (fun m entry => m.post entry.1 entry.2) m

theorem postAll_append (m : Metrics) (first second : List (String × Occurrence)) :
    m.postAll (first ++ second) = (m.postAll first).postAll second := List.foldl_append

/-- What each occurrence adds to a figure, all of them together add to it. -/
theorem figure_postAll (figure : Metrics → Nat) (kept : Metrics → Prop)
    (total : List (String × Occurrence) → Nat) (weight : String → Occurrence → Nat)
    (hnil : total [] = 0) (hcons : ∀ e rest, total (e :: rest) = weight e.1 e.2 + total rest)
    (hpost : ∀ m kind o, kept m → kept (m.post kind o) ∧
      figure (m.post kind o) = figure m + weight kind o)
    (entries : List (String × Occurrence)) {m : Metrics} (hm : kept m) :
    figure (m.postAll entries) = figure m + total entries := by
  induction entries generalizing m with
  | nil =>
    rw [hnil]
    rfl
  | cons entry rest ih =>
    obtain ⟨hkept, hfigure⟩ := hpost m entry.1 entry.2 hm
    rw [hcons, ← Nat.add_assoc, ← hfigure]
    exact ih hkept

end Metrics

/-- The occurrences of a kind. -/
def occurrencesOf (kind : String) (entries : List (String × Occurrence)) : List Occurrence :=
  (entries.filter (·.1 = kind)).map Prod.snd

/-- What occurs to another kind is not counted for this one. -/
theorem countP_occurrencesOf_cons (kind : String) (p : Occurrence → Bool)
    (entry : String × Occurrence) (rest : List (String × Occurrence)) :
    (occurrencesOf kind (entry :: rest)).countP p
      = (if entry.1 = kind ∧ p entry.2 = true then 1 else 0)
        + (occurrencesOf kind rest).countP p := by
  rw [occurrencesOf, occurrencesOf, List.filter_cons]
  by_cases hkind : entry.1 = kind
  · rw [if_pos (decide_eq_true hkind), List.map_cons, List.countP_cons, Nat.add_comm]
    refine congrArg (· + _) ?_
    by_cases hp : p entry.2 = true
    · rw [if_pos hp, if_pos ⟨hkind, hp⟩]
    · rw [if_neg hp, if_neg fun h => hp h.2]
  · rw [if_neg fun h => hkind (of_decide_eq_true h), if_neg fun h => hkind h.1, Nat.zero_add]

/-! ### Accounts -/

/-- The series of a kind account for what occurred. -/
structure Accounts (kind : String) (seen : List Occurrence) (m : Metrics) : Prop where
  polls : m.value "kubeinformer_polls_total" [("kind", kind)] = seen.countP (·.isRequest)
  events : ∀ type : EventType,
    m.value "kubeinformer_events_total" [("event_type", type.name), ("kind", kind)]
      = seen.countP (·.isEvent type)
  errors : ∀ reason,
    m.value "kubeinformer_errors_total" [("kind", kind), ("reason", reason)]
      = seen.countP (·.isFailure reason) + seen.countP (·.isStatus reason)
  resyncs : m.value "kubeinformer_resyncs_total" [("kind", kind)] = seen.countP (·.isRewind)
  backoffs : (∀ seconds, .armed seconds ∈ seen → seconds.isNan = false) →
    (m.histogram kind).count = seen.countP (·.isArmed)
  /-- A wait that is no number falls into no bucket. -/
  waits : (m.histogram kind).count = seen.countP (·.isWait)

/-- Waits that are numbers are all that there are, unless some are none. -/
theorem countP_isWait {seen : List Occurrence}
    (h : ∀ seconds, .armed seconds ∈ seen → seconds.isNan = false) :
    seen.countP (·.isWait) = seen.countP (·.isArmed) := by
  refine List.countP_congr fun o ho => ?_
  cases o with
  | armed seconds => rw [Occurrence.isWait, Occurrence.isArmed, h seconds ho]; rfl
  | _ => exact Iff.rfl

/-- Types of events differ in their names, so their counters do. -/
theorem EventType.name_injective {type type' : EventType} (h : type.name = type'.name) :
    type = type' := by
  revert h
  cases type <;> cases type' <;> decide

namespace Metrics

section Post

variable (m : Metrics) (kind other : String) (o : Occurrence)

/-- The counters that an occurrence touches. -/
def touched (kind : String) : Occurrence → List (String × Labels)
  | .asked _ => [("kubeinformer_polls_total", [("kind", kind)])]
  | .received (.failure f) =>
    if f.isOwn then [("kubeinformer_errors_total", [("kind", kind), ("reason", f.typeName)])]
    else []
  | .received (.event e) =>
    ("kubeinformer_events_total", [("event_type", e.type.name), ("kind", kind)])
      :: e.status.toList.map fun status =>
        ("kubeinformer_errors_total", [("kind", kind), ("reason", status.cause)])
  | .rewound => [("kubeinformer_resyncs_total", [("kind", kind)])]
  | .armed _ => []

/-- Each counter that an occurrence touches shows one more. -/
theorem value_post (name : String) (labels : Labels) :
    (m.post kind o).value name labels
      = m.value name labels + (touched kind o).count (name, labels) := by
  -- whether the first of some counters is the one that is looked for
  have hkey (n : String) (l : Labels) (rest : List (String × Labels)) :
      ((n, l) :: rest).count (name, labels)
        = (if name = n ∧ labels = l then 1 else 0) + rest.count (name, labels) := by
    rw [List.count_cons, Nat.add_comm]
    refine congrArg (· + _) (if_congr ?_ rfl rfl)
    rw [beq_iff_eq, Prod.mk.injEq, eq_comm, @eq_comm _ l]
  cases o with
  | asked r => rw [post, touched, countPoll, value_count, hkey, List.count_nil, Nat.add_zero]
  | rewound => rw [post, touched, countResync, value_count, hkey, List.count_nil, Nat.add_zero]
  | armed backoff => rfl
  | received item =>
    cases item with
    | failure f =>
      rw [post, touched]
      split
      · rw [countError, value_count, hkey, List.count_nil, Nat.add_zero]
      · rfl
    | event e =>
      rw [post, touched, hkey]
      cases e.status with
      | none => exact value_count ..
      | some status =>
        -- a status touches two counters
        show ((m.countEvent kind e.type.name).countError kind status.cause).value name labels
          = _ + (_ + List.count (name, labels) [(_, _)])
        rw [countError, value_count, countEvent, value_count, hkey, Nat.add_assoc, List.count_nil,
          Nat.add_zero]

theorem count_touched_polls :
    (touched other o).count ("kubeinformer_polls_total", [("kind", kind)])
      = if other = kind ∧ o.isRequest = true then 1 else 0 := by
  cases o with
  | asked r => simp [touched, Occurrence.isRequest, List.count_cons]
  | rewound => simp [touched, Occurrence.isRequest]
  | armed backoff => simp [touched, Occurrence.isRequest]
  | received item =>
    cases item with
    | failure f => cases h : f.isOwn <;> simp [touched, Occurrence.isRequest, h]
    | event e => cases h : e.status <;> simp [touched, Occurrence.isRequest, h]

theorem count_touched_events (type : EventType) :
    (touched other o).count
        ("kubeinformer_events_total", [("event_type", type.name), ("kind", kind)])
      = if other = kind ∧ o.isEvent type = true then 1 else 0 := by
  cases o with
  | asked r => simp [touched, Occurrence.isEvent]
  | rewound => simp [touched, Occurrence.isEvent]
  | armed backoff => simp [touched, Occurrence.isEvent]
  | received item =>
    cases item with
    | failure f => cases h : f.isOwn <;> simp [touched, Occurrence.isEvent, h]
    | event e =>
      have hname : e.type.name = type.name ↔ e.type = type :=
        ⟨EventType.name_injective, congrArg _⟩
      cases h : e.status <;>
        simp [touched, Occurrence.isEvent, h, List.count_cons, hname, and_comm]

theorem count_touched_errors (reason : String) :
    (touched other o).count
        ("kubeinformer_errors_total", [("kind", kind), ("reason", reason)])
      = (if other = kind ∧ o.isFailure reason = true then 1 else 0)
        + if other = kind ∧ o.isStatus reason = true then 1 else 0 := by
  cases o with
  | asked r => simp [touched, Occurrence.isFailure, Occurrence.isStatus]
  | rewound => simp [touched, Occurrence.isFailure, Occurrence.isStatus]
  | armed backoff => simp [touched, Occurrence.isFailure, Occurrence.isStatus]
  | received item =>
    cases item with
    | failure f =>
      cases h : f.isOwn <;>
        simp [touched, Occurrence.isFailure, Occurrence.isStatus, h, List.count_cons]
    | event e =>
      cases h : e.status <;>
        simp [touched, Occurrence.isFailure, Occurrence.isStatus, h, List.count_cons]

theorem count_touched_resyncs :
    (touched other o).count ("kubeinformer_resyncs_total", [("kind", kind)])
      = if other = kind ∧ o.isRewind = true then 1 else 0 := by
  cases o with
  | asked r => simp [touched, Occurrence.isRewind]
  | rewound => simp [touched, Occurrence.isRewind, List.count_cons]
  | armed backoff => simp [touched, Occurrence.isRewind]
  | received item =>
    cases item with
    | failure f => cases h : f.isOwn <;> simp [touched, Occurrence.isRewind, h]
    | event e => cases h : e.status <;> simp [touched, Occurrence.isRewind, h]

/-- The histogram of a kind takes the waits of its polls. -/
theorem histogram_post :
    (m.post other o).histogram kind
      = match o with
        | .armed backoff =>
          if kind = other then (m.histogram kind).observe backoff else m.histogram kind
        | _ => m.histogram kind := by
  cases o with
  | asked r => rfl
  | rewound => rfl
  | armed backoff => exact histogram_observeBackoff kind other backoff m
  | received item =>
    cases item with
    | failure f => rw [post]; split <;> rfl
    | event e => rw [post]; cases e.status <;> rfl

variable {m}

/-- An occurrence leaves the histograms whole. -/
theorem Whole.post (h : m.Whole) : (m.post other o).Whole := by
  intro kind
  rw [histogram_post]
  split
  · split
    · exact (h kind).observe _
    · exact h kind
  · exact h kind

/-- A histogram counts the waits of its kind. -/
theorem count_histogram_post (h : m.Whole) :
    ((m.post other o).histogram kind).count
      = (m.histogram kind).count + if other = kind ∧ o.isWait = true then 1 else 0 := by
  rw [histogram_post]
  cases o with
  | armed backoff =>
    show (if kind = other then (m.histogram kind).observe backoff else m.histogram kind).count = _
    by_cases hkind : kind = other
    · rw [if_pos hkind, Backoffs.count_observe (h kind)]
      refine congrArg _ ?_
      cases hnan : backoff.isNan <;> simp [hkind, Occurrence.isWait, hnan]
    · rw [if_neg hkind, if_neg fun hand => hkind hand.1.symm]
      rfl
  | _ => rw [if_neg fun hand => Bool.false_ne_true hand.2]; rfl

end Post

theorem whole_empty : ({} : Metrics).Whole := fun _ => Backoffs.whole_empty

/-- A counter that each occurrence of some sort adds one to shows how many there were. -/
theorem value_postAll {name : String} {labels : Labels} {kind : String} {p : Occurrence → Bool}
    (h : ∀ other o, (touched other o).count (name, labels)
      = if other = kind ∧ p o = true then 1 else 0)
    (entries : List (String × Occurrence)) :
    (({} : Metrics).postAll entries).value name labels
      = (occurrencesOf kind entries).countP p := by
  refine (figure_postAll (value name labels) (fun _ => True)
    (fun entries => (occurrencesOf kind entries).countP p)
    (fun other o => if other = kind ∧ p o = true then 1 else 0) rfl
    (countP_occurrencesOf_cons kind p) (fun m other o _ => ⟨trivial, ?_⟩) entries trivial).trans
      (Nat.zero_add _)
  rw [value_post, h]

theorem count_histogram_postAll (entries : List (String × Occurrence)) (kind : String) :
    ((({} : Metrics).postAll entries).histogram kind).count
      = (occurrencesOf kind entries).countP (·.isWait) :=
  (figure_postAll (fun m => (m.histogram kind).count) Whole
    (fun entries => (occurrencesOf kind entries).countP (·.isWait))
    (fun other o => if other = kind ∧ o.isWait = true then 1 else 0) rfl
    (countP_occurrencesOf_cons kind (·.isWait))
    (fun _ other o hm => ⟨hm.post other o, count_histogram_post kind other o hm⟩) entries
    whole_empty).trans (Nat.zero_add _)

/-- **Accounts.**  From nothing, the series account for all that is entered into them. -/
theorem accounts_postAll (entries : List (String × Occurrence)) (kind : String) :
    Accounts kind (occurrencesOf kind entries) (({} : Metrics).postAll entries) where
  polls := value_postAll (fun other o => count_touched_polls kind other o) entries
  events type := value_postAll (fun other o => count_touched_events kind other o type) entries
  errors reason := by
    -- an error is one of two sorts of occurrences
    refine (figure_postAll (value _ _) (fun _ => True)
      (fun entries => (occurrencesOf kind entries).countP (·.isFailure reason)
        + (occurrencesOf kind entries).countP (·.isStatus reason)) _ rfl (fun entry rest => ?_)
      (fun m other o _ => ⟨trivial, value_post m other o _ _⟩) entries trivial).trans
        (Nat.zero_add _)
    rw [countP_occurrencesOf_cons, countP_occurrencesOf_cons, count_touched_errors,
      Nat.add_add_add_comm]
  resyncs := value_postAll (fun other o => count_touched_resyncs kind other o) entries
  backoffs h := (count_histogram_postAll entries kind).trans (countP_isWait h)
  waits := count_histogram_postAll entries kind

end Metrics

end ResumableWatch
