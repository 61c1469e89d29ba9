import Mathlib.Tactic.Common
import ResumableWatch.CommandLine.Request
/-!
# Options and settings

What an environment and the options of a command line come to.  `Configuration.load_ok` takes a loaded
configuration apart into what was read for each of its fields, and `overrides_reads` says of each
option what was read for it: its last value, if it was given.  Together they say which settings are in
effect (`effective_apply`): an option if it was given, and the environment otherwise.
-/

namespace ResumableWatch

open Text

theorem bind_ok {ε α β : Type} {x : Except ε α} {f : α → Except ε β} {b : β}
    (h : (x >>= f) = .ok b) : ∃ a, x = .ok a ∧ f a = .ok b := by
  cases x with
  | error e => cases h
  | ok a => exact ⟨a, rfl, h⟩

theorem map_ok {ε α β : Type} {x : Except ε α} {f : α → β} {b : β} (h : x.map f = .ok b) :
    ∃ a, x = .ok a ∧ f a = b := by
  cases x with
  | error e => cases h
  | ok a => exact ⟨a, rfl, Except.ok.inj h⟩

/-! ### Kinds -/

namespace Kind

theorem find?_isSome_iff {name : String} : (find? name).isSome ↔ name ∈ names := by
  simp [find?, names, List.find?_isSome]

/-- Names are in lower case. -/
theorem lower_of_mem_names {name : String} (h : name ∈ names) : lower name = name := by
  have hall : ∀ name ∈ names, lower name = name := by decide +kernel
  exact hall name h

theorem lower_name {name : String} {kind : Kind} (h : find? name = some kind) :
    lower name = name := by
  apply lower_of_mem_names
  rw [← find?_isSome_iff, h]
  rfl

end Kind

/-! ### Environments -/

namespace Configuration

/-- A loaded configuration holds what was read for each of its fields. -/
theorem load_ok {environment : Environment} {c : Configuration} (h : load environment = .ok c) :
    kindNamed (environment.value "KIND" "configmap") = .ok c.watch.kind ∧
      c.watch.namespaceName = environment.value "NAMESPACE" "" ∧
      c.watch.labelSelector = environment.value "LABEL_SELECTOR" "" ∧
      c.watch.fieldSelector = environment.value "FIELD_SELECTOR" "" ∧
      wholeWithin 1 3600 (environment.value "WATCH_TIMEOUT" "290") = .ok c.watch.timeoutSeconds ∧
      numberFrom (.ofInt 0) (environment.value "RESYNC_BACKOFF" "10.0") = .ok c.recovery.backoff ∧
      numberFrom (.ofInt 0) (environment.value "RETRY_DELAY" "5.0") = .ok c.recovery.retryDelay ∧
      numberFrom (.ofInt 1) (environment.value "STATUS_INTERVAL" "30.0")
        = .ok c.recovery.statusInterval ∧
      exporterPort (environment.value "METRICS_PORT" "0") = .ok c.metricsPort ∧
      logLevel (environment.value "LOG_LEVEL" "info") = .ok c.log.level ∧
      logFormat (environment.value "LOG_FORMAT" "json") = .ok c.log.format := by
  obtain ⟨kind, hkind, h⟩ := bind_ok h
  obtain ⟨timeoutSeconds, htimeout, h⟩ := bind_ok h
  obtain ⟨backoff, hbackoff, h⟩ := bind_ok h
  obtain ⟨retryDelay, hretry, h⟩ := bind_ok h
  obtain ⟨statusInterval, hstatus, h⟩ := bind_ok h
  obtain ⟨metricsPort, hport, h⟩ := bind_ok h
  obtain ⟨level, hlevel, h⟩ := bind_ok h
  obtain ⟨format, hformat, h⟩ := bind_ok h
  cases h
  exact ⟨hkind, rfl, rfl, rfl, htimeout, hbackoff, hretry, hstatus, hport, hlevel, hformat⟩

theorem kindNamed_ok {source kind : String} (h : kindNamed source = .ok kind) :
    kind = lower source ∧ (Kind.find? kind).isSome := by
  rw [kindNamed] at h
  split at h
  · rename_i hsome
    cases h
    exact ⟨rfl, hsome⟩
  · cases h

theorem wholeWithin_ok {low high : Int} {source : String} {n : Int} (hle : low ≤ high)
    (h : wholeWithin low high source = .ok n) :
    (∃ m, Number.integer source = .ok m ∧ n = min (max m low) high) ∧ low ≤ n ∧ n ≤ high := by
  rw [wholeWithin] at h
  split at h
  · cases h
  · rename_i m hm
    cases h
    exact ⟨⟨m, hm, rfl⟩, by omega, by omega⟩

end Configuration

/-! ### Options -/

namespace CommandLine

/-- What is read for an option from its value. -/
def valueOf (topic : Topic) (value : String) : Except Mistake (String ⊕ Int) :=
  match topic with
  | .kind => (choose "--kind" value Kind.names true).map .inl
  | .timeout => (seconds "--timeout" value).map .inr
  | .logLevel => (choose "--log-level" value Configuration.logLevels true).map .inl
  | .logFormat => (choose "--log-format" value Configuration.logFormats false).map .inl
  | _ => .ok (.inl value)

end CommandLine

/-- The option that is laid over a setting, if there is one. -/
def Overrides.option? (o : Overrides) : CommandLine.Topic → Option (String ⊕ Int)
  | .kind => o.kind.map .inl
  | .namespaceName => o.namespaceName.map .inl
  | .labelSelector => o.labelSelector.map .inl
  | .fieldSelector => o.fieldSelector.map .inl
  | .timeout => o.timeoutSeconds.map .inr
  | .logLevel => o.logLevel.map .inl
  | .logFormat => o.logFormat.map .inl
  | .help | .version => none

namespace CommandLine

variable {topic : Topic} {value : String} {o o' : Overrides} {given : List (Topic × String)}

/-- An option that is laid over the others is what was read for it, and leaves the others. -/
theorem put_ok (h : put topic value o = .ok o') :
    (topic.isAlone = false →
      ∃ read, valueOf topic value = .ok read ∧ o'.option? topic = some read) ∧
      ∀ other, other ≠ topic → o'.option? other = o.option? other := by
  cases topic
  case help | version =>
    cases h
    exact ⟨nofun, fun _ _ => rfl⟩
  case namespaceName | labelSelector | fieldSelector =>
    cases h
    refine ⟨fun _ => ⟨_, rfl, rfl⟩, fun other hne => ?_⟩
    cases other <;> first | rfl | exact absurd rfl hne
  case kind | timeout | logLevel | logFormat =>
    obtain ⟨read, hread, rfl⟩ := map_ok h
    refine ⟨fun _ => ⟨_, by rw [valueOf, hread]; rfl, rfl⟩, fun other hne => ?_⟩
    cases other <;> first | rfl | exact absurd rfl hne

/-- What is laid over settings, one option after the other. -/
theorem foldlM_put_ok {topics : List Topic} {values : Topic → String}
    (h : topics.foldlM (fun o topic => put topic (values topic) o) o = .ok o')
    (htopic : topic.isAlone = false) :
    (topic ∈ topics →
      ∃ read, valueOf topic (values topic) = .ok read ∧ o'.option? topic = some read) ∧
      (topic ∉ topics → o'.option? topic = o.option? topic) := by
  induction topics generalizing o with
  | nil =>
    cases h
    exact ⟨fun hmem => absurd hmem List.not_mem_nil, fun _ => rfl⟩
  | cons first rest ih =>
    obtain ⟨laid, hput, hrest⟩ := bind_ok h
    obtain ⟨hread, hothers⟩ := put_ok hput
    obtain ⟨hlater, hkept⟩ := ih hrest
    refine ⟨fun hmem => ?_, fun hnot => ?_⟩
    · by_cases hagain : topic ∈ rest
      · exact hlater hagain
      · -- the option is not laid again, and the others leave it
        obtain rfl : topic = first := (List.mem_cons.mp hmem).resolve_right hagain
        rw [hkept hagain]
        exact hread htopic
    · rw [List.mem_cons, not_or] at hnot
      rw [hkept hnot.2, hothers topic hnot.1]

/-- The last value that was given for an option, if it was given. -/
def given? (given : List (Topic × String)) (topic : Topic) : Option String :=
  given.reverse.lookup topic

/-- **Options.**  What is laid over the settings is what was read for each option from its last
value, and nothing for an option that was not given. -/
theorem overrides_reads (h : overrides given = .ok o) (topic : Topic)
    (htopic : topic.isAlone = false) :
    match given? given topic with
    | some value => ∃ read, valueOf topic value = .ok read ∧ o.option? topic = some read
    | none => o.option? topic = none := by
  obtain ⟨hread, hnone⟩ := foldlM_put_ok h htopic
  rw [List.mem_eraseDups] at hread hnone
  have hmem : topic ∈ given.map (·.1) ↔ (given? given topic).isSome := by
    rw [given?, Option.isSome_iff_ne_none, ne_eq, List.lookup_eq_none_iff]
    simp
  rw [hmem] at hread hnone
  cases hgiven : given? given topic with
  | some value =>
    rw [hgiven] at hread
    have hlast : lastValue given topic = value := by rw [lastValue, ← given?, hgiven]; rfl
    rw [hlast] at hread
    exact hread rfl
  | none =>
    rw [hgiven] at hnone
    rw [hnone Bool.false_ne_true]
    cases topic <;> rfl

theorem seconds_ok {name value : String} {n : Int} (h : seconds name value = .ok n) :
    1 ≤ n ∧ n ≤ 3600 := by
  rw [seconds] at h
  split at h
  · cases h
  · split at h
    · rename_i hbounds
      cases h
      exact hbounds
    · cases h

/-- An option for the seconds is within its bounds. -/
theorem timeoutSeconds_of_overrides (h : overrides given = .ok o) :
    ∀ n ∈ o.timeoutSeconds, 1 ≤ n ∧ n ≤ 3600 := by
  intro n hn
  have hreads := overrides_reads h .timeout rfl
  rw [Overrides.option?, Option.mem_def.mp hn, Option.map_some] at hreads
  split at hreads
  · obtain ⟨read, hread, hsome⟩ := hreads
    obtain ⟨m, hm, rfl⟩ := map_ok hread
    obtain rfl : n = m := Sum.inr.inj (Option.some.inj hsome)
    exact seconds_ok hm
  · cases hreads

end CommandLine

/-! ### Settings in effect -/

/-- The settings that are in effect: an option if it was given, and the environment otherwise. -/
structure Effective (environment : Configuration.Environment) (o : Overrides)
    (watch : WatchSettings) : Prop where
  kind : watch.kind = lower (o.kind.getD (environment.value "KIND" "configmap"))
  namespaceName : watch.namespaceName = o.namespaceName.getD (environment.value "NAMESPACE" "")
  labelSelector :
    watch.labelSelector = o.labelSelector.getD (environment.value "LABEL_SELECTOR" "")
  fieldSelector :
    watch.fieldSelector = o.fieldSelector.getD (environment.value "FIELD_SELECTOR" "")
  /-- The seconds of an environment are moved to a bound when they lie outside. -/
  timeoutSeconds :
    match o.timeoutSeconds with
    | some n => watch.timeoutSeconds = n
    | none => ∃ n, Number.integer (environment.value "WATCH_TIMEOUT" "290") = .ok n ∧
        watch.timeoutSeconds = min (max n 1) 3600
  least : 1 ≤ watch.timeoutSeconds
  most : watch.timeoutSeconds ≤ 3600

/-- The settings of a loaded configuration with options laid over it are in effect. -/
theorem effective_apply {environment : Configuration.Environment} {loaded : Configuration}
    {given : List (CommandLine.Topic × String)} {o : Overrides}
    (hload : Configuration.load environment = .ok loaded)
    (hgiven : CommandLine.overrides given = .ok o) :
    Effective environment o (o.apply loaded).watch := by
  obtain ⟨hkind, hnamespace, hlabel, hfield, htimeout, -⟩ := Configuration.load_ok hload
  obtain ⟨⟨m, hm, hclamped⟩, hleast, hmost⟩ := Configuration.wholeWithin_ok (by decide) htimeout
  have hoption := CommandLine.timeoutSeconds_of_overrides hgiven
  -- The timeout is in bounds either way: clamped in the environment, checked as an option.
  have hbounds : 1 ≤ (o.apply loaded).watch.timeoutSeconds ∧
      (o.apply loaded).watch.timeoutSeconds ≤ 3600 := by
    show 1 ≤ o.timeoutSeconds.getD _ ∧ o.timeoutSeconds.getD _ ≤ 3600
    cases hn : o.timeoutSeconds with
    | none => exact ⟨hleast, hmost⟩
    | some n => exact hoption n (Option.mem_def.mpr hn)
  refine ⟨?kind, ?namespaceName, ?labelSelector, ?fieldSelector, ?timeoutSeconds, hbounds.1,
    hbounds.2⟩
  case kind =>
    show (o.kind.map lower).getD loaded.watch.kind = _
    rw [(Configuration.kindNamed_ok hkind).1]
    cases o.kind <;> rfl
  case namespaceName =>
    rw [← hnamespace]
    rfl
  case labelSelector =>
    rw [← hlabel]
    rfl
  case fieldSelector =>
    rw [← hfield]
    rfl
  case timeoutSeconds =>
    show match o.timeoutSeconds with
      | some n => o.timeoutSeconds.getD loaded.watch.timeoutSeconds = n
      | none => ∃ n, _ ∧ o.timeoutSeconds.getD loaded.watch.timeoutSeconds = min (max n 1) 3600
    cases o.timeoutSeconds with
    | none => exact ⟨m, hm, hclamped⟩
    | some n => rfl

end ResumableWatch
