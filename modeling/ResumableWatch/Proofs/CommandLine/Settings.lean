import ResumableWatch.Failure
import ResumableWatch.Proofs.CommandLine.Options
/-!
# Settings of an environment

Which environments are accepted, and what is known of a configuration that was loaded from one.

Each variable is read as a value (`Variable.read`) from the texts that it accepts
(`Variable.Accepts`), and loading fails with the complaint about the first variable that cannot be
read (`refusal?_load`).  So an environment is loaded exactly if every variable accepts its text
(`load_isOk_iff`), and the configuration then has what each variable was read as (`read_of_load`).
It is within its bounds (`load_bounded`), with one exception: a delay is moved up to its least value
where it is less, and a NaN is not less than anything.
-/

namespace ResumableWatch

open Number Text

/-! ### Refusals -/

section

variable {ε α β : Type} {x : Except ε α} {f : α → Except ε β}

/-- Why there is no result. -/
def refusal? : Except ε α → Option ε
  | .error e => some e
  | .ok _ => none

theorem refusal?_eq_none_iff : refusal? x = none ↔ ∃ a, x = .ok a := by
  cases x with
  | error e => simp [refusal?]
  | ok a => simp [refusal?]

theorem refusal?_eq_some_iff {e : ε} : refusal? x = some e ↔ x = .error e := by
  cases x with
  | error e' => simp [refusal?]
  | ok a => simp [refusal?]

theorem refusal?_map {g : α → β} : refusal? (x.map g) = refusal? x := by
  cases x <;> rfl

/-- What passes a check is what was checked. -/
theorem checked_ok {p : Prop} [Decidable p] {e : ε} {a b : α}
    (h : (if p then Except.ok a else Except.error e) = Except.ok b) : p ∧ a = b := by
  split at h
  · rename_i hp
    exact ⟨hp, Except.ok.inj h⟩
  · cases h

/-- Of two steps the first one that fails is to blame, if the blame for the second one does not depend
on what came of the first. -/
theorem refusal?_bind {r : Option ε} (h : ∀ a, refusal? (f a) = r) :
    refusal? (x >>= f) = (refusal? x).or r := by
  cases x with
  | error e => rfl
  | ok a => exact h a

end

/-! ### Numbers that are moved up to a bound -/

namespace Double

theorem lt_irrefl (a : Double) : a.lt a = false := by
  cases a with
  | nan => rfl
  | infinite negative => cases negative <;> rfl
  | finite negative units h => simp [lt]

/-- What is moved up to a bound is not below it, if it is a number at all. -/
theorem le_max {a bound : Double} (ha : a.isNan = false) (hbound : bound.isNan = false) :
    bound.le (a.max bound) = true := by
  rw [max]
  split
  · simp [le, hbound, lt_irrefl]
  · rename_i hlt
    simp [le, ha, hbound, hlt]

theorem eq_nan_of_isNan {a : Double} (h : a.isNan = true) : a = .nan := by
  cases a with
  | nan => rfl
  | infinite negative => cases h
  | finite negative units hrep => cases h

end Double

namespace Configuration

/-! ### Variables -/

/-- The delays of a configuration. -/
inductive Delay where
  | backoff
  | retryDelay
  | statusInterval
  deriving DecidableEq

/-- The least value that a delay is to have. -/
def Delay.least : Delay → Double
  | backoff => .ofInt 0
  | retryDelay => .ofInt 0
  | statusInterval => .ofInt 1

/-- The delay in a configuration. -/
def Delay.value (c : Configuration) : Delay → Double
  | backoff => c.recovery.backoff
  | retryDelay => c.recovery.retryDelay
  | statusInterval => c.recovery.statusInterval

/-- What a variable can be read as. -/
inductive Value where
  | text (s : String)
  | whole (n : Int)
  | number (x : Double)
  deriving DecidableEq

/-- The variables of an environment. -/
inductive Variable where
  | kind
  | namespaceName
  | labelSelector
  | fieldSelector
  | timeout
  | delay (d : Delay)
  | port
  | logLevel
  | logFormat
  deriving DecidableEq

namespace Variable

/-- All variables. -/
def all : List Variable := [
  .kind, .namespaceName, .labelSelector, .fieldSelector, .timeout, .delay .backoff,
  .delay .retryDelay, .delay .statusInterval, .port, .logLevel, .logFormat]

theorem mem_all (v : Variable) : v ∈ all := by
  cases v with
  | delay d => cases d <;> simp [all]
  | _ => simp [all]

/-- The name of a variable, without the part that all of them share. -/
def key : Variable → String
  | kind => "KIND"
  | namespaceName => "NAMESPACE"
  | labelSelector => "LABEL_SELECTOR"
  | fieldSelector => "FIELD_SELECTOR"
  | timeout => "WATCH_TIMEOUT"
  | delay .backoff => "RESYNC_BACKOFF"
  | delay .retryDelay => "RETRY_DELAY"
  | delay .statusInterval => "STATUS_INTERVAL"
  | port => "METRICS_PORT"
  | logLevel => "LOG_LEVEL"
  | logFormat => "LOG_FORMAT"

/-- These are the variables that the program looks for. -/
example : all.map key = variableNames := rfl

/-- What a variable is taken for where it is not set. -/
def default : Variable → String
  | kind => "configmap"
  | namespaceName => ""
  | labelSelector => ""
  | fieldSelector => ""
  | timeout => "290"
  | delay .backoff => "10.0"
  | delay .retryDelay => "5.0"
  | delay .statusInterval => "30.0"
  | port => "0"
  | logLevel => "info"
  | logFormat => "json"

/-- The text of a variable in an environment. -/
def text (environment : Environment) (v : Variable) : String := environment.value v.key v.default

/-- The texts that a variable accepts. -/
def Accepts : Variable → String → Prop
  | kind, text => lower text ∈ Kind.names
  | namespaceName, _ => True
  | labelSelector, _ => True
  | fieldSelector, _ => True
  | timeout, text => ∃ n, integer text = .ok n
  | delay _, text => ∃ x, double text = .ok x
  | port, text => ∃ n, integer text = .ok n ∧ (n = 0 ∨ (1024 ≤ n ∧ n ≤ 65535))
  | logLevel, text => lower text ∈ logLevels
  | logFormat, text => lower text ∈ logFormats

/-- What a variable is read as. -/
def read : Variable → String → Except SettingError Value
  | kind, source => (kindNamed source).map .text
  | namespaceName, source => .ok (.text source)
  | labelSelector, source => .ok (.text source)
  | fieldSelector, source => .ok (.text source)
  | timeout, source => (wholeWithin 1 3600 source).map .whole
  | delay d, source => (numberFrom d.least source).map .number
  | port, source => (exporterPort source).map .whole
  | logLevel, source => (Configuration.logLevel source).map .text
  | logFormat, source => (Configuration.logFormat source).map .text

/-- The value of a variable in a configuration. -/
def value (c : Configuration) : Variable → Value
  | kind => .text c.watch.kind
  | namespaceName => .text c.watch.namespaceName
  | labelSelector => .text c.watch.labelSelector
  | fieldSelector => .text c.watch.fieldSelector
  | timeout => .whole c.watch.timeoutSeconds
  | delay d => .number (d.value c)
  | port => .whole c.metricsPort
  | logLevel => .text c.log.level
  | logFormat => .text c.log.format

/-- The texts that are accepted are those that are read. -/
theorem refusal?_read_eq_none_iff {v : Variable} {source : String} :
    refusal? (v.read source) = none ↔ v.Accepts source := by
  -- The texts of a namespace and of selectors are never refused; the others each have a reader.
  cases v with
  | namespaceName | labelSelector | fieldSelector => simp [read, refusal?, Accepts]
  | kind =>
    simp only [read, refusal?_map, Accepts, kindNamed, Kind.find?_isSome_iff]
    split <;> simp_all [refusal?]
  | timeout =>
    rw [read, refusal?_map, Accepts, wholeWithin]
    cases integer source <;> simp [refusal?]
  | delay d =>
    rw [read, refusal?_map, Accepts, numberFrom]
    cases double source <;> simp [refusal?]
  | port =>
    rw [read, refusal?_map, Accepts, exporterPort]
    cases integer source with
    | error cause => simp [refusal?]
    | ok n =>
      simp only [Except.ok.injEq, exists_eq_left']
      split <;> simp_all [refusal?]
  | logLevel =>
    rw [read, refusal?_map, Accepts, Configuration.logLevel]
    split <;> simp_all [refusal?]
  | logFormat =>
    rw [read, refusal?_map, Accepts, Configuration.logFormat]
    split <;> simp_all [refusal?]

end Variable

/-! ### Loading -/

variable {environment : Environment} {c : Configuration}

/-- What is wrong with the first variable that cannot be read. -/
def firstComplaint? (environment : Environment) : Option SettingError :=
  Variable.all.findSome? fun v => refusal? (v.read (v.text environment))

theorem firstComplaint?_eq_none_iff :
    firstComplaint? environment = none ↔ ∀ v : Variable, v.Accepts (v.text environment) := by
  rw [firstComplaint?, List.findSome?_eq_none_iff]
  constructor
  · intro h v
    exact Variable.refusal?_read_eq_none_iff.mp (h v v.mem_all)
  · intro h v _
    exact Variable.refusal?_read_eq_none_iff.mpr (h v)

/-- Loading fails with the first complaint. -/
theorem refusal?_load : refusal? (load environment) = firstComplaint? environment := by
  have hcons (v : Variable) (rest : List Variable) :
      (v :: rest).findSome? (fun v => refusal? (v.read (v.text environment)))
        = (refusal? (v.read (v.text environment))).or
            (rest.findSome? fun v => refusal? (v.read (v.text environment))) := by
    cases h : refusal? (v.read (v.text environment)) <;> simp [h]
  rw [firstComplaint?, Variable.all]
  simp only [hcons, List.findSome?_nil]
  simp only [Variable.read, refusal?_map]
  -- texts that are taken as they are have no step of their own
  show _ = Option.or _ (Option.or none (Option.or none (Option.or none _)))
  simp only [Option.none_or]
  apply refusal?_bind
  intro kind
  apply refusal?_bind
  intro timeoutSeconds
  apply refusal?_bind
  intro backoff
  apply refusal?_bind
  intro retryDelay
  apply refusal?_bind
  intro statusInterval
  apply refusal?_bind
  intro metricsPort
  apply refusal?_bind
  intro level
  apply refusal?_bind
  intro format
  rfl

/-- An environment is loaded exactly if each variable accepts its text. -/
theorem load_isOk_iff :
    (∃ c, load environment = .ok c) ↔ ∀ v : Variable, v.Accepts (v.text environment) := by
  rw [← refusal?_eq_none_iff, refusal?_load, firstComplaint?_eq_none_iff]

theorem firstComplaint?_eq_some_iff {cause : SettingError} :
    firstComplaint? environment = some cause ↔ load environment = .error cause := by
  rw [← refusal?_load, refusal?_eq_some_iff]

/-- A loaded configuration has what each variable is read as. -/
theorem read_of_load (h : load environment = .ok c) (v : Variable) :
    v.read (v.text environment) = .ok (v.value c) := by
  obtain ⟨hkind, hname, hlabel, hfield, htimeout, hbackoff, hretry, hstatus, hport, hlevel, hformat⟩ :=
    load_ok h
  cases v with
  | delay d =>
    cases d <;>
      simp only [Variable.read, Variable.text, Variable.key, Variable.default, Variable.value,
        Delay.least, Delay.value, Except.map, hbackoff, hretry, hstatus]
  | _ =>
    simp only [Variable.read, Variable.text, Variable.key, Variable.default, Variable.value,
      Except.map, hkind, hname, hlabel, hfield, htimeout, hport, hlevel, hformat]

/-! ### Bounds -/

variable {source text : String}

theorem exporterPort_ok {n : Int} (h : exporterPort source = .ok n) :
    n = 0 ∨ (1024 ≤ n ∧ n ≤ 65535) := by
  rw [exporterPort] at h
  split at h
  · cases h
  · obtain ⟨hbounds, rfl⟩ := checked_ok h
    exact hbounds

theorem logLevel_ok (h : logLevel source = .ok text) : text ∈ logLevels := by
  obtain ⟨hmem, rfl⟩ := checked_ok h
  exact hmem

theorem logFormat_ok (h : logFormat source = .ok text) : text ∈ logFormats := by
  obtain ⟨hmem, rfl⟩ := checked_ok h
  exact hmem

/-- A number is not below the bound from which it was read, unless its text writes a NaN: no bound is
greater than that. -/
theorem numberFrom_ok {bound x : Double} (hbound : bound.isNan = false)
    (h : numberFrom bound source = .ok x) :
    bound.le x = true ∨ (x = .nan ∧ double source = .ok .nan) := by
  rw [numberFrom] at h
  split at h
  · cases h
  · rename_i y hy
    cases h
    -- a NaN is neither below the bound nor above it, and stays
    cases hnan : y.isNan with
    | false => exact .inl (Double.le_max hnan hbound)
    | true =>
      obtain rfl := Double.eq_nan_of_isNan hnan
      exact .inr ⟨rfl, hy⟩

theorem Delay.isNan_least (d : Delay) : d.least.isNan = false := by
  cases d <;> decide +kernel

/-- What every loaded configuration keeps to, its delays apart. -/
structure Bounded (c : Configuration) : Prop where
  kind : c.watch.kind ∈ Kind.names
  timeoutSeconds : 1 ≤ c.watch.timeoutSeconds ∧ c.watch.timeoutSeconds ≤ 3600
  metricsPort : c.metricsPort = 0 ∨ (1024 ≤ c.metricsPort ∧ c.metricsPort ≤ 65535)
  level : c.log.level ∈ logLevels
  format : c.log.format ∈ logFormats

theorem bounded_of_load (h : load environment = .ok c) : c.Bounded := by
  obtain ⟨hkind, -, -, -, htimeout, -, -, -, hport, hlevel, hformat⟩ := load_ok h
  refine ⟨?kind, ?timeoutSeconds, ?metricsPort, ?level, ?format⟩
  case kind => exact Kind.find?_isSome_iff.mp (kindNamed_ok hkind).2
  case timeoutSeconds => exact (wholeWithin_ok (by decide) htimeout).2
  case metricsPort => exact exporterPort_ok hport
  case level => exact logLevel_ok hlevel
  case format => exact logFormat_ok hformat

/-- **Loaded configurations are within their bounds.**  If an environment is refused, it is for a bad
value, and some variable does not accept its text.  If all variables accept theirs, then there is a
configuration, whose kind, timeout, port, level and format are among the possible ones; and each
delay is at least what it has to be, unless the text of its variable writes a NaN, which is
then the delay. -/
theorem load_bounded (environment : Environment) :
    match load environment with
    | .error cause => (Failure.setting cause).typeName = "ValueError" ∧
        ∃ v : Variable, ¬ v.Accepts (v.text environment)
    | .ok c => (∀ v : Variable, v.Accepts (v.text environment)) ∧ c.Bounded ∧
        ∀ d : Delay, d.least.le (d.value c) = true ∨
          (d.value c = .nan ∧ double ((Variable.delay d).text environment) = .ok .nan) := by
  cases hload : load environment with
  | error cause =>
    refine ⟨rfl, ?_⟩
    -- if all texts were accepted there would be a configuration
    rw [← not_forall, ← load_isOk_iff, hload]
    rintro ⟨c, hc⟩
    cases hc
  | ok c =>
    refine ⟨load_isOk_iff.mp ⟨c, hload⟩, bounded_of_load hload, ?_⟩
    intro d
    obtain ⟨x, hx, heq⟩ := map_ok (read_of_load hload (.delay d))
    obtain rfl := Value.number.inj heq
    exact numberFrom_ok d.isNan_least hx

/-- A NaN gets past the bound. -/
theorem nan_loaded_as_backoff :
    load [("RESYNC_BACKOFF", "nan")] = .ok { recovery := { backoff := .nan } } ∧
      ¬ Delay.backoff.least.le (Delay.backoff.value { recovery := { backoff := .nan } }) = true := by
  refine ⟨?_, ?_⟩
  · decide +kernel
  · decide +kernel

end Configuration

end ResumableWatch
