import ResumableWatch.Proofs.CommandLine.Watching
/-!
# Options before the environment

A given option is meant to stand in for its variable, so two environments that differ only in such
variables (`AgreeBesides`) should come to the same.  In the configuration they do
(`apply_of_agree`): what is loaded for an overridden variable is laid over.  But an environment is read
as a whole before any option is laid over it, and complains about an overridden variable as about any
other.

`overrides_prevail` says that this is all that an overridden variable can do, whatever is laid over the
environment and wherever it comes from.  `options_prevail` says it of the words of a command line.
-/

namespace ResumableWatch

open ResumableWatch.Configuration

variable {environment e₁ e₂ : Environment} {words : List String} {o : Overrides}
  {loaded c₁ c₂ : Configuration}

/-! ### Values of a configuration -/

/-- A configuration is what its variables have as values. -/
theorem Configuration.ext_value (h : ∀ v : Variable, v.value c₁ = v.value c₂) : c₁ = c₂ := by
  have hkind := h .kind
  have hname := h .namespaceName
  have hlabel := h .labelSelector
  have hfield := h .fieldSelector
  have htimeout := h .timeout
  have hbackoff := h (.delay .backoff)
  have hretry := h (.delay .retryDelay)
  have hstatus := h (.delay .statusInterval)
  have hport := h .port
  have hlevel := h .logLevel
  have hformat := h .logFormat
  obtain ⟨⟨_, _, _, _, _⟩, ⟨_, _, _⟩, _, ⟨_, _⟩⟩ := c₁
  obtain ⟨⟨_, _, _, _, _⟩, ⟨_, _, _⟩, _, ⟨_, _⟩⟩ := c₂
  simp_all [Variable.value, Delay.value]

/-- The value that is laid over that of a variable, if there is one. -/
def Overrides.value? (o : Overrides) : Variable → Option Value
  | .kind => (o.kind.map Text.lower).map .text
  | .namespaceName => o.namespaceName.map .text
  | .labelSelector => o.labelSelector.map .text
  | .fieldSelector => o.fieldSelector.map .text
  | .timeout => o.timeoutSeconds.map .whole
  | .logLevel => (o.logLevel.map Text.lower).map .text
  | .logFormat => o.logFormat.map .text
  | .delay _ => none
  | .port => none

/-- Two environments agree, but for the variables over whose values something is laid. -/
def Overrides.Agree (o : Overrides) (e₁ e₂ : Environment) : Prop :=
  ∀ v : Variable, o.value? v = none → e₁.lookup v.key = e₂.lookup v.key

theorem Overrides.value_apply (v : Variable) :
    v.value (o.apply loaded) = (o.value? v).getD (v.value loaded) := by
  cases v with
  | delay d => cases d <;> rfl
  | port => rfl
  | _ => exact (Option.getD_map _ _ _).symm

namespace Configuration

theorem Variable.text_eq {v : Variable} (h : e₁.lookup v.key = e₂.lookup v.key) :
    v.text e₁ = v.text e₂ := by
  rw [Variable.text, Variable.text, Environment.value, Environment.value, h]

/-- Where nothing is laid over a value, it was read from the same text. -/
theorem apply_of_agree (hagree : o.Agree e₁ e₂) (h₁ : load e₁ = .ok c₁) (h₂ : load e₂ = .ok c₂) :
    o.apply c₁ = o.apply c₂ := by
  apply ext_value
  intro v
  rw [Overrides.value_apply, Overrides.value_apply]
  cases hvalue : o.value? v with
  | some value => rfl
  | none =>
    have hread := read_of_load h₁ v
    rw [Variable.text_eq (hagree v hvalue), read_of_load h₂ v] at hread
    rw [Except.ok.inj hread]

/-- Environments that agree about all variables but some have the same complaint, if these accept
their texts in both. -/
theorem firstComplaint?_of_agree {laid : Variable → Prop}
    (hagree : ∀ v, ¬ laid v → e₁.lookup v.key = e₂.lookup v.key)
    (haccepts : ∀ v, laid v → v.Accepts (v.text e₁) ∧ v.Accepts (v.text e₂)) :
    firstComplaint? e₁ = firstComplaint? e₂ := by
  have hsame : (fun v : Variable => refusal? (v.read (v.text e₁)))
      = fun v : Variable => refusal? (v.read (v.text e₂)) := by
    funext v
    by_cases hv : laid v
    · rw [Variable.refusal?_read_eq_none_iff.mpr (haccepts v hv).1,
        Variable.refusal?_read_eq_none_iff.mpr (haccepts v hv).2]
    · rw [Variable.text_eq (hagree v hv)]
  rw [firstComplaint?, firstComplaint?, hsame]

end Configuration

namespace CommandLine

variable {given : List (Topic × String)}

/-! ### Variables that are overridden -/

/-- The variable that an option stands in for. -/
def Topic.variable? : Topic → Option Variable
  | .kind => some .kind
  | .namespaceName => some .namespaceName
  | .labelSelector => some .labelSelector
  | .fieldSelector => some .fieldSelector
  | .timeout => some .timeout
  | .logLevel => some .logLevel
  | .logFormat => some .logFormat
  | .help => none
  | .version => none

/-- An option was given that stands in for the variable. -/
def Overridden (given : List (Topic × String)) (v : Variable) : Prop :=
  ∃ topic, topic.variable? = some v ∧ (given? given topic).isSome

/-- The environments agree, overridden variables apart. -/
def AgreeBesides (given : List (Topic × String)) (e₁ e₂ : Environment) : Prop :=
  ∀ v : Variable, ¬ Overridden given v → e₁.lookup v.key = e₂.lookup v.key

/-- Over an overridden variable something is laid. -/
theorem isSome_value?_of_overridden (h : overrides given = .ok o) {v : Variable}
    (hv : Overridden given v) : (o.value? v).isSome := by
  obtain ⟨topic, hvariable, hgiven⟩ := hv
  -- the options without a value stand in for nothing
  have halone : topic.isAlone = false := by
    cases topic <;> first | rfl | cases hvariable
  have hoption : (o.option? topic).isSome := by
    have hreads := overrides_reads h topic halone
    obtain ⟨value, hvalue⟩ := Option.isSome_iff_exists.mp hgiven
    rw [hvalue] at hreads
    obtain ⟨read, -, hsome⟩ := hreads
    rw [hsome]
    rfl
  cases topic <;> cases hvariable <;> simpa [Overrides.option?, Overrides.value?] using hoption

/-! ### Two environments -/

theorem AgreeBesides.agree (h : AgreeBesides given e₁ e₂) (ho : overrides given = .ok o) :
    o.Agree e₁ e₂ := by
  intro v hnone
  refine h v fun hv => ?_
  have hsome := isSome_value?_of_overridden ho hv
  rw [hnone] at hsome
  cases hsome

theorem configure_eq_setting_iff {cause : SettingError} :
    configure environment o = .error (.setting cause) ↔ load environment = .error cause := by
  rw [configure]
  cases load environment with
  | error other => simp
  | ok loaded =>
    dsimp only
    split <;> simp

theorem onPage_map_watch_injective {x y : Except Mistake Configuration}
    (h : onPage .watch (x.map .watch) = onPage .watch (y.map .watch)) : x = y := by
  cases x <;> cases y <;> simp_all [onPage, Except.map]

/-- Environments that agree, but for what something is laid over, come to the same exactly if they have
the same complaint. -/
theorem configure_eq_iff (hagree : o.Agree e₁ e₂) :
    configure e₁ o = configure e₂ o ↔ firstComplaint? e₁ = firstComplaint? e₂ := by
  constructor
  · intro heq
    -- a complaint is seen from outside, since no other mistake looks like it
    apply Option.ext
    intro cause
    rw [firstComplaint?_eq_some_iff, firstComplaint?_eq_some_iff, ← configure_eq_setting_iff, heq,
      configure_eq_setting_iff]
  · intro hcomplaint
    cases h₁ : load e₁ with
    | error cause =>
      have h₂ := firstComplaint?_eq_some_iff.mpr h₁
      rw [hcomplaint, firstComplaint?_eq_some_iff] at h₂
      rw [configure_eq_setting_iff.mpr h₁, configure_eq_setting_iff.mpr h₂]
    | ok c₁ =>
      -- then the other one is loaded as well, perhaps as something else
      have hnone : refusal? (load e₂) = none := by
        rw [refusal?_load, ← hcomplaint, ← refusal?_load, h₁]
        rfl
      obtain ⟨c₂, h₂⟩ := refusal?_eq_none_iff.mp hnone
      rw [configure, configure, h₁, h₂]
      dsimp only
      rw [apply_of_agree hagree h₁ h₂]

/-- **What is laid over the environment prevails, whatever it is.**  Two environments differ only in
variables over whose values something is laid.  If these accept their texts in both, then both come to
the same; in general they do exactly if they have the same complaint. -/
theorem overrides_prevail (hagree : o.Agree e₁ e₂) :
    ((∀ v, (o.value? v).isSome → v.Accepts (v.text e₁) ∧ v.Accepts (v.text e₂)) →
      configure e₁ o = configure e₂ o) ∧
    (configure e₁ o = configure e₂ o ↔ firstComplaint? e₁ = firstComplaint? e₂) := by
  refine ⟨fun haccepts => (configure_eq_iff hagree).mpr ?_, configure_eq_iff hagree⟩
  exact firstComplaint?_of_agree (fun v hv => hagree v (Option.not_isSome_iff_eq_none.mp hv)) haccepts

/-- **Options prevail over the environment.**  The words are accepted as options, and two environments
differ only in variables for which options were given.  If these variables accept their texts in
both environments, then both come to the same: the same refusal, or the same configuration to watch
with.  In general they come to the same exactly if the first variable that cannot be read, overridden
or not, is blamed in the same way in both, or if there is none. -/
theorem options_prevail (haccepted : Accepted words given) (hagree : AgreeBesides given e₁ e₂) :
    ((∀ v, Overridden given v → v.Accepts (v.text e₁) ∧ v.Accepts (v.text e₂)) →
      Request.read e₁ ("watch" :: words) = Request.read e₂ ("watch" :: words)) ∧
    (Request.read e₁ ("watch" :: words) = Request.read e₂ ("watch" :: words) ↔
      firstComplaint? e₁ = firstComplaint? e₂) := by
  obtain ⟨o, ho⟩ := haccepted.readable
  have hiff : Request.read e₁ ("watch" :: words) = Request.read e₂ ("watch" :: words) ↔
      firstComplaint? e₁ = firstComplaint? e₂ := by
    rw [read_watch haccepted ho, read_watch haccepted ho, ← configure_eq_iff (hagree.agree ho)]
    constructor
    · exact onPage_map_watch_injective
    · intro heq
      rw [heq]
  refine ⟨?_, hiff⟩
  intro haccepts
  exact hiff.mpr (firstComplaint?_of_agree hagree haccepts)

/-- Services of one namespace are asked for in an environment for nodes of another one, and in an
environment for all pods. -/
theorem services_prevail :
    Accepted ["--kind", "Service", "-n", "prod"] [(.kind, "Service"), (.namespaceName, "prod")] ∧
      AgreeBesides [(.kind, "Service"), (.namespaceName, "prod")]
        [("KIND", "Node"), ("NAMESPACE", "test"), ("LOG_LEVEL", "debug")]
        [("LOG_LEVEL", "debug"), ("KIND", "pod")] ∧
      Request.read [("KIND", "Node"), ("NAMESPACE", "test"), ("LOG_LEVEL", "debug")]
          ["watch", "--kind", "Service", "-n", "prod"]
        = Request.read [("LOG_LEVEL", "debug"), ("KIND", "pod")]
          ["watch", "--kind", "Service", "-n", "prod"] := by
  have haccepted : Accepted ["--kind", "Service", "-n", "prod"]
      [(.kind, "Service"), (.namespaceName, "prod")] :=
    ⟨by rfl, by rfl, ⟨{ kind := some "service", namespaceName := some "prod" }, by rfl⟩⟩
  have hagree : AgreeBesides [(.kind, "Service"), (.namespaceName, "prod")]
      [("KIND", "Node"), ("NAMESPACE", "test"), ("LOG_LEVEL", "debug")]
      [("LOG_LEVEL", "debug"), ("KIND", "pod")] := by
    -- Only the two variables that are overridden differ.
    intro v hv
    cases v with
    | kind => exact absurd ⟨.kind, rfl, rfl⟩ hv
    | namespaceName => exact absurd ⟨.namespaceName, rfl, rfl⟩ hv
    | delay d => cases d <;> decide
    | _ => decide
  refine ⟨haccepted, hagree, (options_prevail haccepted hagree).1 ?_⟩
  intro v hv
  constructor
  · apply firstComplaint?_eq_none_iff.mp
    decide +kernel
  · apply firstComplaint?_eq_none_iff.mp
    decide +kernel

/-- An environment for a kind that there is not is refused, although pods are asked for. -/
theorem overridden_kind_refused :
    Accepted ["--kind", "pod"] [(.kind, "pod")] ∧
      AgreeBesides [(.kind, "pod")] [("KIND", "widget")] [] ∧
      Request.read [("KIND", "widget")] ["watch", "--kind", "pod"]
        = .error ⟨.watch, .setting (.kind (.unsupported "widget"))⟩ ∧
      Request.read [] ["watch", "--kind", "pod"] = .ok (.watch { watch := { kind := "pod" } }) := by
  have hpod : overrides [(.kind, "pod")] = .ok { kind := some "pod" } := by rfl
  have haccepted : Accepted ["--kind", "pod"] [(.kind, "pod")] := ⟨by rfl, by rfl, ⟨_, hpod⟩⟩
  refine ⟨haccepted, ?_, ?_, ?_⟩
  · intro v hv
    cases v with
    | kind => exact absurd ⟨.kind, rfl, rfl⟩ hv
    | delay d => cases d <;> rfl
    | _ => rfl
  · have hload : load [("KIND", "widget")] = .error (.kind (.unsupported "widget")) := by
      decide +kernel
    rw [read_watch haccepted hpod, configure_eq_setting_iff.mpr hload]
    rfl
  · have hload : load [] = .ok {} := by decide +kernel
    rw [read_watch haccepted hpod, configure, hload]
    rfl

end CommandLine

end ResumableWatch
