import ResumableWatch.Proofs.CommandLine.Settings
/-!
# What is watched

What the command for watching comes to, for words that are accepted as its options.

The configuration that is watched with holds, field by field, the option that was given last for it, or
what was loaded from the environment (`Laid`).  The command line looks at the scope of the kind, and
the application looks at it again when it chooses a listing.  `configure_refuses_unlistable` says that
the first look refuses exactly what the second one could not list, whatever the options are read as;
`refuses_unlistable` says it of the words of a command line.
-/

namespace ResumableWatch

open Text

variable {environment : Configuration.Environment} {words : List String} {o : Overrides}
  {loaded c : Configuration}

/-- What is watched is a kind, if what is laid over it is one. -/
theorem Overrides.kind_mem_names (hkinds : ∀ kind ∈ o.kind, lower kind ∈ Kind.names)
    (hloaded : loaded.watch.kind ∈ Kind.names) : (o.apply loaded).watch.kind ∈ Kind.names := by
  show (o.kind.map lower).getD loaded.watch.kind ∈ Kind.names
  cases hkind : o.kind with
  | none => exact hloaded
  | some kind => exact hkinds kind hkind

namespace CommandLine

variable {given : List (Topic × String)} {topic : Topic}

/-! ### The command for watching -/

/-- The words are options for watching, with values that can be read. -/
structure Accepted (words : List String) (given : List (Topic × String)) : Prop where
  recognised : recognise .watch words = .ok { given }
  /-- None of them asks for help. -/
  answered : eager? given = none
  readable : ∃ o, overrides given = .ok o

/-- The name of the command ends the options of the group. -/
theorem recognise_group_watch :
    recognise .group ("watch" :: words) = .ok { others := "watch" :: words } := by
  rw [recognise]
  rfl

/-- What is asked for by options that are accepted is decided by the configuration. -/
theorem read_watch (h : Accepted words given) (ho : overrides given = .ok o) :
    Request.read environment ("watch" :: words)
      = onPage .watch ((configure environment o).map .watch) := by
  have hread : readCommand .watch environment words
      = (configure environment o).map .watch := by
    rw [readCommand, h.recognised]
    show unlessEager .watch { given } _ = _
    rw [unlessEager, h.answered]
    show (overrides given >>= _) = _
    rw [ho]
    -- no words are left over, and the page is not that of the kinds
    show (configure environment o >>= fun c => pure (Request.watch c)) = _
    cases configure environment o <;> rfl
  rw [Request.read, recognise_group_watch, ← hread]
  rfl

/-! ### Options that were given -/

/-- What a setting holds: what the last value for the option is read as, if the option was given, and
what was loaded otherwise. -/
def Holds {α : Type} (given : List (Topic × String)) (topic : Topic) (reads : String → α → Prop)
    (loaded held : α) : Prop :=
  match given? given topic with
  | some value => reads value held
  | none => held = loaded

/-- A setting holds the choice that a value names in any case; it is held in lower case. -/
def Chosen (choices : List String) (value held : String) : Prop :=
  ∃ choice ∈ choices, fold choice = fold value ∧ held = lower choice

/-- The configuration is the loaded one with the given options laid over it. -/
structure Laid (given : List (Topic × String)) (loaded c : Configuration) : Prop where
  kind : Holds given .kind (Chosen Kind.names) loaded.watch.kind c.watch.kind
  namespaceName : Holds given .namespaceName (fun value name => name = value)
    loaded.watch.namespaceName c.watch.namespaceName
  labelSelector : Holds given .labelSelector (fun value selector => selector = value)
    loaded.watch.labelSelector c.watch.labelSelector
  fieldSelector : Holds given .fieldSelector (fun value selector => selector = value)
    loaded.watch.fieldSelector c.watch.fieldSelector
  timeoutSeconds : Holds given .timeout (fun value seconds => Number.integer value = .ok seconds)
    loaded.watch.timeoutSeconds c.watch.timeoutSeconds
  level : Holds given .logLevel (Chosen Configuration.logLevels) loaded.log.level c.log.level
  format : Holds given .logFormat (fun value format => format = value) loaded.log.format c.log.format
  /-- There are no options for the others. -/
  recovery : c.recovery = loaded.recovery
  metricsPort : c.metricsPort = loaded.metricsPort

theorem choose_ok {name value choice : String} {choices : List String} {ignoreCase : Bool}
    (h : choose name value choices ignoreCase = .ok choice) :
    choice ∈ choices ∧ if ignoreCase then fold choice = fold value else choice = value := by
  rw [choose] at h
  split at h
  · rename_i found hfound
    cases h
    refine ⟨List.mem_of_find?_eq_some hfound, ?_⟩
    have hsame := List.find?_some hfound
    cases ignoreCase <;> simpa using hsame
  · cases h

theorem integer_of_seconds {name value : String} {n : Int} (h : seconds name value = .ok n) :
    Number.integer value = .ok n := by
  rw [seconds] at h
  split at h
  · cases h
  · rename_i m hm
    obtain ⟨-, rfl⟩ := checked_ok h
    exact hm

/-- An option that is laid over a setting, as `laid` of what was read for it. -/
theorem holds_of_overrides {α β : Type} {option? : Option α} {inj : α → String ⊕ Int} {laid : α → β}
    {reads : String → β → Prop} {before : β} (h : overrides given = .ok o)
    (htopic : topic.isAlone = false) (hoption : o.option? topic = option?.map inj)
    (hreads : ∀ value a, valueOf topic value = .ok (inj a) → reads value (laid a)) :
    Holds given topic reads before ((option?.map laid).getD before) := by
  have hoverrides := overrides_reads h topic htopic
  rw [Holds]
  cases hgiven : given? given topic with
  | some value =>
    rw [hgiven] at hoverrides
    obtain ⟨read, hread, hsome⟩ := hoverrides
    obtain ⟨a, rfl, rfl⟩ := Option.map_eq_some_iff.mp (hoption.symm.trans hsome)
    exact hreads value a hread
  | none =>
    rw [hgiven] at hoverrides
    obtain rfl := Option.map_eq_none_iff.mp (hoption.symm.trans hoverrides)
    rfl

/-- An option that is laid over a setting as it was read. -/
theorem holds_as_read {α : Type} {option? : Option α} {inj : α → String ⊕ Int}
    {reads : String → α → Prop} {before : α} (h : overrides given = .ok o)
    (htopic : topic.isAlone = false) (hoption : o.option? topic = option?.map inj)
    (hreads : ∀ value a, valueOf topic value = .ok (inj a) → reads value a) :
    Holds given topic reads before (option?.getD before) := by
  have hholds : Holds given topic reads before ((option?.map id).getD before) :=
    holds_of_overrides h htopic hoption hreads
  rwa [Option.map_id, id_eq] at hholds

theorem holds_text {option? : Option String} {before : String} (h : overrides given = .ok o)
    (htopic : topic.isAlone = false) (hoption : o.option? topic = option?.map .inl)
    (hvalue : ∀ value, valueOf topic value = .ok (.inl value)) :
    Holds given topic (fun value held => held = value) before (option?.getD before) := by
  apply holds_as_read h htopic hoption
  intro value text htext
  rw [hvalue] at htext
  exact (Sum.inl.inj (Except.ok.inj htext)).symm

theorem holds_chosen {option? : Option String} {before name : String} {choices : List String}
    (h : overrides given = .ok o) (htopic : topic.isAlone = false)
    (hoption : o.option? topic = option?.map .inl)
    (hvalue : ∀ value, valueOf topic value = (choose name value choices true).map .inl) :
    Holds given topic (Chosen choices) before ((option?.map lower).getD before) := by
  apply holds_of_overrides h htopic hoption
  intro value held hheld
  rw [hvalue] at hheld
  obtain ⟨choice, hchoice, heq⟩ := map_ok hheld
  obtain rfl := Sum.inl.inj heq
  obtain ⟨hmem, hsame⟩ := choose_ok hchoice
  exact ⟨choice, hmem, hsame, rfl⟩

/-- What the options make of a loaded configuration. -/
theorem laid_of_overrides (h : overrides given = .ok o) : Laid given loaded (o.apply loaded) where
  kind := holds_chosen h rfl rfl fun _ => rfl
  namespaceName := holds_text h rfl rfl fun _ => rfl
  labelSelector := holds_text h rfl rfl fun _ => rfl
  fieldSelector := holds_text h rfl rfl fun _ => rfl
  timeoutSeconds := by
    apply holds_as_read h rfl rfl
    intro value n hn
    obtain ⟨m, hm, heq⟩ := map_ok hn
    obtain rfl := Sum.inr.inj heq
    exact integer_of_seconds hm
  level := holds_chosen h rfl rfl fun _ => rfl
  format := by
    apply holds_as_read h rfl rfl
    intro value format hformat
    obtain ⟨choice, hchoice, heq⟩ := map_ok hformat
    obtain rfl := Sum.inl.inj heq
    exact (choose_ok hchoice).2
  recovery := rfl
  metricsPort := rfl

/-! ### Scope -/

/-- An option for the kind is read as one. -/
theorem kind_of_overrides (h : overrides given = .ok o) : ∀ kind ∈ o.kind, lower kind ∈ Kind.names := by
  intro kind hkind
  have hreads := overrides_reads h .kind rfl
  rw [Overrides.option?, Option.mem_def.mp hkind, Option.map_some] at hreads
  split at hreads
  · obtain ⟨read, hread, hsome⟩ := hreads
    obtain ⟨choice, hchoice, rfl⟩ := map_ok hread
    obtain rfl : kind = choice := Sum.inl.inj (Option.some.inj hsome)
    have hmem := (choose_ok hchoice).1
    rw [Kind.lower_of_mem_names hmem]
    exact hmem
  · cases hreads

/-- **What cannot be listed is refused, whatever the options are read as.**  The environment is loaded,
and over it lies anything whose kind, if it has one, is a kind.  The scope is found wrong exactly where
there is no listing; otherwise the configuration is the loaded one with the options laid over it. -/
theorem configure_refuses_unlistable (hload : Configuration.load environment = .ok loaded)
    (hkinds : ∀ kind ∈ o.kind, lower kind ∈ Kind.names) :
    configure environment o =
      match Kind.listing (o.apply loaded).watch.kind (o.apply loaded).watch.namespaceName with
      | .ok _ => .ok (o.apply loaded)
      | .error _ => .error (.clusterScoped (o.apply loaded).watch.kind) := by
  have hkind := o.kind_mem_names hkinds (Configuration.bounded_of_load hload).kind
  obtain ⟨kind, hfound⟩ := Option.isSome_iff_exists.mp (Kind.find?_isSome_iff.mpr hkind)
  rw [configure, hload, Kind.listing, Kind.lower_name hfound, hfound]
  -- the kind is the same for both, so its listings decide
  cases hempty : (o.apply loaded).watch.namespaceName.isEmpty <;>
    cases hlisting : kind.namespacedListing <;>
    simp [Kind.isNamespaced, hfound, hempty, hlisting]

/-- **What cannot be listed is refused, and nothing else.**  The words are accepted as options and the
environment is loaded.  Then the configuration that is in effect holds the given options, and what was
loaded where there is none; and the command for watching is refused, for the scope of the kind, where
its kind cannot be listed in its namespace, and watches with this configuration where it can. -/
theorem refuses_unlistable (haccepted : Accepted words given)
    (hload : Configuration.load environment = .ok loaded) :
    ∃ c, Laid given loaded c ∧
      match Kind.listing c.watch.kind c.watch.namespaceName with
      | .ok _ => Request.read environment ("watch" :: words) = .ok (.watch c)
      | .error _ => Request.read environment ("watch" :: words)
          = .error ⟨.watch, .clusterScoped c.watch.kind⟩ := by
  obtain ⟨o, ho⟩ := haccepted.readable
  have hlaid : Laid given loaded (o.apply loaded) := laid_of_overrides ho
  refine ⟨o.apply loaded, hlaid, ?_⟩
  rw [read_watch haccepted ho, configure_refuses_unlistable hload (kind_of_overrides ho)]
  cases Kind.listing (o.apply loaded).watch.kind (o.apply loaded).watch.namespaceName with
  | ok listing => rfl
  | error cause => rfl

/-- Nodes, for which pods were given up, are not watched in the namespace of the environment. -/
theorem nodes_refused_in_namespace :
    ∃ loaded, Configuration.load [("NAMESPACE", "prod")] = .ok loaded ∧
      Accepted ["--kind", "pod", "-l", "app=api", "--kind=NODE"]
        [(.kind, "pod"), (.labelSelector, "app=api"), (.kind, "NODE")] ∧
      Request.read [("NAMESPACE", "prod")]
          ["watch", "--kind", "pod", "-l", "app=api", "--kind=NODE"]
        = .error ⟨.watch, .clusterScoped "node"⟩ := by
  have hload : Configuration.load [("NAMESPACE", "prod")]
      = .ok { watch := { namespaceName := "prod" } } := by decide +kernel
  have haccepted : Accepted ["--kind", "pod", "-l", "app=api", "--kind=NODE"]
      [(.kind, "pod"), (.labelSelector, "app=api"), (.kind, "NODE")] :=
    ⟨by rfl, by rfl, ⟨{ kind := some "node", labelSelector := some "app=api" }, by rfl⟩⟩
  refine ⟨_, hload, haccepted, ?_⟩
  obtain ⟨c, hlaid, hlisting⟩ := refuses_unlistable haccepted hload
  have hkind : c.watch.kind = "node" := by
    have hchosen : Chosen Kind.names "NODE" c.watch.kind := hlaid.kind
    obtain ⟨choice, hmem, hsame, hlower⟩ := hchosen
    -- Of the names on offer, only one folds to the option that was given last.
    have honly : ∀ choice ∈ Kind.names, fold choice = fold "NODE" → lower choice = "node" := by
      decide +kernel
    rw [hlower]
    exact honly choice hmem hsame
  have hnamespace : c.watch.namespaceName = "prod" := hlaid.namespaceName
  rw [hkind, hnamespace] at hlisting
  exact hlisting

end CommandLine

end ResumableWatch
