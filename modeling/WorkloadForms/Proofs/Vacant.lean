import WorkloadForms.Proofs.Normal.Descriptor
import WorkloadForms.Proofs.Yaml.Vacant

/-!
# What a manifest leaves empty

A manifest has no null, and hardly an empty sequence or mapping: a setting that says nothing is left
out. `Descriptor.Spares` lists the four places where something empty is written on purpose, because
leaving it out would mean something else, and `Descriptor.nothing_empty` says that it is written
there and nowhere else.
-/

namespace WorkloadForms

open Form Yaml

namespace Form

/-! ## Parts of containers -/

theorem Port.full_toYaml (p : Port) : Full p.toYaml := by
  simp [toYaml]

theorem KeySelector.full_toYaml (s : KeySelector) : Full s.toYaml := by
  simp [toYaml]

theorem EnvSource.full_toYaml (s : EnvSource) : Full s.toYaml := by
  cases s <;> simp [toYaml, KeySelector.full_toYaml]

theorem EnvVar.full_toYaml (e : EnvVar) : Full e.toYaml := by
  rw [toYaml]
  split <;> simp [EnvSource.full_toYaml]

theorem VolumeMount.full_toYaml (m : VolumeMount) : Full m.toYaml := by
  simp [toYaml]

/-- Amounts are written if there is one. -/
theorem Quantities.fullIfAny_toYaml? (q : Quantities) : FullIfAny q.toYaml? := by
  rw [toYaml?]
  cases q.cpu.bind filled <;> cases q.memory.bind filled <;> cases q.gpu.bind filled <;> simp

/-- Resources are written if there are requests or limits. -/
theorem Resources.fullIfAny_toYaml? (r : Resources) : FullIfAny r.toYaml? := by
  have limits := fullIfAny_bind (o := r.limits) Quantities.fullIfAny_toYaml?
  have requests := fullIfAny_bind (o := r.requests) Quantities.fullIfAny_toYaml?
  rw [toYaml?]
  cases h : r.limits.bind Quantities.toYaml? <;> cases h' : r.requests.bind Quantities.toYaml? <;>
    simp_all

/-- The action of a command that has words. -/
theorem full_commandYaml {words : List String} (filled : words ≠ []) :
    Full (commandYaml words) := by
  cases words with
  | nil => exact absurd rfl filled
  | cons => simp [commandYaml, ofTexts]

/-- A hook is written if its command has words. -/
theorem Hook.fullIfAny_toYaml? (h : Hook) : FullIfAny h.toYaml? := by
  obtain ⟨_ | c⟩ := h
  · exact fullIfAny_none
  · by_cases filled : Text.lines c.lines = []
    · simp [toYaml?, filled]
    · simp [toYaml?, filled, full_commandYaml filled]

/-- Hooks are written if there is one. -/
theorem Lifecycle.fullIfAny_toYaml? (l : Lifecycle) : FullIfAny l.toYaml? := by
  have start := fullIfAny_bind (o := l.postStart) Hook.fullIfAny_toYaml?
  have stop := fullIfAny_bind (o := l.preStop) Hook.fullIfAny_toYaml?
  rw [toYaml?]
  cases h : l.postStart.bind Hook.toYaml? <;> cases h' : l.preStop.bind Hook.toYaml? <;> simp_all

theorem Handler.full_entry {h : Handler} (written : h.IsWritten) : Full h.entry.2 := by
  cases h with
  | httpGet path port scheme => simp [entry]
  | exec command => exact full_commandYaml written.1
  | tcpSocket port => simp [entry]

/-- The handler of a probe is written with all that it needs. -/
theorem Probe.fullIfAny_handler (p : Probe) (name : String) :
    FullIfAny (Handler.at? p.handler? name) := by
  intro y there
  obtain ⟨entry, has, there⟩ := Option.bind_eq_some_iff.1 there
  obtain ⟨h, performed, rfl⟩ := Option.map_eq_some_iff.1 has
  obtain ⟨-, same⟩ := Option.ite_none_right_eq_some.1 there
  obtain rfl := Option.some.inj same
  exact Handler.full_entry (handler?_isWritten performed)

/-- A probe is written if it has a handler or a time. -/
theorem Probe.fullIfAny_toYaml? (p : Probe) : FullIfAny p.toYaml? := by
  rw [toYaml?]
  split
  · exact fullIfAny_none
  · next loud =>
    refine fullIfAny_some.2 (full_object_iff.2 ⟨?entry, by simp [p.fullIfAny_handler]⟩)
    have speaks : p.handler?.isSome = true ∨ p.hasTiming = true := by
      simp only [Bool.or_eq_true, Bool.and_eq_true, not_or, not_and] at loud
      cases h : p.handler? with
      | none => simpa [h] using loud.2
      | some h' => exact .inl rfl
    rcases speaks with handled | timed
    · obtain ⟨h, handled⟩ := Option.isSome_iff_exists.1 handled
      rw [handled]
      cases h <;> simp [Handler.at?, Handler.entry]
    · simp only [hasTiming, Bool.or_eq_true] at timed
      rcases timed with (((set | set) | set) | set) | set <;> simp [set]

/-- A container is written without anything empty, whatever its form. -/
theorem Container.full_toYaml (c : Container) : Full c.toYaml := by
  have resources := fullIfAny_bind (o := c.resources) Resources.fullIfAny_toYaml?
  have lifecycle := fullIfAny_bind (o := c.lifecycle) Lifecycle.fullIfAny_toYaml?
  have probe (p : Option Probe) := fullIfAny_bind (o := p) Probe.fullIfAny_toYaml?
  simp [toYaml, resources, lifecycle, probe, EnvVar.full_toYaml, Port.full_toYaml,
    VolumeMount.full_toYaml]

/-! ## Parts of pod specifications -/

theorem full_condition (key : String) (operator : SelectorOperator) (values : String) :
    Full (condition key operator values) := by
  simp [condition]

theorem full_podTerm (topologyKey labelKey : String) (operator : SelectorOperator)
    (values : String) : Full (podTerm topologyKey labelKey operator values) := by
  simp [podTerm, conditions, full_condition]

theorem WeightedPodRow.full_term (r : WeightedPodRow) : Full r.term := by
  simp [term, full_podTerm]

theorem WeightedNodeRow.full_term (r : WeightedNodeRow) : Full r.term := by
  simp [term, conditions, full_condition]

theorem isSome_rules (preferred required : Option Yaml) :
    (rules preferred required).isSome = (preferred.isSome || required.isSome) := by
  cases preferred <;> cases required <;> rfl

/-- Rules are written if some prefer or some require. -/
theorem fullIfAny_rules {preferred required : Option Yaml} (prefers : FullIfAny preferred)
    (requires : FullIfAny required) : FullIfAny (rules preferred required) := by
  cases preferred <;> cases required <;> simp_all [rules]

theorem Scheduling.fullIfAny_podRules (preferred : List WeightedPodRow) (required : List PodRow) :
    FullIfAny (podRules preferred required) := by
  apply fullIfAny_rules
  · simp [WeightedPodRow.full_term]
  · simp [PodRow.term, full_podTerm]

theorem Scheduling.fullIfAny_nodeRules (s : Scheduling) : FullIfAny s.nodeRules := by
  apply fullIfAny_rules
  · simp [WeightedNodeRow.full_term]
  · cases s.nodeRequired <;> simp [NodeRow.condition, full_condition]

/-- Scheduling rules are written if there is a row. -/
theorem Scheduling.fullIfAny_toYaml? (s : Scheduling) : FullIfAny s.toYaml? := by
  rw [toYaml?]
  split
  · exact fullIfAny_none
  · next filled =>
    refine fullIfAny_some.2 (full_object_iff.2
      ⟨?entry, by simp [fullIfAny_nodeRules, fullIfAny_podRules]⟩)
    simp [isEmpty, nodeRules, podRules, isSome_rules] at filled ⊢
    grind

theorem Toleration.full_toYaml (t : Toleration) : Full t.toYaml := by
  simp [toYaml]

theorem DnsOption.fullIfAny_toYaml? (o : DnsOption) : FullIfAny o.toYaml? :=
  fullIfAny_map fun _ => by simp

/-- The settings of the resolver are written if there is one. -/
theorem DnsConfig.fullIfAny_toYaml? (d : DnsConfig) : FullIfAny d.toYaml? := by
  have options : FullIfAny (ofItems (d.options.filterMap DnsOption.toYaml?)) := by
    rw [fullIfAny_ofItems]
    intro y mem
    obtain ⟨o, -, written⟩ := List.mem_filterMap.1 mem
    exact o.fullIfAny_toYaml? y written
  have nameservers := fullIfAny_ofTexts (Text.commas d.nameservers)
  have searches := fullIfAny_ofTexts (Text.commas d.searches)
  rw [toYaml?]
  cases h : ofTexts (Text.commas d.nameservers) <;>
    cases h' : ofItems (d.options.filterMap DnsOption.toYaml?) <;>
      cases h'' : ofTexts (Text.commas d.searches) <;> simp_all

/-! ## Volumes -/

/-- Whether nothing is set for storage that lives as long as the pod. -/
def EmptyDir.IsUnset (s : EmptyDir) : Prop := (∀ t ∈ s.medium, t = "") ∧ ∀ t ∈ s.sizeLimit, t = ""

theorem fullIfAny_keysYaml (items : List KeyToPath) : FullIfAny (keysYaml items) := by
  rw [keysYaml, fullIfAny_ofItems, List.forall_mem_map]
  exact fun item _ => by simp [KeyToPath.toYaml]

/-- A source that is not storage that lives as long as the pod is written without anything
empty. -/
theorem VolumeSource.full_entry {s : VolumeSource} (other : ∀ e, s ≠ .emptyDir e) :
    Full s.entry.2 := by
  cases s with
  | emptyDir e => exact absurd rfl (other e)
  | _ => simp [entry, fullIfAny_keysYaml]

/-- A source is written without anything empty, but for storage for which nothing is set. -/
theorem VolumeSource.vacantAt_entry {path : List Step} {v : Yaml} (s : VolumeSource) :
    VacantAt path v s.entry.2 ↔
      ∃ e : EmptyDir, s = .emptyDir e ∧ e.IsUnset ∧ path = [] ∧ v = .map [] := by
  cases s with
  | emptyDir e =>
    simp [entry, vacantAt_object_iff, vacantIn_iff_false, EmptyDir.IsUnset, ofFilled, and_assoc,
      and_comm]
  | _ => exact iff_of_false (full_entry (by simp) path v) (by simp)

/-- Whether a volume is storage that lives as long as the pod, with nothing set for it. -/
def Volume.IsBare (w : Volume) : Prop := w.type = .emptyDir ∧ ∀ e ∈ w.emptyDir, e.IsUnset

theorem Volume.isBare_iff (w : Volume) : w.IsBare ↔ ∃ e, w.source = .emptyDir e ∧ e.IsUnset := by
  rw [IsBare, source]
  cases w.type <;> cases w.emptyDir <;> simp [EmptyDir.IsUnset]

/-- A volume is written without anything empty, but for bare storage. -/
theorem Volume.vacantAt_toYaml {path : List Step} {v : Yaml} (w : Volume) :
    VacantAt path v w.toYaml ↔ w.IsBare ∧ path = steps ["emptyDir"] ∧ v = .map [] := by
  have entries : VacantAt path v w.toYaml ↔
      VacantIn path v w.source.entry.1 (some w.source.entry.2) := by
    rcases w.toYaml_eq_or with h | h <;> rw [h, dict_eq_object, vacantAt_object_iff] <;>
      simp [vacantIn_iff_false]
  rw [entries, isBare_iff]
  simp only [vacantIn_some_iff, VolumeSource.vacantAt_entry]
  constructor
  · rintro ⟨_, rfl, e, source, unset, rfl, rfl⟩
    rw [source]
    exact ⟨⟨e, rfl, unset⟩, rfl, rfl⟩
  · rintro ⟨⟨e, source, unset⟩, rfl, rfl⟩
    exact ⟨[], by rw [source]; rfl, e, source, unset, rfl, rfl⟩

/-! ## Strategies -/

/-- A strategy is written without anything empty, but for missing limits of a rolling update. -/
theorem Strategy.vacantAt_toYaml {path : List Step} {v : Yaml} (s : Strategy) :
    VacantAt path v s.toYaml ↔ s.type = .rollingUpdate ∧ s.rollingUpdate = some {} ∧
      path = steps ["rollingUpdate"] ∧ v = .map [] := by
  obtain ⟨_ | _, _ | ⟨_ | u, _ | g⟩⟩ := s <;>
    simp [toYaml, RollingUpdate.toYaml, vacantAt_object_iff, vacantIn_iff_false,
      vacantIn_some_iff, exists_rest_nil_iff]

/-- The strategy of a rollout is written without anything empty, but for missing limits. -/
theorem Strategy.vacantAt_toCanaryYaml {path : List Step} {v : Yaml} (s : Strategy) :
    VacantAt path v s.toCanaryYaml ↔ s.rollingUpdate.getD {} = {} ∧ path = steps ["canary"] ∧
      v = .map [] := by
  obtain ⟨_, _ | ⟨_ | u, _ | g⟩⟩ := s <;>
    simp [toCanaryYaml, dict_eq_object, vacantAt_object_iff, vacantIn_iff_false,
      vacantIn_some_iff, exists_rest_nil_iff]

end Form

namespace Descriptor

theorem fullIfAny_pullSecretsYaml (names : List String) : FullIfAny (pullSecretsYaml names) := by
  rw [pullSecretsYaml, fullIfAny_ofItems, List.forall_mem_map]
  exact fun name _ => by simp

theorem full_metadata (d : Descriptor) : Full d.metadata := by
  simp [metadata, full_ofDictionary d.isEmpty_labelMap]

theorem full_selector (d : Descriptor) : Full d.selector := by
  simp [selector, full_ofDictionary d.isEmpty_labelMap]

/-! ## Pod specifications -/

/-- What a pod specification leaves empty on purpose: the list of containers if there are none, and
storage that lives as long as the pod if nothing is set for it. -/
inductive PodSpares (d : Descriptor) : List Step → Yaml → Prop
  | containers : d.containers = [] → PodSpares d (steps ["containers"]) (.seq [])
  | emptyDir {i : Nat} {w : Volume} : d.volumes[i]? = some w → w.IsBare →
      PodSpares d (steps ["volumes"] ++ .item i :: steps ["emptyDir"]) (.map [])

theorem vacantAt_podSpec {path : List Step} {v : Yaml} (d : Descriptor) (policy : Option String) :
    VacantAt path v (d.podSpec policy) ↔ d.PodSpares path v := by
  have affinity := fullIfAny_bind (o := d.scheduling) Scheduling.fullIfAny_toYaml?
  have dnsConfig := fullIfAny_bind (o := d.dnsConfig) DnsConfig.fullIfAny_toYaml?
  have nodeSelector := fullIfAny_ofDictionary d.nodeSelector
  have pullSecrets := fullIfAny_pullSecretsYaml d.imagePullSecrets
  have entries : VacantAt path v (d.podSpec policy) ↔
      VacantIn path v "containers" (some (.seq (d.containers.map Container.toYaml))) ∨
        VacantIn path v "volumes" (ofItems (d.volumes.map Volume.toYaml)) := by
    rw [podSpec, vacantAt_object_iff]
    simp [vacantIn_iff_false, affinity, dnsConfig, pullSecrets, Container.full_toYaml,
      Toleration.full_toYaml]
  rw [entries, vacantIn_some_iff, vacantIn_ofItems_iff]
  constructor
  · rintro (⟨rest, rfl, inside⟩ | ⟨i, y, rest, there, rfl, inside⟩)
    · rcases vacantAt_seq_iff.1 inside with ⟨rfl, rfl, none⟩ | ⟨i, y, rest, there, rfl, inside⟩
      · exact .containers (List.map_eq_nil_iff.1 none)
      · obtain ⟨c, -, rfl⟩ := List.mem_map.1 (List.mem_of_getElem? there)
        exact absurd inside (c.full_toYaml rest v)
    · rw [List.getElem?_map] at there
      obtain ⟨w, listed, rfl⟩ := Option.map_eq_some_iff.1 there
      obtain ⟨bare, rfl, rfl⟩ := w.vacantAt_toYaml.1 inside
      exact .emptyDir listed bare
  · rintro (none | ⟨listed, bare⟩)
    · exact .inl ⟨[], rfl, by rw [none]; exact .seq⟩
    · refine .inr ⟨_, _, _, ?_, rfl, (Volume.vacantAt_toYaml _).2 ⟨bare, rfl, rfl⟩⟩
      rw [List.getElem?_map, listed, Option.map_some]

/-- A template of pods leaves empty what its pod specification does. -/
theorem vacantAt_podTemplate {path : List Step} {v : Yaml} (d : Descriptor)
    (policy : Option String) :
    VacantAt path v (d.podTemplate policy) ↔ Beneath d.PodSpares ["spec"] path v := by
  have labels := full_ofDictionary d.isEmpty_labelMap
  rw [podTemplate, dict_eq_object, vacantAt_object_iff]
  simp [Beneath, vacantIn_iff_false, labels, vacantIn_some_iff, vacantAt_podSpec]

/-- The specification of a job leaves empty what its pod specification does. -/
theorem vacantAt_jobSpec {path : List Step} {v : Yaml} (d : Descriptor) :
    VacantAt path v d.jobSpec ↔ Beneath d.PodSpares ["template", "spec"] path v := by
  rw [jobSpec, vacantAt_object_iff]
  simp [Beneath, vacantIn_iff_false, vacantIn_some_iff, vacantAt_podTemplate]

/-! ## Strategies in manifests -/

/-- What the strategy in the manifest of a kind leaves empty on purpose: the limits of a rolling
update of a deployment that has no limit, and those of a rollout. -/
inductive StrategySpares (k : Kind) (d : Descriptor) : List Step → Yaml → Prop
  | rollingUpdate {s : Strategy} : k = .deployment → d.strategy = some s →
      s.type = .rollingUpdate → s.rollingUpdate = some {} →
      StrategySpares k d (steps ["rollingUpdate"]) (.map [])
  | canary {s : Strategy} : k = .rollout → d.strategy = some s → s.rollingUpdate.getD {} = {} →
      StrategySpares k d (steps ["canary"]) (.map [])

variable {path : List Step} {v : Yaml}

/-- The strategy of a deployment leaves the limits of a rolling update empty. -/
theorem vacantIn_strategy_deployment (d : Descriptor) :
    VacantIn path v "strategy" (d.strategy.map Strategy.toYaml) ↔
      Beneath (d.StrategySpares .deployment) ["strategy"] path v := by
  simp only [vacantIn_map_iff, Strategy.vacantAt_toYaml, Beneath]
  constructor
  · rintro ⟨s, there, _, rfl, type, limits, rfl, rfl⟩
    exact ⟨_, rfl, .rollingUpdate rfl there type limits⟩
  · rintro ⟨_, rfl, ⟨-, there, type, limits⟩ | ⟨other, -, -⟩⟩
    · exact ⟨_, there, _, rfl, type, limits, rfl, rfl⟩
    · cases other

/-- The strategy of a rollout leaves its limits empty. -/
theorem vacantIn_strategy_rollout (d : Descriptor) :
    VacantIn path v "strategy" (d.strategy.map Strategy.toCanaryYaml) ↔
      Beneath (d.StrategySpares .rollout) ["strategy"] path v := by
  simp only [vacantIn_map_iff, Strategy.vacantAt_toCanaryYaml, Beneath]
  constructor
  · rintro ⟨s, there, _, rfl, limits, rfl, rfl⟩
    exact ⟨_, rfl, .canary rfl there limits⟩
  · rintro ⟨_, rfl, ⟨other, -, -, -⟩ | ⟨-, there, limits⟩⟩
    · cases other
    · exact ⟨_, there, _, rfl, limits, rfl, rfl⟩

/-- The other kinds have no strategy. -/
theorem strategySpares_iff_false {k : Kind} (d : Descriptor)
    (without : k ≠ .deployment ∧ k ≠ .rollout) : d.StrategySpares k path v ↔ False := by
  refine iff_false_intro ?_
  rintro (⟨deployment, -, -, -⟩ | ⟨rollout, -, -⟩)
  · exact without.1 deployment
  · exact without.2 rollout

/-! ## Manifests -/

/-- What the manifest of a kind leaves empty on purpose: in its pod specification and its
strategy. -/
def Spares (k : Kind) (d : Descriptor) (path : List Step) (v : Yaml) : Prop :=
  Beneath d.PodSpares k.podSpecPath path v ∨
    Beneath (d.StrategySpares k) ["spec", "strategy"] path v

theorem spares_ne_null {k : Kind} {d : Descriptor} (spared : d.Spares k path v) : v ≠ .null := by
  rcases spared with pod | strategy
  · obtain ⟨_, -, ⟨-⟩ | ⟨-, -⟩⟩ := beneath_iff.1 pod <;> exact Yaml.noConfusion
  · obtain ⟨_, -, ⟨-, -, -, -⟩ | ⟨-, -, -⟩⟩ := beneath_iff.1 strategy <;> exact Yaml.noConfusion

/-- The specification of a workload leaves empty what its pods and its strategy do. -/
theorem vacantAt_spec (k : Kind) (d : Descriptor) :
    VacantAt path v (d.spec k) ↔ Beneath d.PodSpares k.podSpecPath.tail path v ∨
      Beneath (d.StrategySpares k) ["strategy"] path v := by
  have selector := d.full_selector
  cases k with
  | deployment =>
    rw [spec, vacantAt_object_iff, ← vacantIn_strategy_deployment,
      or_comm (b := VacantIn path v "strategy" _)]
    simp [vacantIn_iff_false, selector, vacantIn_some_iff, vacantAt_podTemplate, Beneath,
      Kind.podSpecPath]
  | rollout =>
    rw [spec, vacantAt_object_iff, ← vacantIn_strategy_rollout]
    simp [vacantIn_iff_false, selector, vacantIn_some_iff, vacantAt_podTemplate, Beneath,
      Kind.podSpecPath]
  | job =>
    rw [spec, vacantAt_jobSpec]
    simp [Beneath, strategySpares_iff_false, Kind.podSpecPath]
  | cronJob =>
    rw [spec, vacantAt_object_iff]
    simp [vacantIn_iff_false, vacantIn_some_iff, dict_eq_object, vacantAt_object_iff,
      vacantAt_jobSpec, Beneath, strategySpares_iff_false, Kind.podSpecPath]
  | _ =>
    rw [spec, vacantAt_object_iff]
    simp [vacantIn_iff_false, selector, vacantIn_some_iff, vacantAt_podTemplate, Beneath,
      strategySpares_iff_false, Kind.podSpecPath]

/-- What is vacant in a manifest is vacant in its specification. -/
theorem vacantAt_manifest (k : Kind) (d : Descriptor) :
    VacantAt path v (d.manifest k) ↔
      ∃ rest, path = .under (text "spec") :: rest ∧ VacantAt rest v (d.spec k) := by
  have metadata := d.full_metadata
  rw [manifest, dict_eq_object, vacantAt_object_iff]
  simp [vacantIn_iff_false, metadata, vacantIn_some_iff]

theorem vacantAt_manifest_iff_spares (k : Kind) (d : Descriptor) :
    VacantAt path v (d.manifest k) ↔ d.Spares k path v := by
  have way : k.podSpecPath = "spec" :: k.podSpecPath.tail := by cases k <;> rfl
  rw [vacantAt_manifest, Spares, way]
  simp only [vacantAt_spec, Beneath, and_or_left, exists_or]

/-- A manifest has no null, and an empty sequence or mapping just where one is left on purpose: an
empty list of containers, storage for which nothing is set, and the missing limits of a deployment's
rolling update and of a rollout. -/
theorem nothing_empty (k : Kind) (d : Descriptor) :
    (∀ path, ¬ VacantAt path .null (d.manifest k)) ∧
      ∀ path v, VacantAt path v (d.manifest k) ↔ d.Spares k path v := by
  refine ⟨fun path vacant => ?null, fun path v => d.vacantAt_manifest_iff_spares k⟩
  exact spares_ne_null (d.vacantAt_manifest_iff_spares k |>.1 vacant) rfl

end Descriptor

end WorkloadForms
