import WorkloadForms.Manifest
import WorkloadForms.Proofs.Normal.Metadata
import WorkloadForms.Proofs.Normal.Pod

/-!
# The normal form of a descriptor

What becomes of a descriptor that is written to a manifest of a kind and read back:
`Descriptor.normal`. It has the settings that the kind writes, each in its normal form, and nothing
else. `Descriptor.ofYaml_manifest` says that this is what is read, and
`Descriptor.manifest_normal_iff` that it is written as the same manifest exactly when every
variable, mount and volume is named.
-/

namespace WorkloadForms

open Form Yaml

namespace Form.Strategy

/-! ## Strategies -/

/-- The strategy of a deployment as it comes back: its limits only count in a rolling update. -/
def normal (s : Strategy) : Strategy :=
  { s with rollingUpdate := if s.type = .rollingUpdate then s.rollingUpdate else none }

/-- The strategy of a rollout as it comes back: its limits, whatever the type. -/
def canary (s : Strategy) : Strategy where
  type := .rollingUpdate
  rollingUpdate := s.rollingUpdate.filter fun r => r.maxUnavailable.isSome || r.maxSurge.isSome

@[simp] theorem toYaml_normal (s : Strategy) : s.normal.toYaml = s.toYaml := by
  by_cases h : s.type = .rollingUpdate <;> simp [toYaml, normal, h]

@[simp] theorem toCanaryYaml_canary (s : Strategy) : s.canary.toCanaryYaml = s.toCanaryYaml := by
  cases h : s.rollingUpdate with
  | none => simp [toCanaryYaml, canary, h]
  | some r =>
    obtain ⟨_ | u, _ | v⟩ := r <;> simp [toCanaryYaml, canary, h, Option.filter]

theorem accepts_toYaml (s : Strategy) : Schema.strategy.accepts s.toYaml = true := by
  by_cases h : s.type = .rollingUpdate <;> cases hr : s.rollingUpdate <;>
    simp [Schema.strategy, toYaml, h, hr, RollingUpdate.toYaml]

/-- The strategy of a deployment where it was written. -/
theorem of?_eq {spec : Yaml} {s : Option Strategy} (written : spec.get? "strategy" = s.map toYaml) :
    of? spec = s.map normal := by
  rw [of?, Schema.at?_eq_map written (fun _ => rfl) accepts_toYaml]
  cases s with
  | none => rfl
  | some s =>
    by_cases h : s.type = .rollingUpdate <;> cases hr : s.rollingUpdate <;>
      simp [toYaml, normal, h, hr, RollingUpdate.toYaml, fieldWord?, field?_eq, Option.filter_some]

/-- The strategy of a rollout where it was written. -/
theorem ofCanary?_eq {spec : Yaml} {s : Option Strategy}
    (written : spec.get? "strategy" = s.map toCanaryYaml) : ofCanary? spec = s.map canary := by
  rw [ofCanary?, written]
  cases s with
  | none => rfl
  | some s =>
    cases h : s.rollingUpdate with
    | none => simp [toCanaryYaml, canary, h, dict_eq_object, intOrTextAt?, Schema.at?]
    | some r =>
      obtain ⟨_ | u, _ | v⟩ := r <;>
        simp [toCanaryYaml, canary, h, dict_eq_object, intOrTextAt?, Schema.at?, Option.filter]

end Form.Strategy

namespace Descriptor

/-! ## Descriptors -/

@[simp] theorem defaultSchedule_ne_empty : defaultSchedule ≠ "" := by decide

/-- The settings of jobs of a descriptor, put into another one. -/
def normalJob (base d : Descriptor) : Descriptor :=
  { base with
    completions := d.completions
    parallelism := d.parallelism
    backoffLimit := d.backoffLimit
    activeDeadlineSeconds := d.activeDeadlineSeconds
    ttlSecondsAfterFinished := d.ttlSecondsAfterFinished }

/-- A descriptor as it comes back from a manifest of a kind. -/
def normal (k : Kind) (d : Descriptor) : Descriptor :=
  let n := (({} : Descriptor).normalMetadata d).normalPod d
  match k with
  | .deployment =>
    { n with
      replicas := some d.replicaCount
      strategy := d.strategy.map Strategy.normal
      minReadySeconds := d.minReadySeconds
      revisionHistoryLimit := d.revisionHistoryLimit
      progressDeadlineSeconds := d.progressDeadlineSeconds }
  | .statefulSet =>
    { n with
      replicas := some d.replicaCount
      serviceName := some ((d.serviceName.bind filled).getD d.resolvedName)
      podManagementPolicy := d.podManagementPolicy }
  | .daemonSet =>
    { n with
      minReadySeconds := d.minReadySeconds
      revisionHistoryLimit := d.revisionHistoryLimit }
  | .job => n.normalJob d
  | .cronJob =>
    { n.normalJob d with
      schedule := some ((d.schedule.bind filled).getD defaultSchedule)
      suspend := d.suspend
      concurrencyPolicy := d.concurrencyPolicy
      successfulJobsHistoryLimit := d.successfulJobsHistoryLimit
      failedJobsHistoryLimit := d.failedJobsHistoryLimit }
  | .rollout =>
    { n with
      replicas := some d.replicaCount
      strategy := d.strategy.map Strategy.canary }

/-! ## Reading -/

section Reading

variable (k : Kind) (d : Descriptor)

/-- The restart policy of the pods of a kind. -/
def policyOf (k : Kind) : Option String := if k.isBatch then some neverRestart else none

theorem metadata_manifest : (d.manifest k).get? "metadata" = some d.metadata := by
  simp [manifest, dict_eq_object]

theorem spec_manifest : (d.manifest k).get? "spec" = some (d.spec k) := by
  simp [manifest, dict_eq_object]

/-- The pod specification lies where the kind has it. -/
theorem podSpec_manifest :
    (d.manifest k).at? (podPath (some k)) = some (d.podSpec (policyOf k)) := by
  cases k <;>
    simp [podPath, Kind.podSpecPath, at?, spec_manifest, spec, jobSpec, podTemplate,
      dict_eq_object, policyOf, Kind.isBatch]

/-- The job specification lies where the kind has it; other kinds have their own specification
there. -/
theorem jobSpec_manifest :
    (d.manifest k).at? (jobPath (some k)) = some (if k.isBatch then d.jobSpec else d.spec k) := by
  cases k <;>
    simp [jobPath, Kind.jobSpecPath?, at?, spec_manifest, spec, dict_eq_object, Kind.isBatch]

/-- The strategy of a manifest is that of the normal form. -/
theorem strategy_spec :
    (if some k = some Kind.rollout then Strategy.ofCanary? (d.spec k)
      else Strategy.of? (d.spec k)) = (d.normal k).strategy := by
  cases k with
  | deployment => exact Strategy.of?_eq (by simp [spec])
  | rollout => exact Strategy.ofCanary?_eq (by simp [spec])
  | _ => exact Strategy.of?_eq (s := none) (by simp [spec, jobSpec])

/-- What is read of the manifest of a kind is the normal form of the descriptor. -/
theorem ofManifest_manifest : ofManifest (some k) (d.manifest k) = d.normal k := by
  rw [ofManifest, metadata_manifest, spec_manifest, podSpec_manifest, jobSpec_manifest]
  simp only [Option.getD_some, withMetadata_metadata, withPodSpec_podSpec, withSpec, strategy_spec]
  cases k <;>
    simp [withJobSpec, spec, jobSpec, normal, normalPod, normalJob, normalMetadata, int32At?,
      int64At?, textAt?, wordAt?, Kind.isBatch]

/-- A manifest names the kind that it was written for. -/
theorem kindOf?_manifest : Manifest.kindOf? (d.manifest k) = some k := by
  simp [Manifest.kindOf?, manifest, dict_eq_object, textAt?]

/-- A manifest is read as the normal form of the descriptor that it was written for. -/
theorem ofYaml_manifest : Manifest.ofYaml (d.manifest k) = .ok ⟨some k, d.normal k⟩ := by
  rw [← ofManifest_manifest k d]
  show Except.ok (Manifest.ofRoot (d.manifest k)) = _
  rw [Manifest.ofRoot, kindOf?_manifest]

end Reading

/-! ## Writing the normal form -/

section Writing

variable (k : Kind) (d : Descriptor)

/-- The metadata of a normal form is in normal form. -/
theorem normalMetadata_normal : (d.normal k).normalMetadata d = d.normal k := by
  cases k <;> rfl

/-- The settings of pods of a normal form are in normal form. -/
theorem normalPod_normal : (d.normal k).normalPod d = d.normal k := by
  cases k <;> rfl

/-- The template of pods of a normal form is that of the descriptor without what is not named. -/
theorem podTemplate_normal (policy : Option String) :
    (d.normal k).podTemplate policy = d.named.podTemplate policy := by
  have pod : (d.normal k).podSpec policy = d.named.podSpec policy := by
    rw [← normalPod_normal, podSpec_normalPod]
  rw [podTemplate, labelMap_normal (normalMetadata_normal k d), pod]
  rfl

/-- The selector of a normal form is that of the descriptor. -/
theorem selector_normal : (d.normal k).selector = d.named.selector := by
  rw [selector, labelMap_normal (normalMetadata_normal k d)]
  rfl

/-- The job specification of a normal form of a batch kind. -/
theorem jobSpec_normal (batch : k.isBatch = true) : (d.normal k).jobSpec = d.named.jobSpec := by
  rw [jobSpec, podTemplate_normal]
  cases k with
  | job | cronJob => rfl
  | _ => cases batch

/-- The specification of a normal form is that of the descriptor without what is not named. -/
theorem spec_normal : (d.normal k).spec k = d.named.spec k := by
  cases k with
  | deployment =>
    have strategy : (d.normal .deployment).strategy.map Strategy.toYaml =
        d.named.strategy.map Strategy.toYaml := by
      simp [normal, named, Function.comp_def]
    rw [spec, podTemplate_normal, selector_normal, strategy]
    rfl
  | statefulSet =>
    have service : ((d.normal .statefulSet).serviceName.bind filled).getD
        (d.normal .statefulSet).resolvedName =
          (d.serviceName.bind filled).getD d.resolvedName := by
      simp [normal, filled_bind_getD d.resolvedName_ne_empty]
    rw [spec, podTemplate_normal, selector_normal, service]
    rfl
  | daemonSet =>
    rw [spec, podTemplate_normal, selector_normal]
    rfl
  | job => exact jobSpec_normal .job d rfl
  | cronJob =>
    have schedule : ((d.normal .cronJob).schedule.bind filled).getD defaultSchedule =
        (d.schedule.bind filled).getD defaultSchedule := by
      simp [normal]
    rw [spec, jobSpec_normal .cronJob d rfl, schedule]
    rfl
  | rollout =>
    have strategy : (d.normal .rollout).strategy.map Strategy.toCanaryYaml =
        d.named.strategy.map Strategy.toCanaryYaml := by
      simp [normal, named, Function.comp_def]
    rw [spec, podTemplate_normal, selector_normal, strategy]
    rfl

/-- The normal form of a descriptor is written without what is not named. -/
theorem manifest_normal : (d.normal k).manifest k = d.named.manifest k := by
  have metadata : (d.normal k).metadata = d.named.metadata :=
    metadata_normal (normalMetadata_normal k d)
  rw [manifest, metadata, spec_normal, manifest]

/-- The manifest of a descriptor is that without what is not named when everything is. -/
theorem manifest_named_iff : d.named.manifest k = d.manifest k ↔ d.IsNamed := by
  constructor
  · intro same
    have pod := congrArg (·.at? (podPath (some k))) same
    simp only [podSpec_manifest, Option.some.injEq] at pod
    exact (podSpec_named_iff d _).1 pod
  · intro isNamed
    rw [named_eq_self isNamed]

/-- A descriptor has the normal form that it has without what is not named. -/
theorem normal_named : d.named.normal k = d.normal k := by
  have pod (base : Descriptor) : base.normalPod d.named = base.normalPod d := by
    simp [normalPod, named, Function.comp_def]
  have metadata (base : Descriptor) : base.normalMetadata d.named = base.normalMetadata d := rfl
  cases k <;> (simp only [normal, pod, metadata]; rfl)

/-- A normal form is its own normal form. -/
theorem normal_normal : (d.normal k).normal k = d.normal k := by
  have read : Manifest.ofYaml ((d.normal k).manifest k) = .ok ⟨some k, d.normal k⟩ := by
    rw [manifest_normal, ofYaml_manifest, normal_named]
  rw [ofYaml_manifest] at read
  exact congrArg Manifest.descriptor (Except.ok.inj read)

end Writing

end Descriptor

end WorkloadForms
