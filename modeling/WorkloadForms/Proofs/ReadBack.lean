import Mathlib.Logic.Relation
import WorkloadForms.Proofs.Stability

/-!
# What survives in the manifest of a kind

A descriptor is written for a kind and read back. Its content, that is its metadata and what its
pods are made of, comes back alike for all kinds: `Descriptor.content_eq_of_readsBack`, and
`Descriptor.content_of_switches` for any number of times that the kind is changed in between. Of
the settings that only some kinds have, those of the kind come back and no others:
`Descriptor.settings_of_readsBack`. `Descriptor.kinds_agree` and `Descriptor.settings_survive` say
this of the manifests and of their texts.
-/

namespace WorkloadForms

open Form Yaml

/-! ## Mappings without a key -/

/-- A mapping without the entries of a text key; any other value as it is. -/
def Yaml.without (key : String) : Yaml → Yaml
  | .map es => .map (es.filter fun e => !e.1.isText key)
  | y => y

/-- Objects that differ only in what they have under a key are the same without it. -/
theorem Yaml.without_object_eq (key : String) (before after : List (String × Option Yaml))
    (v w : Option Yaml) :
    (object (before ++ (key, v) :: after)).without key =
      (object (before ++ (key, w) :: after)).without key := by
  cases v <;> cases w <;> simp [without, object, dict, isText]

namespace Descriptor

/-! ## Content and settings -/

/-- The content of a descriptor: a descriptor with its metadata and the settings of its pods, and
nothing else. -/
def content (d : Descriptor) : Descriptor where
  name := d.name
  namespaceName := d.namespaceName
  description := d.description
  labels := d.labels
  annotations := d.annotations
  containers := d.containers
  initContainers := d.initContainers
  volumes := d.volumes
  imagePullSecrets := d.imagePullSecrets
  scheduling := d.scheduling
  nodeSelector := d.nodeSelector
  tolerations := d.tolerations
  terminationGracePeriodSeconds := d.terminationGracePeriodSeconds
  dnsPolicy := d.dnsPolicy
  dnsConfig := d.dnsConfig
  hostNetwork := d.hostNetwork
  hostPid := d.hostPid
  hostIpc := d.hostIpc

/-- The settings of kinds: a descriptor with the settings that only some kinds have, and nothing
else. -/
def settings (d : Descriptor) : Descriptor where
  replicas := d.replicas
  strategy := d.strategy
  minReadySeconds := d.minReadySeconds
  revisionHistoryLimit := d.revisionHistoryLimit
  progressDeadlineSeconds := d.progressDeadlineSeconds
  serviceName := d.serviceName
  podManagementPolicy := d.podManagementPolicy
  schedule := d.schedule
  suspend := d.suspend
  concurrencyPolicy := d.concurrencyPolicy
  successfulJobsHistoryLimit := d.successfulJobsHistoryLimit
  failedJobsHistoryLimit := d.failedJobsHistoryLimit
  completions := d.completions
  parallelism := d.parallelism
  backoffLimit := d.backoffLimit
  activeDeadlineSeconds := d.activeDeadlineSeconds
  ttlSecondsAfterFinished := d.ttlSecondsAfterFinished

/-- A text that is given and not empty, or else another one. -/
def textOr (default : String) : Option String → String
  | some s => if s = "" then default else s
  | none => default

/-- The strategy that a deployment keeps: without limits if its pods are recreated. -/
def keptStrategy (s : Strategy) : Strategy :=
  match s.type with
  | .recreate => { s with rollingUpdate := none }
  | .rollingUpdate => s

/-- The strategy that a rollout keeps: a rolling update with the limits, if there is one. -/
def keptLimits (s : Strategy) : Strategy where
  type := .rollingUpdate
  rollingUpdate :=
    match s.rollingUpdate with
    | some ⟨none, none⟩ => none
    | limits => limits

/-- The settings that the manifest of a kind keeps. All others are lost. -/
def kept (d : Descriptor) : Kind → Descriptor
  | .deployment =>
    { replicas := some (d.replicas.getD 1)
      strategy := d.strategy.map keptStrategy
      minReadySeconds := d.minReadySeconds
      revisionHistoryLimit := d.revisionHistoryLimit
      progressDeadlineSeconds := d.progressDeadlineSeconds }
  | .statefulSet =>
    { replicas := some (d.replicas.getD 1)
      serviceName := some (textOr (textOr "example" (some d.name)) d.serviceName)
      podManagementPolicy := d.podManagementPolicy }
  | .daemonSet =>
    { minReadySeconds := d.minReadySeconds
      revisionHistoryLimit := d.revisionHistoryLimit }
  | .job =>
    { completions := d.completions
      parallelism := d.parallelism
      backoffLimit := d.backoffLimit
      activeDeadlineSeconds := d.activeDeadlineSeconds
      ttlSecondsAfterFinished := d.ttlSecondsAfterFinished }
  | .cronJob =>
    { completions := d.completions
      parallelism := d.parallelism
      backoffLimit := d.backoffLimit
      activeDeadlineSeconds := d.activeDeadlineSeconds
      ttlSecondsAfterFinished := d.ttlSecondsAfterFinished
      schedule := some (textOr "0 0 * * *" d.schedule)
      suspend := d.suspend
      concurrencyPolicy := d.concurrencyPolicy
      successfulJobsHistoryLimit := d.successfulJobsHistoryLimit
      failedJobsHistoryLimit := d.failedJobsHistoryLimit }
  | .rollout =>
    { replicas := some (d.replicas.getD 1)
      strategy := d.strategy.map keptLimits }

/-! ## Reading back -/

/-- Whether a descriptor is what is read of another one's manifest of a kind, and of the text of
that manifest if the text writes it. -/
def ReadsBack (k : Kind) (d n : Descriptor) : Prop :=
  Manifest.ofYaml (d.manifest k) = .ok ⟨some k, n⟩ ∧
    (Yaml.ofText? (d.render k) = some (d.manifest k) →
      Manifest.ofText (d.render k) = .ok ⟨some k, n⟩)

/-- Every manifest reads back as the normal form of its descriptor. -/
theorem readsBack_normal (k : Kind) (d : Descriptor) : ReadsBack k d (d.normal k) :=
  ⟨ofYaml_manifest k d, ofText_render⟩

/-- A manifest reads back as nothing but the normal form of its descriptor. -/
theorem eq_normal_of_readsBack {k : Kind} {d n : Descriptor} (h : ReadsBack k d n) :
    n = d.normal k := by
  have same : Manifest.mk (some k) n = ⟨some k, d.normal k⟩ :=
    Except.ok.inj (h.1.symm.trans (ofYaml_manifest k d))
  exact congrArg Manifest.descriptor same

/-! ## The content -/

/-- The content as it comes back, which is the same for all kinds. -/
def normalContent (d : Descriptor) : Descriptor := (({} : Descriptor).normalMetadata d).normalPod d

theorem content_normal (k : Kind) (d : Descriptor) : (d.normal k).content = d.normalContent := by
  cases k <;> rfl

/-- A normal form has the metadata of its descriptor. -/
theorem metadata_of_normal (k : Kind) (d : Descriptor) : (d.normal k).metadata = d.metadata :=
  metadata_normal (normalMetadata_normal k d)

/-- A normal form has the pod specification of its descriptor, but for what is not named. -/
theorem podSpec_of_normal (k : Kind) (d : Descriptor) (policy : Option String) :
    (d.normal k).podSpec policy = d.named.podSpec policy := by
  rw [← normalPod_normal, podSpec_normalPod]

/-- The content that comes back is the content that comes back once more: what is read depends on
the metadata and the pod specification only, and they are written as before. -/
theorem normalContent_normal (k : Kind) (d : Descriptor) :
    (d.normal k).normalContent = d.normalContent := by
  have metadata : ({} : Descriptor).normalMetadata (d.normal k) =
      ({} : Descriptor).normalMetadata d := by
    rw [← withMetadata_metadata, metadata_of_normal, withMetadata_metadata]
  have pod (base : Descriptor) : base.normalPod (d.normal k) = base.normalPod d := by
    rw [← withPodSpec_podSpec base _ none, podSpec_of_normal, withPodSpec_podSpec]
    simp [normalPod, named, Function.comp_def]
  rw [normalContent, metadata, pod, normalContent]

/-- The content does not depend on the kind that a descriptor was written for. -/
theorem content_eq_of_readsBack {k₁ k₂ : Kind} {d n₁ n₂ : Descriptor} (h₁ : ReadsBack k₁ d n₁)
    (h₂ : ReadsBack k₂ d n₂) : n₁.content = n₂.content := by
  rw [eq_normal_of_readsBack h₁, eq_normal_of_readsBack h₂, content_normal, content_normal]

/-- A step of changing the kind: a descriptor is written for some kind and read back. -/
def Switches (d n : Descriptor) : Prop := ∃ k, ReadsBack k d n

/-- What was read back keeps its content when its kind is changed. -/
theorem content_of_switches {k : Kind} {d n m : Descriptor} (read : ReadsBack k d n)
    (run : Relation.ReflTransGen Switches n m) :
    m.content = n.content := by
  obtain rfl := eq_normal_of_readsBack read
  -- the invariant of the run: content and normal content are those of the start
  suffices m.content = d.normalContent ∧ m.normalContent = d.normalContent by
    rw [this.1, content_normal]
  induction run with
  | refl => exact ⟨content_normal k d, normalContent_normal k d⟩
  | tail _ step ih =>
    obtain ⟨j, step⟩ := step
    obtain rfl := eq_normal_of_readsBack step
    exact ⟨(content_normal j _).trans ih.2, (normalContent_normal j _).trans ih.2⟩

/-- Pod specifications with different restart policies are the same without them. -/
theorem podSpec_without_restartPolicy (d : Descriptor) (p q : Option String) :
    (d.podSpec p).without "restartPolicy" = (d.podSpec q).without "restartPolicy" := by
  exact without_object_eq "restartPolicy" [_, _, _, _, _, _, _, _, _, _] _ _ _

/-- The manifests of two kinds have the same metadata, and the same pod specification where each
has it, but for the restart policy. They are read back with the same content, which no further
change of the kind changes. -/
theorem kinds_agree (d : Descriptor) (k₁ k₂ : Kind) :
    (∃ metadata, (d.manifest k₁).get? "metadata" = some metadata ∧
      (d.manifest k₂).get? "metadata" = some metadata) ∧
    (∃ pod₁ pod₂, (d.manifest k₁).at? k₁.podSpecPath = some pod₁ ∧
      (d.manifest k₂).at? k₂.podSpecPath = some pod₂ ∧
      pod₁.without "restartPolicy" = pod₂.without "restartPolicy") ∧
    ∃ n₁ n₂, ReadsBack k₁ d n₁ ∧ ReadsBack k₂ d n₂ ∧ n₁.content = n₂.content ∧
      (∃ n, ReadsBack k₂ n₁ n) ∧
      ∀ n, Relation.ReflTransGen Switches n₁ n → n.content = n₁.content := by
  refine ⟨⟨d.metadata, metadata_manifest k₁ d, metadata_manifest k₂ d⟩,
    ⟨_, _, podSpec_manifest k₁ d, podSpec_manifest k₂ d, podSpec_without_restartPolicy d _ _⟩,
    d.normal k₁, d.normal k₂, readsBack_normal k₁ d, readsBack_normal k₂ d, ?_, ?_, ?_⟩
  · exact content_eq_of_readsBack (readsBack_normal k₁ d) (readsBack_normal k₂ d)
  · exact ⟨_, readsBack_normal k₂ _⟩
  · exact fun n run => content_of_switches (readsBack_normal k₁ d) run

/-! ## The settings -/

theorem textOr_eq (default : String) (o : Option String) :
    textOr default o = (o.bind filled).getD default := by
  cases o with
  | none => rfl
  | some s => by_cases h : s = "" <;> simp [textOr, filled, h]

theorem keptStrategy_eq (s : Strategy) : keptStrategy s = s.normal := by
  obtain ⟨_ | _, _⟩ := s <;> rfl

theorem keptLimits_eq (s : Strategy) : keptLimits s = s.canary := by
  obtain ⟨_, _ | ⟨_ | _, _ | _⟩⟩ := s <;> rfl

/-- The settings of the normal form for a kind are those that the kind keeps. -/
theorem settings_normal (k : Kind) (d : Descriptor) : (d.normal k).settings = d.kept k := by
  have service : (d.serviceName.bind filled).getD d.resolvedName =
      textOr (textOr "example" (some d.name)) d.serviceName := by
    rw [textOr_eq, textOr_eq]
    rfl
  have schedule : (d.schedule.bind filled).getD defaultSchedule =
      textOr "0 0 * * *" d.schedule := (textOr_eq _ _).symm
  cases k with
  | deployment => simp [normal, settings, kept, normalPod, normalMetadata, replicaCount,
      ← funext keptStrategy_eq]
  | statefulSet => simp [normal, settings, kept, normalPod, normalMetadata, replicaCount, service]
  | daemonSet => rfl
  | job => rfl
  | cronJob => simp [normal, settings, kept, normalPod, normalMetadata, normalJob, schedule]
  | rollout => simp [normal, settings, kept, normalPod, normalMetadata, replicaCount,
      ← funext keptLimits_eq]

/-- What is read back for a kind has the settings that the kind keeps, and no others. -/
theorem settings_of_readsBack {k : Kind} {d n : Descriptor} (h : ReadsBack k d n) :
    n.settings = d.kept k := by
  rw [eq_normal_of_readsBack h, settings_normal]

/-- Every manifest is read back, with the settings that its kind keeps and no others. -/
theorem settings_survive (k : Kind) (d : Descriptor) :
    ∃ n, ReadsBack k d n ∧ n.settings = d.kept k :=
  ⟨d.normal k, readsBack_normal k d, settings_of_readsBack (readsBack_normal k d)⟩

end Descriptor

end WorkloadForms
