import Mathlib.Data.List.Forall2
import WorkloadForms.Proofs.Normal.Descriptor

/-!
# The shape of a manifest

What a manifest of a kind looks like, whatever it was written for: `Descriptor.HasShape`. It names
its kind, carries the same labels in up to three places, and has a pod specification with one entry
for each container, and a job specification, where the kind says that they lie.
`Descriptor.hasShape_manifest` says that every manifest has this shape.
-/

namespace WorkloadForms

open Form Yaml

/-- What is written for a container: an entry with a name and an image, those of the container where
it has them. -/
structure Form.Container.IsWrittenAs (c : Container) (y : Yaml) : Prop where
  written : y = c.toYaml
  named : ∃ name, name ≠ "" ∧ (c.name ≠ "" → name = c.name) ∧ y.get? "name" = some (.text name)
  imaged : ∃ image,
    image ≠ "" ∧ (c.image ≠ "" → image = c.image) ∧ y.get? "image" = some (.text image)

/-- A text in place of an empty one is not empty, and is the text itself where that is not. -/
theorem filled_getD_spec {s default : String} (h : default ≠ "") :
    (filled s).getD default ≠ "" ∧ (s ≠ "" → (filled s).getD default = s) := by
  refine ⟨(filled_eq_some_iff.1 (filled_getD h)).1, fun present => ?_⟩
  rw [filled_eq_some_iff.2 ⟨present, rfl⟩, Option.getD_some]

/-- Every container is written with a name and an image. -/
theorem Form.Container.isWrittenAs_toYaml (c : Container) : c.IsWrittenAs c.toYaml where
  written := rfl
  named := by
    obtain ⟨filled, same⟩ := filled_getD_spec (s := c.name) defaultName_ne_empty
    exact ⟨_, filled, same, by simp [toYaml]⟩
  imaged := by
    obtain ⟨filled, same⟩ := filled_getD_spec (s := c.image) defaultImage_ne_empty
    exact ⟨_, filled, same, by simp [toYaml]⟩

namespace Descriptor

/-- The labels of a manifest of a kind: there is one, none has an empty key or value, and they
stand in the metadata, at the template of the pods and, unless the kind is a batch kind, in the
selector. -/
structure CarriesLabels (k : Kind) (labels : Dictionary) (y : Yaml) : Prop where
  present : labels.isEmpty = false
  filled : ∀ e ∈ labels.entries, e.1 ≠ "" ∧ e.2 ≠ ""
  metadata : y.at? ["metadata", "labels"] = some (.ofDictionary labels)
  template : y.at? (k.podSpecPath.dropLast ++ ["metadata", "labels"]) = some (.ofDictionary labels)
  selector : k.isBatch = false →
    y.at? ["spec", "selector", "matchLabels"] = some (.ofDictionary labels)
  unselected : k.isBatch = true → y.at? ["spec", "selector"] = none

/-- The settings of jobs of a descriptor in a job specification. -/
structure CarriesJob (d : Descriptor) (job : Yaml) : Prop where
  completions : job.get? "completions" = d.completions.map .ofInt32
  parallelism : job.get? "parallelism" = d.parallelism.map .ofInt32
  backoffLimit : job.get? "backoffLimit" = d.backoffLimit.map .ofInt32
  activeDeadlineSeconds :
    job.get? "activeDeadlineSeconds" = d.activeDeadlineSeconds.map .ofInt64
  ttlSecondsAfterFinished :
    job.get? "ttlSecondsAfterFinished" = d.ttlSecondsAfterFinished.map .ofInt32

/-- A pod specification with an entry for every container, in order, whose pods are never restarted
if the kind is a batch kind. -/
structure CarriesPod (k : Kind) (d : Descriptor) (pod : Yaml) : Prop where
  containers : ∃ items, pod.get? "containers" = some (.seq items) ∧
    List.Forall₂ Container.IsWrittenAs d.containers items
  restartPolicy :
    pod.get? "restartPolicy" = if k.isBatch then some (.text "Never") else none

/-- The shape of a manifest of a kind that was written for a descriptor. -/
structure HasShape (k : Kind) (d : Descriptor) (y : Yaml) : Prop where
  apiVersion : y.get? "apiVersion" = some (.text k.apiVersion)
  kind : y.get? "kind" = some (.text k.name)
  labels : ∃ labels, CarriesLabels k labels y
  pod : ∃ pod, y.at? k.podSpecPath = some pod ∧ d.CarriesPod k pod
  job : ∀ path, k.jobSpecPath? = some path → ∃ job, y.at? path = some job ∧ d.CarriesJob job
  replicas : (y.at? ["spec", "replicas"]).isSome = k.hasReplicas

variable (k : Kind) (d : Descriptor)

/-- The labels of a manifest are the label map of the descriptor wherever they stand. -/
theorem carriesLabels_manifest : CarriesLabels k d.labelMap (d.manifest k) where
  present := d.isEmpty_labelMap
  filled _ := counts_of_mem_labelMap
  metadata := by simp [at?, metadata_manifest, metadata]
  template := by
    cases k <;>
      simp [Kind.podSpecPath, at?, spec_manifest, spec, jobSpec, podTemplate, dict_eq_object]
  selector batch := by
    cases k <;>
      simp_all [Kind.isBatch, at?, spec_manifest, spec, Descriptor.selector, dict_eq_object]
  unselected batch := by
    cases k <;> simp_all [Kind.isBatch, at?, spec_manifest, spec, jobSpec]

/-- The containers of a pod specification are written one by one. -/
theorem carriesPod_podSpec : d.CarriesPod k (d.podSpec (policyOf k)) where
  containers := by
    refine ⟨d.containers.map Container.toYaml, by simp [podSpec], ?_⟩
    rw [List.forall₂_map_right_iff, List.forall₂_same]
    exact fun c _ => c.isWrittenAs_toYaml
  restartPolicy := by cases k <;> simp [podSpec, policyOf, Kind.isBatch, neverRestart]

/-- The job specification holds the settings of jobs. -/
theorem carriesJob_jobSpec : d.CarriesJob d.jobSpec where
  completions := by simp [jobSpec]
  parallelism := by simp [jobSpec]
  backoffLimit := by simp [jobSpec]
  activeDeadlineSeconds := by simp [jobSpec]
  ttlSecondsAfterFinished := by simp [jobSpec]

/-- Every manifest has the shape of its kind. -/
theorem hasShape_manifest : HasShape k d (d.manifest k) where
  apiVersion := by simp [manifest, dict_eq_object]
  kind := by simp [manifest, dict_eq_object]
  labels := ⟨d.labelMap, carriesLabels_manifest k d⟩
  pod := ⟨d.podSpec (policyOf k), podSpec_manifest k d, carriesPod_podSpec k d⟩
  job path defined := by
    have batch : k.isBatch = true ∧ jobPath (some k) = path := by
      cases k <;> simp_all [Kind.jobSpecPath?, Kind.isBatch, jobPath]
    obtain ⟨batch, rfl⟩ := batch
    refine ⟨d.jobSpec, ?_, carriesJob_jobSpec d⟩
    rw [jobSpec_manifest, batch, if_pos rfl]
  replicas := by
    cases k <;> simp [at?, spec_manifest, spec, jobSpec, Kind.hasReplicas]

end Descriptor

end WorkloadForms
