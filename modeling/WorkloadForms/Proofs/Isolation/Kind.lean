import WorkloadForms.Proofs.Isolation.Descriptor
import WorkloadForms.Proofs.Stability

/-!
# What reading takes from the kind

The kind that a manifest names has a bearing on two things. The specifications of pod and job of a
cron job lie deeper than those of all other kinds, and the strategy of a rollout has a form of its
own. `Manifest.ofYaml_kind_only` says what follows for two manifests that differ in nothing but the
entry of the kind.
-/

namespace WorkloadForms

open Form Yaml

namespace Descriptor

/-! ## Settings beside pods and jobs -/

/-- The settings of the metadata and of the specification of the workload, but for the strategy: a
descriptor with these settings and nothing else. -/
def outer (d : Descriptor) : Descriptor where
  name := d.name
  namespaceName := d.namespaceName
  description := d.description
  labels := d.labels
  annotations := d.annotations
  replicas := d.replicas
  minReadySeconds := d.minReadySeconds
  revisionHistoryLimit := d.revisionHistoryLimit
  progressDeadlineSeconds := d.progressDeadlineSeconds
  serviceName := d.serviceName
  podManagementPolicy := d.podManagementPolicy
  schedule := d.schedule
  suspend := d.suspend
  concurrencyPolicy := d.concurrencyPolicy
  successfulJobsHistoryLimit := d.successfulJobsHistoryLimit
  failedJobsHistoryLimit := d.failedJobsHistoryLimit

/-- Two descriptors have the same settings but for the strategy. -/
def AgreeButStrategy (d e : Descriptor) : Prop :=
  { d with strategy := none } = { e with strategy := none }

/-- How the readings `d` and `e` of two manifests compare that differ only in their kinds.

The kinds matter to pods and jobs only where one is a cron job and the other is not, and to the
strategy only where one is a rollout and the other is not. They do not matter to anything else. -/
structure ReadAlike (kind other : Option Kind) (d e : Descriptor) : Prop where
  settings : (kind = some .cronJob ↔ other = some .cronJob) → d.AgreeButStrategy e
  outer : d.outer = e.outer
  strategy : (kind = some .rollout ↔ other = some .rollout) → d.strategy = e.strategy

/-! ## Places of pods and jobs -/

/-- The job specification of a cron job lies in the template of its jobs, and that of every other
kind is the specification of the workload. -/
theorem jobPath_eq_ite (kind : Option Kind) :
    jobPath kind = if kind = some .cronJob then ["spec", "jobTemplate", "spec"] else ["spec"] := by
  rcases kind with _ | kind
  · rfl
  · cases kind <;> rfl

theorem jobPath_congr {kind other : Option Kind}
    (same : kind = some .cronJob ↔ other = some .cronJob) : jobPath kind = jobPath other := by
  simp only [jobPath_eq_ite, same]

theorem podPath_congr {kind other : Option Kind}
    (same : kind = some .cronJob ↔ other = some .cronJob) : podPath kind = podPath other := by
  rw [podPath_eq, podPath_eq, jobPath_congr same]

/-! ## Reading -/

section

variable {a b : Yaml} (agree : Yaml.AgreeBut "kind" a b)

include agree

/-- Manifests that differ only in their kinds have the same mappings at all other keys. -/
theorem under_eq_of_agreeBut_kind {key : String} (ne : key ≠ "kind" := by decide) :
    a.under key = b.under key := by
  rw [under, agree key ne, under]

theorem reach_podPath_eq (kind : Option Kind) :
    a.reach (podPath kind) = b.reach (podPath kind) := by
  obtain ⟨rest, path⟩ := exists_jobPath kind
  rw [podPath_eq, path, List.cons_append, reach_cons, reach_cons, under_eq_of_agreeBut_kind agree]

theorem reach_jobPath_eq (kind : Option Kind) :
    a.reach (jobPath kind) = b.reach (jobPath kind) := by
  obtain ⟨rest, path⟩ := exists_jobPath kind
  rw [path, reach_cons, reach_cons, under_eq_of_agreeBut_kind agree]

/-- Manifests that differ only in their kinds are read as the same, each as one of its kind. -/
theorem readAlike_ofManifest (kind other : Option Kind) :
    ReadAlike kind other (ofManifest kind a) (ofManifest other b) := by
  have metadata : a.under "metadata" = b.under "metadata" := under_eq_of_agreeBut_kind agree
  have spec : a.under "spec" = b.under "spec" := under_eq_of_agreeBut_kind agree
  refine ⟨fun same => ?settings, ?outer, fun same => ?strategy⟩
  case settings =>
    have pod : a.reach (podPath kind) = b.reach (podPath other) := by
      rw [reach_podPath_eq agree, podPath_congr same]
    have job : a.reach (jobPath kind) = b.reach (jobPath other) := by
      rw [reach_jobPath_eq agree, jobPath_congr same]
    simp only [under, reach] at metadata spec pod job
    simp only [AgreeButStrategy, ofManifest, metadata, spec, pod, job]
    rfl
  case outer =>
    simp only [under] at metadata spec
    simp only [Descriptor.outer, ofManifest, withJobSpec, withPodSpec, withSpec, metadata, spec]
  case strategy =>
    simp only [under] at spec
    simp only [ofManifest, withJobSpec, withPodSpec, withSpec, spec, same]

end

end Descriptor

namespace Manifest

/-- Two mappings that differ only in the entry of the kind, whatever that is in each of them, are
both read, and their kinds matter to nothing but the strategy, where one is a rollout, and to pods
and jobs, where one is a cron job. -/
theorem ofYaml_kind_only {es fs : List (Yaml × Yaml)}
    (agree : Yaml.AgreeBut "kind" (.map es) (.map fs)) :
    ∃ m n, ofYaml (.map es) = .ok m ∧ ofYaml (.map fs) = .ok n ∧
      Descriptor.ReadAlike m.kind n.kind m.descriptor n.descriptor :=
  ⟨_, _, rfl, rfl, Descriptor.readAlike_ofManifest agree _ _⟩

/-- The limits of a rolling update are no strategy of a rollout. With the kind misspelt they are
read as those of a deployment, and nothing else is read in another way. -/
theorem ofYaml_kind_only_misspelt :
    let workload (kind : String) : List (Yaml × Yaml) :=
      [(.text "kind", .text kind),
       (.text "spec", .dict [("replicas", .int 3), ("strategy", .dict
         [("rollingUpdate", .dict [("maxSurge", .int 1)])])])]
    ∃ m n, ofYaml (.map (workload "Rollout")) = .ok m ∧ ofYaml (.map (workload "Rolout")) = .ok n ∧
      m.kind = some .rollout ∧ n.kind = none ∧ m.descriptor.strategy = none ∧
      n.descriptor.strategy = some ⟨.rollingUpdate, some ⟨none, some (.number 1)⟩⟩ ∧
      m.descriptor.AgreeButStrategy n.descriptor := by
  intro workload
  have agree : Yaml.AgreeBut "kind" (.map (workload "Rollout")) (.map (workload "Rolout")) :=
    agreeBut_map [] [(.text "spec", _)] (x := [(_, _)]) (y := [(_, _)]) (by simp) (by simp)
  obtain ⟨m, n, left, right, alike⟩ := ofYaml_kind_only agree
  obtain rfl := eq_ofRoot_of_ofYaml left
  obtain rfl := eq_ofRoot_of_ofYaml right
  have rollout : (ofRoot (.map (workload "Rollout"))).kind = some .rollout := by decide +kernel
  have unknown : (ofRoot (.map (workload "Rolout"))).kind = none := by decide +kernel
  refine ⟨_, _, left, right, rollout, unknown, by decide +kernel, by decide +kernel, ?_⟩
  exact alike.settings (by simp [rollout, unknown])

end Manifest

end WorkloadForms
