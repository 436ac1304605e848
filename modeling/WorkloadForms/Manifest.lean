import WorkloadForms.Manifest.Metadata
import WorkloadForms.Manifest.Pod
import WorkloadForms.Yaml.Printer
import WorkloadForms.Yaml.Reading

/-!
# Manifests

`Descriptor.manifest` is the manifest of a kind for a descriptor, as a YAML value: metadata, and a
specification around a pod template, with the settings that the kind has. `Descriptor.ofManifest`
reads a descriptor back from the value of a manifest, whatever stands in it; a manifest of an
unknown kind is read like one of a kind without a job.

`Descriptor.render` and `Manifest.ofText` are the same on texts.
-/

namespace WorkloadForms

open Form

/-! ## Writing -/

/-- What is written for how far a rolling update goes at once. -/
def Form.RollingUpdate.toYaml (maxSurge maxUnavailable : Option IntOrText) : Yaml :=
  .object
    [("maxSurge", maxSurge.map Yaml.ofIntOrText),
     ("maxUnavailable", maxUnavailable.map Yaml.ofIntOrText)]

/-- What is written for the strategy of a deployment. -/
def Form.Strategy.toYaml (s : Strategy) : Yaml :=
  .object
    [("rollingUpdate",
       if s.type = .rollingUpdate then
         s.rollingUpdate.map fun r => RollingUpdate.toYaml r.maxSurge r.maxUnavailable
       else none),
     ("type", some (Yaml.ofWord s.type))]

/-- What is written for the strategy of a rollout: the limits, whatever the type. -/
def Form.Strategy.toCanaryYaml (s : Strategy) : Yaml :=
  let r := s.rollingUpdate.getD {}
  .dict [("canary", .object
    [("maxUnavailable", r.maxUnavailable.map Yaml.ofIntOrText),
     ("maxSurge", r.maxSurge.map Yaml.ofIntOrText)])]

namespace Descriptor

/-- The schedule of a cron job that has none. -/
def defaultSchedule : String := "0 0 * * *"

/-- The number of replicas in the manifest. -/
def replicaCount (d : Descriptor) : Int32 := d.replicas.getD 1

/-- The conditions on the labels of the pods of the workload. -/
def selector (d : Descriptor) : Yaml := .dict [("matchLabels", Yaml.ofDictionary d.labelMap)]

/-- The template of the pods of the workload. -/
def podTemplate (d : Descriptor) (restartPolicy : Option String) : Yaml :=
  .dict
    [("metadata", .dict [("labels", Yaml.ofDictionary d.labelMap)]),
     ("spec", d.podSpec restartPolicy)]

/-- The specification of a job. -/
def jobSpec (d : Descriptor) : Yaml :=
  .object
    [("activeDeadlineSeconds", d.activeDeadlineSeconds.map Yaml.ofInt64),
     ("backoffLimit", d.backoffLimit.map Yaml.ofInt32),
     ("completions", d.completions.map Yaml.ofInt32),
     ("parallelism", d.parallelism.map Yaml.ofInt32),
     ("template", some (d.podTemplate (some neverRestart))),
     ("ttlSecondsAfterFinished", d.ttlSecondsAfterFinished.map Yaml.ofInt32)]

/-- The specification of a workload of a kind. -/
def spec (d : Descriptor) : Kind → Yaml
  | .deployment => .object
    [("minReadySeconds", d.minReadySeconds.map Yaml.ofInt32),
     ("progressDeadlineSeconds", d.progressDeadlineSeconds.map Yaml.ofInt32),
     ("replicas", some (Yaml.ofInt32 d.replicaCount)),
     ("revisionHistoryLimit", d.revisionHistoryLimit.map Yaml.ofInt32),
     ("selector", some d.selector),
     ("strategy", d.strategy.map Strategy.toYaml),
     ("template", some (d.podTemplate none))]
  | .statefulSet => .object
    [("podManagementPolicy", d.podManagementPolicy.map Yaml.ofWord),
     ("replicas", some (Yaml.ofInt32 d.replicaCount)),
     ("selector", some d.selector),
     ("serviceName", some (.text ((d.serviceName.bind filled).getD d.resolvedName))),
     ("template", some (d.podTemplate none))]
  | .daemonSet => .object
    [("minReadySeconds", d.minReadySeconds.map Yaml.ofInt32),
     ("revisionHistoryLimit", d.revisionHistoryLimit.map Yaml.ofInt32),
     ("selector", some d.selector),
     ("template", some (d.podTemplate none))]
  | .job => d.jobSpec
  | .cronJob => .object
    [("concurrencyPolicy", d.concurrencyPolicy.map Yaml.ofWord),
     ("failedJobsHistoryLimit", d.failedJobsHistoryLimit.map Yaml.ofInt32),
     ("jobTemplate", some (.dict [("spec", d.jobSpec)])),
     ("schedule", some (.text ((d.schedule.bind filled).getD defaultSchedule))),
     ("successfulJobsHistoryLimit", d.successfulJobsHistoryLimit.map Yaml.ofInt32),
     ("suspend", d.suspend.map .flag)]
  | .rollout => .object
    [("replicas", some (Yaml.ofInt32 d.replicaCount)),
     ("selector", some d.selector),
     ("template", some (d.podTemplate none)),
     ("strategy", d.strategy.map Strategy.toCanaryYaml)]

/-- The manifest of a kind. -/
def manifest (kind : Kind) (d : Descriptor) : Yaml :=
  .dict
    [("apiVersion", .text kind.apiVersion), ("kind", .text kind.name), ("metadata", d.metadata),
     ("spec", d.spec kind)]

/-- The text of the manifest of a kind. -/
def render (kind : Kind) (d : Descriptor) : String := (d.manifest kind).write

end Descriptor

/-! ## Reading -/

/-- The number or text under a key. -/
def Yaml.intOrTextAt? (y : Yaml) (key : String) : Option IntOrText :=
  (Schema.intOrText.at? y key).bind Yaml.intOrText?

/-- The strategy of a deployment. -/
def Form.Strategy.of? (spec : Yaml) : Option Strategy :=
  (Schema.strategy.at? spec "strategy").map fun s =>
    { type := (s.fieldWord? "type").getD .rollingUpdate
      rollingUpdate := (s.field? "rollingUpdate").map fun r =>
        { maxUnavailable := (r.field? "maxUnavailable").bind Yaml.intOrText?
          maxSurge := (r.field? "maxSurge").bind Yaml.intOrText? } }

/-- The strategy of a rollout: its limits as those of a rolling update, if it has any. -/
def Form.Strategy.ofCanary? (spec : Yaml) : Option Strategy := do
  let canary ← (← spec.get? "strategy").get? "canary"
  if canary.isMap then
    let limits : RollingUpdate :=
      { maxUnavailable := canary.intOrTextAt? "maxUnavailable"
        maxSurge := canary.intOrTextAt? "maxSurge" }
    return {
      type := .rollingUpdate
      rollingUpdate :=
        if limits.maxUnavailable.isSome || limits.maxSurge.isSome then some limits else none }
  else none

namespace Descriptor

/-- The settings of the specification of a manifest, put into a descriptor. -/
def withSpec (d : Descriptor) (kind : Option Kind) (spec : Yaml) : Descriptor :=
  { d with
    replicas := spec.int32At? "replicas"
    strategy := if kind = some .rollout then Strategy.ofCanary? spec else Strategy.of? spec
    minReadySeconds := spec.int32At? "minReadySeconds"
    revisionHistoryLimit := spec.int32At? "revisionHistoryLimit"
    progressDeadlineSeconds := spec.int32At? "progressDeadlineSeconds"
    serviceName := spec.textAt? "serviceName"
    podManagementPolicy := spec.wordAt? "podManagementPolicy"
    schedule := spec.textAt? "schedule"
    suspend := (spec.get? "suspend").bind Yaml.flag?
    concurrencyPolicy := spec.wordAt? "concurrencyPolicy"
    successfulJobsHistoryLimit := spec.int32At? "successfulJobsHistoryLimit"
    failedJobsHistoryLimit := spec.int32At? "failedJobsHistoryLimit" }

/-- The settings of a job specification, put into a descriptor. -/
def withJobSpec (d : Descriptor) (job : Yaml) : Descriptor :=
  { d with
    completions := job.int32At? "completions"
    parallelism := job.int32At? "parallelism"
    backoffLimit := job.int32At? "backoffLimit"
    activeDeadlineSeconds := job.int64At? "activeDeadlineSeconds"
    ttlSecondsAfterFinished := job.int32At? "ttlSecondsAfterFinished" }

/-- The path to the pod specification; that of an unknown kind lies where most kinds have it. -/
def podPath (kind : Option Kind) : List String := (kind.getD .deployment).podSpecPath

/-- The path to the job specification; without one its settings are looked for in the
specification of the manifest. -/
def jobPath (kind : Option Kind) : List String := (kind.bind Kind.jobSpecPath?).getD ["spec"]

/-- The descriptor of a manifest that is read as one of a kind. -/
def ofManifest (kind : Option Kind) (root : Yaml) : Descriptor :=
  ((({} : Descriptor).withMetadata ((root.get? "metadata").getD .null)).withSpec kind
    ((root.get? "spec").getD .null)).withPodSpec ((root.at? (podPath kind)).getD .null)
    |>.withJobSpec ((root.at? (jobPath kind)).getD .null)

end Descriptor

/-- The containers of a descriptor are read from the pod specification of a manifest. -/
theorem Form.ContainerRole.containers_ofManifest (role : ContainerRole) (kind : Option Kind)
    (root : Yaml) :
    role.containers (Descriptor.ofManifest kind root) =
      Container.listAt role.nameless ((root.at? (Descriptor.podPath kind)).getD .null)
        role.key := by
  cases role <;> rfl

/-- What a manifest says: its kind if it is one of the known ones, and its descriptor. -/
structure Manifest where
  kind : Option Kind
  descriptor : Descriptor
  deriving DecidableEq, Repr, Inhabited

/-- Why a text is no manifest. -/
inductive ManifestError where
  | invalidYaml
  | empty
  | notAnObject (found : String)
  deriving DecidableEq, Repr

/-- The wording of an error. The place of the fault in a text that is no YAML is left out. -/
def ManifestError.message : ManifestError → String
  | .invalidYaml => "invalid YAML"
  | .empty => "manifest is empty"
  | .notAnObject found => "manifest root must be a mapping, found " ++ found

/-- What is read without an error and has a property is there, with the property. -/
theorem exists_ok_of_any {x : Except ε α} {p : α → Bool} (known : x.toOption.any p = true) :
    ∃ a, x = .ok a ∧ p a = true := by
  cases x with
  | error e => cases known
  | ok a => exact ⟨a, rfl, known⟩

namespace Manifest

/-- The type of a value in words. -/
def typeName : Yaml → String
  | .null => "null"
  | .flag _ => "a boolean"
  | .int _ => "a number"
  | .real _ => "a number"
  | .text _ => "a string"
  | .seq _ => "a sequence"
  | .map _ => "a mapping"
  | .tagged .. => "a tagged value"

/-- The kind that a manifest names. -/
def kindOf? (root : Yaml) : Option Kind := (root.textAt? "kind").bind Kind.ofName?

/-- What the mapping at the root of a manifest says. -/
def ofRoot (root : Yaml) : Manifest :=
  let kind := kindOf? root
  ⟨kind, Descriptor.ofManifest kind root⟩

/-- What the value of a manifest says. Only a mapping without a tag is a manifest. -/
def ofYaml : Yaml → Except ManifestError Manifest
  | .map entries => .ok (ofRoot (.map entries))
  | .null => .error .empty
  | y => .error (.notAnObject (typeName y))

/-- What the text of a manifest says. -/
def ofText (s : String) : Except ManifestError Manifest :=
  if Text.blank s then .error .empty
  else match Yaml.ofText? s with
    | some y => ofYaml y
    | none => .error .invalidYaml

/-- The value of a manifest is the descriptor of its kind. -/
theorem eq_ofRoot_of_ofYaml {y : Yaml} {m : Manifest} (h : ofYaml y = .ok m) : m = ofRoot y := by
  cases y with
  | map es => exact (Except.ok.inj h).symm
  | _ => cases h

/-- A text that is not blank is read like the value that it writes. -/
theorem ofText_eq_ofYaml {s : String} {y : Yaml} (filled : Text.blank s = false)
    (written : Yaml.ofText? s = some y) : ofText s = ofYaml y := by
  rw [ofText, filled, written]
  rfl

/-- A text that is read as a manifest writes a value. -/
theorem exists_of_ofText {s : String} {m : Manifest} (h : ofText s = .ok m) :
    ∃ y, Yaml.ofText? s = some y ∧ ofYaml y = .ok m := by
  rw [ofText] at h
  split at h
  · cases h
  · split at h
    · next y written => exact ⟨y, written, h⟩
    · cases h

/-- A text with a character that is not blank is read as a manifest if its value is. -/
theorem exists_of_any {s : String} {cs : List Char} {p : Yaml → Manifest → Bool}
    (chars : s.toList = cs) (filled : cs.all Text.isBlank = false)
    (known : (Yaml.ofText? s).any (fun y => (ofYaml y).toOption.any (p y)) = true) :
    ∃ y m, Yaml.ofText? s = some y ∧ ofText s = .ok m ∧ p y m = true := by
  obtain ⟨y, written, known⟩ := (Option.any_eq_true _ _).1 known
  obtain ⟨m, read, known⟩ := exists_ok_of_any known
  rw [← chars] at filled
  exact ⟨y, m, written, (ofText_eq_ofYaml filled written).trans read, known⟩

end Manifest

end WorkloadForms
