import WorkloadForms.Manifest
import WorkloadForms.Proofs.Isolation.Container

/-!
# Isolation of faults in a manifest

A descriptor is read from four mappings of a manifest: the metadata, the specification, and the
specifications of pod and job, which lie where the kind says. Every setting is read from one key of
one of them, the description and the annotations from the same one, and five lists are read item by
item. `Manifest.ofYaml_isolates` says that reading a mapping never fails, and what follows for two
manifests of the same kind that differ in one place.
-/

namespace WorkloadForms

open Form Yaml

/-! ## Readings -/

theorem Form.Container.reads_listAt (nameless : String) {key : String} :
    Reads key (listAt nameless · key) :=
  reads_itemsAt.map fun items => (items.filter isMap).map (ofYaml nameless)

theorem Form.Volume.reads_listOf : Reads "volumes" Volume.listOf :=
  (Schema.reads_itemsAt _ _).map (·.map ofObject)

theorem Form.Scheduling.reads_of? : Reads "affinity" Scheduling.of? := by
  intro a b same
  simp only [of?, Schema.reads_at? _ same]

theorem Form.DnsConfig.reads_of? : Reads "dnsConfig" DnsConfig.of? := by
  intro a b same
  simp only [of?, Schema.reads_at? _ same]

theorem Form.Strategy.reads_of? : Reads "strategy" Strategy.of? := by
  intro a b same
  simp only [of?, Schema.reads_at? _ same]

theorem Form.Strategy.reads_ofCanary? : Reads "strategy" Strategy.ofCanary? := by
  intro a b same
  simp only [ofCanary?, same]

namespace Descriptor

/-- The strategy of a kind. -/
theorem reads_strategy (kind : Option Kind) :
    Reads "strategy" fun spec =>
      if kind = some .rollout then Strategy.ofCanary? spec else Strategy.of? spec := by
  intro a b same
  simp only [Strategy.reads_ofCanary? same, Strategy.reads_of? same]

/-- The name of a secret, unless it is empty. -/
def secretName? (secret : Yaml) : Option String := filled (secret.fieldText "name")

variable (kind : Option Kind)

/-! ## Places of settings -/

/-- The paths to the mappings that settings are read from. -/
def parts : List (List String) := [["metadata"], ["spec"], podPath kind, jobPath kind]

/-- A place is a key of one of these mappings and does not lie on the path to the pod specification,
of which the path to the job specification is a part. -/
structure IsSetting (place : List String) : Prop where
  key : ∃ part ∈ parts kind, ∃ key, place = part ++ [key]
  beside : ¬ place <+: podPath kind

theorem podPath_eq : podPath kind = jobPath kind ++ ["template", "spec"] := by
  rcases kind with _ | kind
  · rfl
  · cases kind <;> rfl

theorem exists_jobPath : ∃ rest, jobPath kind = "spec" :: rest := by
  rcases kind with _ | kind
  · exact ⟨_, rfl⟩
  · cases kind <;> exact ⟨_, rfl⟩

theorem isSetting_metadata (key : String) : IsSetting kind ["metadata", key] where
  key := ⟨["metadata"], by simp [parts], key, rfl⟩
  beside := by
    obtain ⟨rest, path⟩ := exists_jobPath kind
    simp [podPath_eq, path, List.cons_prefix_cons]

theorem isSetting_spec {key : String} (h : key ≠ "template") (h' : key ≠ "jobTemplate") :
    IsSetting kind ["spec", key] where
  key := ⟨["spec"], by simp [parts], key, rfl⟩
  beside := by
    rcases kind with _ | kind
    · simp [podPath, Kind.podSpecPath, List.cons_prefix_cons, h]
    · cases kind <;> simp [podPath, Kind.podSpecPath, List.cons_prefix_cons, h, h']

theorem isSetting_pod (key : String) : IsSetting kind (podPath kind ++ [key]) where
  key := ⟨podPath kind, by simp [parts], key, rfl⟩
  beside on := absurd on.length_le (by simp)

theorem isSetting_job {key : String} (h : key ≠ "template") :
    IsSetting kind (jobPath kind ++ [key]) where
  key := ⟨jobPath kind, by simp [parts], key, rfl⟩
  beside := by simpa [podPath_eq, List.prefix_append_right_inj, List.cons_prefix_cons] using h

variable {kind} {place p q : List String}

theorem mem_parts {part : List String} :
    part ∈ parts kind ↔
      part = ["metadata"] ∨ part = ["spec"] ∨ part = podPath kind ∨ part = jobPath kind := by
  simp [parts]

/-- The place of a setting is too long to lie on the path to a mapping of one key. -/
theorem IsSetting.one_lt_length (setting : IsSetting kind p) : 1 < p.length := by
  obtain ⟨part, mem, key, rfl⟩ := setting.key
  obtain ⟨rest, path⟩ := exists_jobPath kind
  have filled : 0 < part.length := by
    rcases mem_parts.1 mem with rfl | rfl | rfl | rfl <;> simp [podPath_eq, path]
  simpa using filled

/-- The place of a setting is not on the path to another one. -/
theorem IsSetting.not_prefix (hp : IsSetting kind p) (hq : IsSetting kind q) (ne : p ≠ q) :
    ¬ p <+: q := by
  intro on
  obtain ⟨part, mem, key, rfl⟩ := hq.key
  rcases List.prefix_concat_iff.1 on with same | on
  · exact ne same
  · rcases mem_parts.1 mem with rfl | rfl | rfl | rfl
    · exact absurd on.length_le (by simpa using hp.one_lt_length)
    · exact absurd on.length_le (by simpa using hp.one_lt_length)
    · exact hp.beside on
    · exact hp.beside (on.trans (podPath_eq kind ▸ List.prefix_append _ _))

theorem IsSetting.apart (hp : IsSetting kind p) (hq : IsSetting kind q) (ne : p ≠ q) : Apart p q :=
  ⟨hp.not_prefix hq ne, hq.not_prefix hp ne.symm⟩

/-! ## Settings -/

/-- Two descriptors have the same settings, but for those that are read from a place. -/
structure AgreeBut (kind : Option Kind) (place : List String) (d e : Descriptor) : Prop where
  name : ["metadata", "name"] ≠ place → d.name = e.name
  namespaceName : ["metadata", "namespace"] ≠ place → d.namespaceName = e.namespaceName
  description : ["metadata", "annotations"] ≠ place → d.description = e.description
  labels : ["metadata", "labels"] ≠ place → d.labels = e.labels
  annotations : ["metadata", "annotations"] ≠ place → d.annotations = e.annotations
  replicas : ["spec", "replicas"] ≠ place → d.replicas = e.replicas
  strategy : ["spec", "strategy"] ≠ place → d.strategy = e.strategy
  minReadySeconds : ["spec", "minReadySeconds"] ≠ place → d.minReadySeconds = e.minReadySeconds
  revisionHistoryLimit :
    ["spec", "revisionHistoryLimit"] ≠ place → d.revisionHistoryLimit = e.revisionHistoryLimit
  progressDeadlineSeconds :
    ["spec", "progressDeadlineSeconds"] ≠ place →
      d.progressDeadlineSeconds = e.progressDeadlineSeconds
  serviceName : ["spec", "serviceName"] ≠ place → d.serviceName = e.serviceName
  podManagementPolicy :
    ["spec", "podManagementPolicy"] ≠ place → d.podManagementPolicy = e.podManagementPolicy
  schedule : ["spec", "schedule"] ≠ place → d.schedule = e.schedule
  suspend : ["spec", "suspend"] ≠ place → d.suspend = e.suspend
  concurrencyPolicy :
    ["spec", "concurrencyPolicy"] ≠ place → d.concurrencyPolicy = e.concurrencyPolicy
  successfulJobsHistoryLimit :
    ["spec", "successfulJobsHistoryLimit"] ≠ place →
      d.successfulJobsHistoryLimit = e.successfulJobsHistoryLimit
  failedJobsHistoryLimit :
    ["spec", "failedJobsHistoryLimit"] ≠ place →
      d.failedJobsHistoryLimit = e.failedJobsHistoryLimit
  containers : podPath kind ++ ["containers"] ≠ place → d.containers = e.containers
  initContainers : podPath kind ++ ["initContainers"] ≠ place → d.initContainers = e.initContainers
  volumes : podPath kind ++ ["volumes"] ≠ place → d.volumes = e.volumes
  imagePullSecrets :
    podPath kind ++ ["imagePullSecrets"] ≠ place → d.imagePullSecrets = e.imagePullSecrets
  scheduling : podPath kind ++ ["affinity"] ≠ place → d.scheduling = e.scheduling
  nodeSelector : podPath kind ++ ["nodeSelector"] ≠ place → d.nodeSelector = e.nodeSelector
  tolerations : podPath kind ++ ["tolerations"] ≠ place → d.tolerations = e.tolerations
  terminationGracePeriodSeconds :
    podPath kind ++ ["terminationGracePeriodSeconds"] ≠ place →
      d.terminationGracePeriodSeconds = e.terminationGracePeriodSeconds
  dnsPolicy : podPath kind ++ ["dnsPolicy"] ≠ place → d.dnsPolicy = e.dnsPolicy
  dnsConfig : podPath kind ++ ["dnsConfig"] ≠ place → d.dnsConfig = e.dnsConfig
  hostNetwork : podPath kind ++ ["hostNetwork"] ≠ place → d.hostNetwork = e.hostNetwork
  hostPid : podPath kind ++ ["hostPID"] ≠ place → d.hostPid = e.hostPid
  hostIpc : podPath kind ++ ["hostIPC"] ≠ place → d.hostIpc = e.hostIpc
  completions : jobPath kind ++ ["completions"] ≠ place → d.completions = e.completions
  parallelism : jobPath kind ++ ["parallelism"] ≠ place → d.parallelism = e.parallelism
  backoffLimit : jobPath kind ++ ["backoffLimit"] ≠ place → d.backoffLimit = e.backoffLimit
  activeDeadlineSeconds :
    jobPath kind ++ ["activeDeadlineSeconds"] ≠ place →
      d.activeDeadlineSeconds = e.activeDeadlineSeconds
  ttlSecondsAfterFinished :
    jobPath kind ++ ["ttlSecondsAfterFinished"] ≠ place →
      d.ttlSecondsAfterFinished = e.ttlSecondsAfterFinished

section

variable {r : Yaml → Yaml → Prop} {a b : Yaml} {key : String} (setting : IsSetting kind place)
  (differ : Within r place a b)

include setting differ

/-! Values that differ within the place of a setting have the same at the places of the others. -/

theorem get?_part_eq (part : List String) (other : IsSetting kind (part ++ [key]))
    (ne : part ++ [key] ≠ place) : (a.reach part).get? key = (b.reach part).get? key := by
  rw [get?_reach, get?_reach]
  exact differ.at?_eq (setting.apart other ne.symm)

theorem get?_metadata_eq (ne : ["metadata", key] ≠ place) :
    (a.under "metadata").get? key = (b.under "metadata").get? key := by
  simpa using get?_part_eq setting differ ["metadata"] (isSetting_metadata kind key) ne

theorem get?_spec_eq (ne : ["spec", key] ≠ place) (h : key ≠ "template" := by decide)
    (h' : key ≠ "jobTemplate" := by decide) :
    (a.under "spec").get? key = (b.under "spec").get? key := by
  simpa using get?_part_eq setting differ ["spec"] (isSetting_spec kind h h') ne

theorem get?_pod_eq (ne : podPath kind ++ [key] ≠ place) :
    (a.reach (podPath kind)).get? key = (b.reach (podPath kind)).get? key :=
  get?_part_eq setting differ _ (isSetting_pod kind key) ne

theorem get?_job_eq (ne : jobPath kind ++ [key] ≠ place) (h : key ≠ "template" := by decide) :
    (a.reach (jobPath kind)).get? key = (b.reach (jobPath kind)).get? key :=
  get?_part_eq setting differ _ (isSetting_job kind h) ne

/-- Manifests that differ within the place of a setting are read alike, but for what is read from
this place. -/
theorem agreeBut_ofManifest : AgreeBut kind place (ofManifest kind a) (ofManifest kind b) where
  name ne := reads_textAt?.map (·.getD "") (get?_metadata_eq setting differ ne)
  namespaceName ne :=
    reads_textAt?.map (·.getD defaultNamespace) (get?_metadata_eq setting differ ne)
  description ne :=
    reads_rowsAt.map (·.lookup descriptionKey) (get?_metadata_eq setting differ ne)
  labels ne := reads_rowsAt.map rowsOf (get?_metadata_eq setting differ ne)
  annotations ne :=
    reads_rowsAt.map (fun rows => rowsOf (rows.filter fun e => e.1 != descriptionKey))
      (get?_metadata_eq setting differ ne)
  replicas ne := reads_int32At? (get?_spec_eq setting differ ne)
  strategy ne := reads_strategy kind (get?_spec_eq setting differ ne)
  minReadySeconds ne := reads_int32At? (get?_spec_eq setting differ ne)
  revisionHistoryLimit ne := reads_int32At? (get?_spec_eq setting differ ne)
  progressDeadlineSeconds ne := reads_int32At? (get?_spec_eq setting differ ne)
  serviceName ne := reads_textAt? (get?_spec_eq setting differ ne)
  podManagementPolicy ne := reads_wordAt? (get?_spec_eq setting differ ne)
  schedule ne := reads_textAt? (get?_spec_eq setting differ ne)
  suspend ne := reads_get?.map (·.bind flag?) (get?_spec_eq setting differ ne)
  concurrencyPolicy ne := reads_wordAt? (get?_spec_eq setting differ ne)
  successfulJobsHistoryLimit ne := reads_int32At? (get?_spec_eq setting differ ne)
  failedJobsHistoryLimit ne := reads_int32At? (get?_spec_eq setting differ ne)
  containers ne := Container.reads_listAt _ (get?_pod_eq setting differ ne)
  initContainers ne := Container.reads_listAt _ (get?_pod_eq setting differ ne)
  volumes ne := Volume.reads_listOf (get?_pod_eq setting differ ne)
  imagePullSecrets ne :=
    (Schema.reads_itemsAt _ _).map (·.filterMap secretName?) (get?_pod_eq setting differ ne)
  scheduling ne := Scheduling.reads_of? (get?_pod_eq setting differ ne)
  nodeSelector ne := reads_rowsAt.map Dictionary.ofList (get?_pod_eq setting differ ne)
  tolerations ne :=
    (Schema.reads_itemsAt _ _).map (·.map Toleration.ofObject) (get?_pod_eq setting differ ne)
  terminationGracePeriodSeconds ne := reads_int64At? (get?_pod_eq setting differ ne)
  dnsPolicy ne := reads_wordAt? (get?_pod_eq setting differ ne)
  dnsConfig ne := DnsConfig.reads_of? (get?_pod_eq setting differ ne)
  hostNetwork ne := reads_flagAt (get?_pod_eq setting differ ne)
  hostPid ne := reads_flagAt (get?_pod_eq setting differ ne)
  hostIpc ne := reads_flagAt (get?_pod_eq setting differ ne)
  completions ne := reads_int32At? (get?_job_eq setting differ ne)
  parallelism ne := reads_int32At? (get?_job_eq setting differ ne)
  backoffLimit ne := reads_int32At? (get?_job_eq setting differ ne)
  activeDeadlineSeconds ne := reads_int64At? (get?_job_eq setting differ ne)
  ttlSecondsAfterFinished ne := reads_int32At? (get?_job_eq setting differ ne)

end

/-! ## Items -/

/-- The containers of a manifest. -/
def containerListing (kind : Option Kind) (role : ContainerRole) :
    Listing (ofManifest kind) Container where
  part := podPath kind
  key := role.key
  form? := role.form?
  forms d := role.containers d
  reads y := by
    rw [role.containers_ofManifest, Container.listAt, ← List.filterMap_eq_map,
      List.filterMap_filter]
    rfl

/-- The volumes of a manifest. -/
def volumeListing (kind : Option Kind) : Listing (ofManifest kind) Volume where
  part := podPath kind
  key := "volumes"
  form? := Schema.volume.item? ["name"] (some ∘ Volume.ofObject)
  forms := Descriptor.volumes
  reads y := Schema.map_itemsAt _ _ _ (y.reach (podPath kind)) _

/-- The names of the secrets that images are pulled with. -/
def secretListing (kind : Option Kind) : Listing (ofManifest kind) String where
  part := podPath kind
  key := "imagePullSecrets"
  form? := Schema.localReference.item? [] secretName?
  forms := Descriptor.imagePullSecrets
  reads y := Schema.filterMap_itemsAt _ _ secretName? (y.reach (podPath kind)) _

/-- The tolerations of a manifest. -/
def tolerationListing (kind : Option Kind) : Listing (ofManifest kind) Toleration where
  part := podPath kind
  key := "tolerations"
  form? := Schema.toleration.item? [] (some ∘ Toleration.ofObject)
  forms := Descriptor.tolerations
  reads y := Schema.map_itemsAt _ _ _ (y.reach (podPath kind)) _

/-- How the readings `d` and `e` of two manifests of a kind compare.

What differs within the place of a setting shows in this setting only. Where one item of a list
differs, the forms of the other items are the same, in the same order, and so is all beside the
list; and where this item is a container in both of them, its two forms compare likewise. -/
structure Isolated (kind : Option Kind) (a b : Yaml) (d e : Descriptor) : Prop where
  settings : ∀ place, IsSetting kind place → Within (fun _ _ => True) place a b →
    d.AgreeBut kind place e
  containers : ∀ role : ContainerRole, (containerListing kind role).Isolates
    (AgreeBut kind (podPath kind ++ [role.key])) a b d e
  container : ∀ (role : ContainerRole) (before : List Yaml) (x y : Yaml) (behind : List Yaml),
    Within (DifferInItem before (some x) (some y) behind) (podPath kind ++ [role.key]) a b →
    x.isMap = true → y.isMap = true → ∃ c c',
      role.containers d = before.filterMap role.form? ++ c :: behind.filterMap role.form? ∧
      role.containers e = before.filterMap role.form? ++ c' :: behind.filterMap role.form? ∧
      Container.Isolated role.nameless x y c c'
  volumes : (volumeListing kind).Isolates (AgreeBut kind (podPath kind ++ ["volumes"])) a b d e
  imagePullSecrets :
    (secretListing kind).Isolates (AgreeBut kind (podPath kind ++ ["imagePullSecrets"])) a b d e
  tolerations :
    (tolerationListing kind).Isolates (AgreeBut kind (podPath kind ++ ["tolerations"])) a b d e

/-- The readings of two manifests of a kind compare so. -/
theorem isolated_ofManifest (kind : Option Kind) (a b : Yaml) :
    Isolated kind a b (ofManifest kind a) (ofManifest kind b) where
  settings _ setting differ := agreeBut_ofManifest setting differ
  containers role :=
    (containerListing kind role).isolates (agreeBut_ofManifest (isSetting_pod kind role.key))
  container role before x y behind differ left right := by
    have form? {y : Yaml} (isMap : y.isMap = true) :
        role.form? y = some (Container.ofYaml role.nameless y) := if_pos isMap
    refine ⟨_, _, ?_, ?_, Container.isolated_ofYaml role.nameless x y⟩
    · simpa [containerListing, form? left] using
        (containerListing kind role).forms_of_items? differ.reach.1
    · simpa [containerListing, form? right] using
        (containerListing kind role).forms_of_items? differ.reach.2
  volumes := (volumeListing kind).isolates (agreeBut_ofManifest (isSetting_pod kind _))
  imagePullSecrets := (secretListing kind).isolates (agreeBut_ofManifest (isSetting_pod kind _))
  tolerations := (tolerationListing kind).isolates (agreeBut_ofManifest (isSetting_pod kind _))

end Descriptor

namespace Manifest

/-- Reading a mapping never fails, and the readings of two mappings with the same entry for the kind
isolate what differs in one place. -/
theorem ofYaml_isolates :
    (∀ entries, ∃ m, ofYaml (.map entries) = .ok m) ∧
    ∀ {a b : Yaml} {m n : Manifest}, ofYaml a = .ok m → ofYaml b = .ok n →
      a.get? "kind" = b.get? "kind" →
      m.kind = n.kind ∧ Descriptor.Isolated m.kind a b m.descriptor n.descriptor := by
  refine ⟨fun entries => ⟨_, rfl⟩, fun {a b m n} left right same => ?_⟩
  have reading {y : Yaml} {m : Manifest} (read : ofYaml y = .ok m) : m = ofRoot y := by
    cases y <;> cases read
    rfl
  have kinds : kindOf? a = kindOf? b := reads_textAt?.map (·.bind Kind.ofName?) same
  rw [reading left, reading right, ofRoot, ofRoot, kinds]
  exact ⟨rfl, Descriptor.isolated_ofManifest _ a b⟩

/-- A number of completions that is no number is dropped, and no other setting of the job is. -/
theorem ofYaml_isolates_completions :
    let job (completions : Yaml) : Yaml := .map
      [(.text "kind", .text "Job"), (.text "metadata", .dict [("name", .text "pi")]),
       (.text "spec", .map
         [(.text "parallelism", .int 2), (.text "completions", completions)])]
    ∃ m n, ofYaml (job (.int 3)) = .ok m ∧ ofYaml (job (.text "many")) = .ok n ∧
      m.descriptor.completions = some 3 ∧ n.descriptor.completions = none ∧
      m.descriptor.AgreeBut (some .job) ["spec", "completions"] n.descriptor := by
  intro job
  have kind : (ofRoot (job (.int 3))).kind = some .job := by decide +kernel
  have differ : Within (fun _ _ => True) ["spec", "completions"] (job (.int 3))
      (job (.text "many")) := by
    refine ⟨?_, ?_, trivial⟩
    · exact agreeBut_map [(.text "kind", .text "Job"), (.text "metadata", _)] [] (x := [(_, _)])
        (y := [(_, _)]) (by simp) (by simp)
    · exact agreeBut_map [(.text "parallelism", .int 2)] [] (x := [(_, _)]) (y := [(_, _)])
        (by simp) (by simp)
  have left : ofYaml (job (.int 3)) = .ok (ofRoot (job (.int 3))) := rfl
  have right : ofYaml (job (.text "many")) = .ok (ofRoot (job (.text "many"))) := rfl
  have isolated := (ofYaml_isolates.2 left right rfl).2
  rw [kind] at isolated
  exact ⟨_, _, left, right, by decide +kernel, by decide +kernel, isolated.settings _
    (Descriptor.isSetting_job (some .job) (by decide)) differ⟩

end Manifest

end WorkloadForms
