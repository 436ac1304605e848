import WorkloadForms.Manifest.Pod
import WorkloadForms.Proofs.Normal.Affinity
import WorkloadForms.Proofs.Normal.Container
import WorkloadForms.Proofs.Normal.Volume
import WorkloadForms.Proofs.Text.Dictionary

/-!
# The normal form of a pod specification

What becomes of the settings of pods that are written to a manifest and read back:
`Descriptor.normalPod` puts them into a descriptor. `Descriptor.withPodSpec_podSpec` says that this
is what is read, `Descriptor.podSpec_normalPod` that it is written as the settings without the
variables, mounts and volumes that are not named, and `Descriptor.podSpec_named_iff` that nothing
else is dropped.
-/

namespace WorkloadForms

open Form Yaml

namespace Form

/-! ## Tolerations -/

/-- A toleration as it comes back from a manifest. -/
def Toleration.normal (t : Toleration) : Toleration :=
  { t with key := t.key.bind filled, value := t.value.bind filled, effect := t.effect.bind filled }

theorem Toleration.accepts_toYaml (t : Toleration) : Schema.toleration.accepts t.toYaml = true := by
  simp [Schema.toleration, toYaml]

theorem Toleration.ofObject_toYaml (t : Toleration) : ofObject t.toYaml = t.normal := by
  simp [ofObject, toYaml, normal, fieldWord?, field?_eq]

theorem Toleration.toYaml_normal (t : Toleration) : t.normal.toYaml = t.toYaml := by
  simp [toYaml, normal]

/-- The tolerations of a pod specification where they were written. -/
theorem Toleration.itemsAt_eq {pod : Yaml} {l : List Toleration}
    (written : pod.get? "tolerations" = ofItems (l.map toYaml)) :
    (Schema.toleration.itemsAt [] pod "tolerations").map ofObject = l.map normal := by
  rw [Schema.itemsAt_eq written (fun _ => rfl) accepts_toYaml]
  simp only [List.all_nil, List.filter_eq_self.2 fun _ _ => rfl, List.map_map]
  congr 1
  funext t
  exact t.ofObject_toYaml

/-! ## Settings of the resolver -/

/-- Whether an option of the resolver has a name. -/
def DnsOption.isNamed (o : DnsOption) : Bool := !o.name.isEmpty

/-- What is written for an option of the resolver that has a name. -/
def DnsOption.object (o : DnsOption) : Yaml :=
  .object [("name", some (.text o.name)), ("value", o.value.map .text)]

/-- The options of the resolver that have a name are written. -/
theorem DnsOption.filterMap_toYaml? (os : List DnsOption) :
    os.filterMap toYaml? = (os.filter isNamed).map object := by
  rw [← List.filterMap_eq_map, List.filterMap_filter]
  congr 1
  funext o
  by_cases h : o.name = "" <;> simp [toYaml?, isNamed, filled, h, object]

/-- What comes back of the options of the resolver. -/
theorem DnsOption.filterMap_ofObject? (os : List DnsOption) :
    os.filterMap (ofObject? ∘ object) = os := by
  simp [ofObject?, object, Function.comp_def]

namespace DnsConfig

/-- Settings of the resolver with their lists trimmed, and without options that have no name. -/
def normal (d : DnsConfig) : DnsConfig :=
  ⟨valuesNormal d.nameservers, valuesNormal d.searches, d.options.filter DnsOption.isNamed⟩

/-- Whether something is set. -/
def isGiven (d : DnsConfig) : Bool :=
  !(Text.commas d.nameservers).isEmpty || !(Text.commas d.searches).isEmpty || !d.options.isEmpty

/-- Settings of the resolver as they come back from a manifest, unless nothing is set. -/
def normal? (d : DnsConfig) : Option DnsConfig := Option.guard isGiven d.normal

/-- What is written for settings of the resolver where something is set. -/
def object (d : DnsConfig) : Yaml :=
  .object
    [("nameservers", ofTexts (Text.commas d.nameservers)),
     ("options", ofItems (d.options.map DnsOption.object)),
     ("searches", ofTexts (Text.commas d.searches))]

@[simp] theorem bind_normal?_normal? (d : Option DnsConfig) :
    (d.bind normal?).bind normal? = d.bind normal? :=
  bind_guard_guard (fun d => by simp [normal]) d

/-- Settings of the resolver are written as the object of their normal form. -/
theorem bind_toYaml?_eq (d : Option DnsConfig) : d.bind toYaml? = (d.bind normal?).map object := by
  cases d with
  | none => rfl
  | some d =>
    simp only [Option.bind_some, toYaml?, normal?, Option.guard, DnsOption.filterMap_toYaml?]
    split
    · next hn ho hs => simp_all [isGiven, normal]
    · next given =>
      rw [if_pos]
      · simp [object, normal]
      · refine Decidable.byContradiction fun none => ?_
        simp only [isGiven, normal, Bool.or_eq_true, not_or, Bool.not_eq_true', Bool.not_eq_false,
          List.isEmpty_iff, commas_valuesNormal] at none
        exact given (ofTexts_eq_none_iff.2 none.1.1) (by rw [none.2]; rfl)
          (ofTexts_eq_none_iff.2 none.1.2)

/-- The object of settings of the resolver is one that their schema takes. -/
theorem accepts_object (d : DnsConfig) : Schema.dnsConfig.accepts d.object = true := by
  simp [Schema.dnsConfig, object, DnsOption.object]

/-- What is read of the object of settings in normal form is these settings. -/
theorem of?_eq {pod : Yaml} {d : Option DnsConfig}
    (written : pod.get? "dnsConfig" = d.bind toYaml?) : of? pod = d.bind normal? := by
  rw [bind_toYaml?_eq] at written
  rw [of?, Schema.at?_eq_map written (fun _ => rfl) accepts_object]
  cases h : d.bind normal? with
  | none => rfl
  | some n =>
    obtain ⟨d, -, hd⟩ := Option.bind_eq_some_iff.1 h
    obtain ⟨rfl, -⟩ := Option.guard_eq_some_iff.1 hd
    have options : (d.normal.object.fieldItems "options").filterMap DnsOption.ofObject? =
        d.normal.options := by
      have written : d.normal.object.fieldItems "options" =
          d.normal.options.map DnsOption.object := by simp [object]
      rw [written, List.filterMap_map, DnsOption.filterMap_ofObject?]
    simp only [Option.map_some, options]
    simp [object, normal, fieldTexts, valuesNormal]

/-- Settings of the resolver and their normal form are written alike. -/
theorem bind_normal?_toYaml? (d : Option DnsConfig) :
    (d.bind normal?).bind toYaml? = d.bind toYaml? := by
  rw [bind_toYaml?_eq, bind_normal?_normal?, bind_toYaml?_eq]

end DnsConfig

end Form

namespace Descriptor

/-! ## Parts of pod specifications -/

/-- The names of the secrets that come back. -/
theorem pullSecrets_eq {pod : Yaml} {l : List String}
    (written : pod.get? "imagePullSecrets" = pullSecretsYaml l) :
    (Schema.localReference.itemsAt [] pod "imagePullSecrets").filterMap
        (fun s => filled (s.fieldText "name")) = l.filterMap filled := by
  rw [Schema.itemsAt_eq written (fun _ => rfl) fun _ => by
    simp [Schema.localReference, dict_eq_object]]
  simp only [List.all_nil, List.filter_eq_self.2 fun _ _ => rfl, List.filterMap_map,
    List.filterMap_filterMap]
  congr 1
  funext name
  cases h : filled name with
  | none => rfl
  | some s =>
    obtain ⟨filled, rfl⟩ := filled_eq_some_iff.1 h
    simp [dict_eq_object, fieldText, h]

@[simp] theorem pullSecretsYaml_filled (names : List String) :
    pullSecretsYaml (names.filterMap filled) = pullSecretsYaml names := by
  rw [pullSecretsYaml, List.filterMap_filterMap, pullSecretsYaml]
  congr 3
  funext name
  exact bind_filled_filled (some name)

/-- The containers that come back. -/
theorem containers_eq {pod : Yaml} {key nameless : String} {l : List Container}
    (written : pod.itemsAt key = l.map Container.toYaml) :
    Container.listAt nameless pod key = l.map Container.normal := by
  rw [Container.listAt, written, List.filter_eq_self.2, List.map_map]
  · congr 1
    funext c
    exact c.ofYaml_toYaml nameless
  · intro y hy
    obtain ⟨c, -, rfl⟩ := List.mem_map.1 hy
    exact c.isMap_toYaml

/-! ## Pod specifications -/

/-- The settings of the pods of a descriptor as they come back, put into another one. -/
def normalPod (base d : Descriptor) : Descriptor :=
  { base with
    containers := d.containers.map Container.normal
    initContainers := d.initContainers.map Container.normal
    volumes := (d.volumes.filter Volume.isNamed).map Volume.normal
    imagePullSecrets := d.imagePullSecrets.filterMap filled
    scheduling := d.scheduling.bind Scheduling.normal?
    nodeSelector := d.nodeSelector
    tolerations := d.tolerations.map Toleration.normal
    terminationGracePeriodSeconds := d.terminationGracePeriodSeconds
    dnsPolicy := d.dnsPolicy
    dnsConfig := d.dnsConfig.bind DnsConfig.normal?
    hostNetwork := d.hostNetwork
    hostPid := d.hostPid
    hostIpc := d.hostIpc }

/-- Whether every variable, mount and volume of a descriptor is named. -/
def IsNamed (d : Descriptor) : Prop :=
  (∀ c ∈ d.containers, c.IsNamed) ∧ (∀ c ∈ d.initContainers, c.IsNamed) ∧
    ∀ v ∈ d.volumes, v.isNamed = true

/-- A descriptor without the variables, mounts and volumes that are not named. -/
def named (d : Descriptor) : Descriptor :=
  { d with
    containers := d.containers.map Container.named
    initContainers := d.initContainers.map Container.named
    volumes := d.volumes.filter Volume.isNamed }

/-- What is read of the pod specification of a descriptor are its settings in normal form. -/
theorem withPodSpec_podSpec (base d : Descriptor) (policy : Option String) :
    base.withPodSpec (d.podSpec policy) = base.normalPod d := by
  rw [withPodSpec, containers_eq (l := d.containers), containers_eq (l := d.initContainers),
    Volume.listOf_eq (l := d.volumes), pullSecrets_eq (l := d.imagePullSecrets),
    Scheduling.of?_eq (s := d.scheduling), Toleration.itemsAt_eq (l := d.tolerations),
    DnsConfig.of?_eq (d := d.dnsConfig)]
  · have selector : (d.podSpec policy).rowsAt "nodeSelector" = d.nodeSelector.entries :=
      rowsAt_eq (by simp [podSpec])
    rw [selector]
    simp [normalPod, podSpec, int64At?, wordAt?, textAt?, flagAt]
  all_goals simp [podSpec, itemsAt]

/-- The settings of pods in normal form are written without what is not named. -/
theorem podSpec_normalPod (base d : Descriptor) (policy : Option String) :
    (base.normalPod d).podSpec policy = d.named.podSpec policy := by
  have containers : Container.toYaml ∘ Container.normal = Container.toYaml ∘ Container.named :=
    funext Container.toYaml_normal
  have volumes : Volume.toYaml ∘ Volume.normal = Volume.toYaml := funext Volume.toYaml_normal
  have tolerations : Toleration.toYaml ∘ Toleration.normal = Toleration.toYaml :=
    funext Toleration.toYaml_normal
  simp only [podSpec, normalPod, named, List.map_map, containers, volumes, tolerations,
    pullSecretsYaml_filled, Scheduling.bind_normal?_toYaml?, DnsConfig.bind_normal?_toYaml?]
  rfl

/-- From a descriptor in which everything is named nothing is dropped. -/
theorem named_eq_self {d : Descriptor} (h : d.IsNamed) : d.named = d := by
  obtain ⟨containers, initContainers, volumes⟩ := h
  have all {cs : List Container} (h : ∀ c ∈ cs, c.IsNamed) : cs.map Container.named = cs :=
    (List.map_congr_left fun c hc => Container.named_eq_self (h c hc)).trans (List.map_id cs)
  rw [named, all containers, all initContainers, List.filter_eq_self.2 volumes]

/-- A pod specification is written without anything dropped when everything in it is named. -/
theorem podSpec_named_iff (d : Descriptor) (policy : Option String) :
    d.named.podSpec policy = d.podSpec policy ↔ d.IsNamed := by
  constructor
  · intro same
    have containers := congrArg (·.get? "containers") same
    have initContainers := congrArg (·.get? "initContainers") same
    have volumes := congrArg (·.get? "volumes") same
    simp only [podSpec, named, get?_object_cons, get?_object_nil, String.reduceEq, if_true,
      if_false, Option.or_none, Option.some.injEq, seq.injEq, ofItems_inj, List.map_map,
      List.map_inj_left, map_filter_eq_map_iff] at containers initContainers volumes
    exact ⟨fun c hc => c.toYaml_named_iff.1 (containers c hc),
      fun c hc => c.toYaml_named_iff.1 (initContainers c hc), volumes⟩
  · intro isNamed
    rw [named_eq_self isNamed]

end Descriptor

end WorkloadForms
