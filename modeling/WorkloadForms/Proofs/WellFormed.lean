import WorkloadForms.Proofs.Named
import WorkloadForms.Proofs.Stability

/-!
# What is read is well formed

A descriptor that was read of a manifest holds nothing that the reading should have dropped, and its
types agree with the objects it has: `Descriptor.WellFormed`. This is so of every value, however
malformed (`Descriptor.wellFormed_ofManifest`), and hence of every text that is accepted as a
manifest (`Manifest.wellFormed_of_ofText`).
-/

namespace WorkloadForms

open Form Yaml

namespace Form

/-! ## Well-formed parts -/

/-- Whether a probe has the object of a type. -/
def Probe.has (p : Probe) : ProbeType → Bool
  | .httpGet => p.httpGet.isSome
  | .exec => p.exec.isSome
  | .tcpSocket => p.tcpSocket.isSome

/-- The first type whose object a probe has; a request over HTTP if it has none. -/
def Probe.firstType (p : Probe) : ProbeType :=
  if p.has .exec = true then .exec else if p.has .tcpSocket = true then .tcpSocket else .httpGet

/-- A probe that is enabled, whose type is the first one that it has, and which has the object of
its type unless it has none at all. -/
structure Probe.WellFormed (p : Probe) : Prop where
  enabled : p.enabled = true
  typed : p.type = p.firstType
  handled : (∀ t, p.has t = false) ∨ p.has p.type = true

/-- Whether a volume has the object of a type. -/
def Volume.has (v : Volume) : VolumeType → Bool
  | .emptyDir => v.emptyDir.isSome
  | .hostPath => v.hostPath.isSome
  | .configMap => v.configMap.isSome
  | .secret => v.secret.isSome
  | .persistentVolumeClaim => v.persistentVolumeClaim.isSome

/-- A volume that has the source of its type; only one without any is an empty directory, which may
be left unsaid. -/
structure Volume.WellFormed (v : Volume) : Prop where
  sourced : v.type ≠ .emptyDir → v.has v.type = true
  sourceless : v.type = .emptyDir → ∀ t, t ≠ .emptyDir → v.has t = false

/-- Resources that are requested or limited. -/
def Resources.WellFormed (r : Resources) : Prop := r.requests.isSome = true ∨ r.limits.isSome = true

/-- Hooks of which there is one, and each of which runs something. -/
structure Lifecycle.WellFormed (l : Lifecycle) : Prop where
  present : l.postStart.isSome = true ∨ l.preStop.isSome = true
  postStart : ∀ h ∈ l.postStart, h.exec.isSome = true
  preStop : ∀ h ∈ l.preStop, h.exec.isSome = true

/-- A container with a name, whose variables have names that are not blank and whose parts are well
formed where it has them. -/
structure Container.WellFormed (c : Container) : Prop where
  named : c.name ≠ ""
  env : ∀ e ∈ c.env, Text.blank e.name = false
  resources : ∀ r ∈ c.resources, r.WellFormed
  lifecycle : ∀ l ∈ c.lifecycle, l.WellFormed
  livenessProbe : ∀ p ∈ c.livenessProbe, p.WellFormed
  readinessProbe : ∀ p ∈ c.readinessProbe, p.WellFormed
  startupProbe : ∀ p ∈ c.startupProbe, p.WellFormed

/-- The strategy of a rollout: a rolling update with one limit at least, if it has limits. -/
structure Strategy.Rolls (s : Strategy) : Prop where
  rolling : s.type = .rollingUpdate
  limited : ∀ r ∈ s.rollingUpdate, r.maxUnavailable.isSome = true ∨ r.maxSurge.isSome = true

end Form

/-- A descriptor of a kind whose containers and volumes are well formed and which has no row, secret
or rule that says nothing. -/
structure Descriptor.WellFormed (kind : Option Kind) (d : Descriptor) : Prop where
  containers : ∀ c ∈ d.containers, c.WellFormed
  initContainers : ∀ c ∈ d.initContainers, c.WellFormed
  volumes : ∀ v ∈ d.volumes, v.WellFormed
  annotations : ∀ r ∈ d.annotations, r.key ≠ "description"
  imagePullSecrets : ∀ s ∈ d.imagePullSecrets, s ≠ ""
  scheduling : ∀ s ∈ d.scheduling, s.isEmpty = false
  strategy : kind = some .rollout → ∀ s ∈ d.strategy, s.Rolls

namespace Form

/-! ## Reading parts -/

/-- The type that follows from the handlers is that of a handler, if there is one. -/
theorem Probe.handled_of_typed {p : Probe} (typed : p.type = p.firstType) :
    (∀ t, p.has t = false) ∨ p.has p.type = true := by
  rw [firstType] at typed
  cases exec : p.has .exec with
  | true => exact .inr (by rw [typed, if_pos exec, exec])
  | false =>
    cases socket : p.has .tcpSocket with
    | true => exact .inr (by simp [typed, exec, socket])
    | false =>
      cases get : p.has .httpGet with
      | true => exact .inr (by simp [typed, exec, socket, get])
      | false => exact .inl fun t => by cases t <;> assumption

/-- A probe that is read is well formed. -/
theorem Probe.wellFormed_of_at? {y : Yaml} {key : String} {p : Probe}
    (h : Probe.at? y key = some p) : p.WellFormed := by
  obtain ⟨probe, -, read⟩ := Option.bind_eq_some_iff.1 h
  obtain rfl := Option.some.inj read
  refine ⟨rfl, ?typed, handled_of_typed ?typed⟩
  simp [firstType, has]

/-- The types of the sources that a volume says that it has. -/
def Volume.sourceTypes : List VolumeType := [.hostPath, .configMap, .secret, .persistentVolumeClaim]

/-- A volume whose type is that of its first source is well formed. -/
theorem Volume.wellFormed_of_typed {v : Volume}
    (typed : v.type = (sourceTypes.find? v.has).getD .emptyDir) : v.WellFormed := by
  have every : ∀ t, t ∈ sourceTypes ↔ t ≠ .emptyDir := by
    intro t
    cases t <;> decide
  cases found : sourceTypes.find? v.has with
  | some t =>
    rw [found, Option.getD_some] at typed
    have given : t ≠ .emptyDir := (every t).1 (List.mem_of_find?_eq_some found)
    refine ⟨fun _ => ?_, fun plain => absurd (typed.symm.trans plain) given⟩
    rw [typed]
    exact List.find?_some found
  | none =>
    rw [found, Option.getD_none] at typed
    refine ⟨fun other => absurd typed other, fun _ t ht => ?_⟩
    exact Bool.eq_false_iff.2 (List.find?_eq_none.1 found t ((every t).2 ht))

/-- A volume that is read is well formed. -/
theorem Volume.wellFormed_ofObject (y : Yaml) : (Volume.ofObject y).WellFormed := by
  apply wellFormed_of_typed
  simp only [ofObject, typeOf, sourceTypes, List.find?, has, Option.isSome_map]
  cases y.field? "hostPath" <;> cases y.field? "configMap" <;> cases y.field? "secret" <;>
    cases y.field? "persistentVolumeClaim" <;> rfl

/-- Resources that are read are requested or limited. -/
theorem Resources.wellFormed_of_at? {y : Yaml} {key : String} {r : Resources}
    (h : Resources.at? y key = some r) : r.WellFormed := by
  obtain ⟨object, -, read⟩ := Option.bind_eq_some_iff.1 h
  dsimp only at read
  split at read
  · next given =>
    obtain rfl := Option.some.inj read
    exact (Bool.or_eq_true _ _).mp given
  · cases read

/-- A hook that is read runs something. -/
theorem Hook.isSome_exec_of_ofField? {y : Yaml} {key : String} {h : Hook}
    (read : Hook.ofField? y key = some h) : h.exec.isSome = true := by
  obtain ⟨hook, -, read⟩ := Option.bind_eq_some_iff.1 read
  obtain ⟨exec, -, read⟩ := Option.bind_eq_some_iff.1 read
  obtain rfl := Option.some.inj read
  rfl

/-- Hooks that are read are well formed. -/
theorem Lifecycle.wellFormed_of_at? {y : Yaml} {key : String} {l : Lifecycle}
    (h : Lifecycle.at? y key = some l) : l.WellFormed := by
  obtain ⟨object, -, read⟩ := Option.bind_eq_some_iff.1 h
  dsimp only at read
  split at read
  · next given =>
    obtain rfl := Option.some.inj read
    exact ⟨(Bool.or_eq_true _ _).mp given, fun _ => Hook.isSome_exec_of_ofField?,
      fun _ => Hook.isSome_exec_of_ofField?⟩
  · cases read

/-- A container that is read is well formed, if the name for one without a name is not empty. -/
theorem Container.wellFormed_ofYaml {nameless : String} (given : nameless ≠ "") (y : Yaml) :
    (Container.ofYaml nameless y).WellFormed where
  named := by
    cases h : (y.textAt? "name").bind filled with
    | none => simpa [ofYaml, h] using given
    | some name =>
      obtain ⟨_, -, hname⟩ := Option.bind_eq_some_iff.1 h
      obtain ⟨filled, rfl⟩ := filled_eq_some_iff.1 hname
      simpa [ofYaml, h] using filled
  env e he := by
    obtain ⟨item, -, read⟩ := List.mem_filterMap.1 he
    simpa [EnvVar.isNamed] using EnvVar.isNamed_of_of? read
  resources _ := Resources.wellFormed_of_at?
  lifecycle _ := Lifecycle.wellFormed_of_at?
  livenessProbe _ := Probe.wellFormed_of_at?
  readinessProbe _ := Probe.wellFormed_of_at?
  startupProbe _ := Probe.wellFormed_of_at?

/-- The containers that are read under a key are well formed. -/
theorem Container.wellFormed_of_mem {nameless key : String} (given : nameless ≠ "") {y : Yaml}
    {c : Container} (h : c ∈ Container.listAt nameless y key) : c.WellFormed := by
  obtain ⟨item, -, rfl⟩ := List.mem_map.1 h
  exact wellFormed_ofYaml given item

/-- Scheduling rules that are read have a row. -/
theorem Scheduling.isEmpty_of_of? {y : Yaml} {s : Scheduling} (h : Scheduling.of? y = some s) :
    s.isEmpty = false := by
  obtain ⟨affinity, -, read⟩ := Option.bind_eq_some_iff.1 h
  dsimp only at read
  split at read
  · cases read
  · next given =>
    obtain rfl := Option.some.inj read
    exact Bool.eq_false_iff.2 given

/-- The strategy that is read of a rollout is a rolling update with limits. -/
theorem Strategy.rolls_of_ofCanary? {y : Yaml} {s : Strategy}
    (h : Strategy.ofCanary? y = some s) : s.Rolls := by
  obtain ⟨strategy, -, read⟩ := Option.bind_eq_some_iff.1 h
  obtain ⟨canary, -, read⟩ := Option.bind_eq_some_iff.1 read
  split at read
  · obtain rfl := Option.some.inj read
    refine ⟨rfl, fun r hr => ?_⟩
    obtain ⟨given, same⟩ := Option.ite_none_right_eq_some.1 (Option.mem_def.1 hr)
    obtain rfl := Option.some.inj same
    exact (Bool.or_eq_true _ _).mp given
  · cases read

end Form

/-! ## Reading descriptors -/

/-- A descriptor that is read of a value is well formed, whatever the value. -/
theorem Descriptor.wellFormed_ofManifest (kind : Option Kind) (root : Yaml) :
    (Descriptor.ofManifest kind root).WellFormed kind where
  containers _ := Container.wellFormed_of_mem (by decide)
  initContainers _ := Container.wellFormed_of_mem (by decide)
  volumes v hv := by
    obtain ⟨item, -, rfl⟩ := List.mem_map.1 hv
    exact Volume.wellFormed_ofObject item
  annotations r hr := by
    obtain ⟨e, he, rfl⟩ := List.mem_map.1 hr
    simpa [descriptionKey] using (List.mem_filter.1 he).2
  imagePullSecrets s hs := by
    obtain ⟨item, -, read⟩ := List.mem_filterMap.1 hs
    obtain ⟨given, rfl⟩ := filled_eq_some_iff.1 read
    exact given
  scheduling _ := Scheduling.isEmpty_of_of?
  strategy := by
    rintro rfl s hs
    exact Strategy.rolls_of_ofCanary? hs

/-- The descriptor of a text that is accepted as a manifest is well formed. -/
theorem Manifest.wellFormed_of_ofText {s : String} {m : Manifest} (h : Manifest.ofText s = .ok m) :
    m.descriptor.WellFormed m.kind := by
  obtain ⟨y, -, read⟩ := Manifest.exists_of_ofText h
  rw [Manifest.eq_ofRoot_of_ofYaml read]
  exact Descriptor.wellFormed_ofManifest _ y

/-- A manifest with a container that has a variable and a blank one. -/
def variableText : String :=
  "spec: \x7btemplate: \x7bspec: \x7bcontainers: ["
    ++ "\x7benv: [\x7bname: A\x7d, \x7bname: ' '\x7d]\x7d" ++ "]\x7d\x7d\x7d\n"

/-- The container of the manifest gets a name, and the blank variable is left out. -/
theorem Manifest.wellFormed_variable :
    ∃ m, Manifest.ofText variableText = .ok m ∧
      m.descriptor.containers.map (fun c => (c.name, c.env.map (·.name))) = [("main", ["A"])] ∧
      m.descriptor.WellFormed m.kind := by
  have known : (Manifest.ofText variableText).toOption.any (fun m =>
      m.descriptor.containers.map (fun c => (c.name, c.env.map (·.name))) = [("main", ["A"])])
        = true := by
    decide +kernel
  obtain ⟨m, accepted, containers⟩ := exists_ok_of_any known
  exact ⟨m, accepted, of_decide_eq_true containers, Manifest.wellFormed_of_ofText accepted⟩

end WorkloadForms
