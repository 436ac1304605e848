import WorkloadForms.Manifest.Container
import WorkloadForms.Proofs.Normal.Probe

/-!
# The normal form of a container

What becomes of a container that is written to a manifest and read back: `Container.normal`. Empty
texts count as missing, commands are trimmed, a variable keeps its source or its literal value, and
variables without a name and mounts without a name or a path are dropped. `Container.ofYaml_toYaml`
says that this is what is read, and `Container.toYaml_normal_iff` that it is written like the
container itself exactly when nothing is dropped (`Container.IsNamed`).
-/

namespace WorkloadForms.Form

open Yaml

/-! ## Ports -/

/-- A port as it comes back from a manifest. -/
def Port.normal (p : Port) : Port :=
  { p with name := p.name.bind filled, protocol := p.protocol.filter (· != .tcp) }

theorem Port.accepts_toYaml (p : Port) : Schema.containerPort.accepts p.toYaml = true := by
  simp [Schema.containerPort, Port.toYaml]

theorem Port.ofObject_toYaml (p : Port) : Port.ofObject p.toYaml = p.normal := by
  simp [Port.ofObject, Port.toYaml, Port.normal, fieldWord?, fieldInt32]

theorem Port.toYaml_normal (p : Port) : p.normal.toYaml = p.toYaml := by
  simp [Port.toYaml, Port.normal, Option.filter_filter]

theorem Port.hasKey_toYaml (p : Port) : p.toYaml.hasKey "containerPort" = true := by
  simp [Port.toYaml, hasKey, ofInt32]

/-! ## Variables -/

/-- Whether the name of a variable is not blank. -/
def EnvVar.isNamed (e : EnvVar) : Bool := !Text.blank e.name

/-- A variable as it comes back from a manifest. -/
def EnvVar.normal (e : EnvVar) : EnvVar :=
  match e.valueFrom with
  | some source => { name := e.name, valueFrom := some source }
  | none => { name := e.name, value := some (e.value.getD "") }

@[simp] theorem KeySelector.ofObject_toYaml (s : KeySelector) :
    KeySelector.ofObject s.toYaml = s := by
  simp [KeySelector.ofObject, KeySelector.toYaml, dict_eq_object, fieldText]

@[simp] theorem KeySelector.accepts_toYaml (s : KeySelector) :
    Schema.keySelector.accepts s.toYaml = true := by
  simp [Schema.keySelector, KeySelector.toYaml, dict_eq_object]

@[simp] theorem KeySelector.isNull_toYaml (s : KeySelector) : s.toYaml.isNull = false := rfl

@[simp] theorem EnvSource.holdsNull_toYaml (s : EnvSource) : s.toYaml.holdsNull = false := by
  cases s <;> rfl

theorem EnvSource.accepts_toYaml (s : EnvSource) : Schema.envSource.accepts s.toYaml = true := by
  cases s <;>
    simp [Schema.envSource, EnvSource.toYaml, dict_eq_object, Schema.fieldSelector,
      Schema.resourceSelector]

theorem EnvSource.ofObject?_toYaml (s : EnvSource) : EnvSource.ofObject? s.toYaml = some s := by
  cases s <;>
    simp [EnvSource.ofObject?, EnvSource.toYaml, dict_eq_object, field?_eq, fieldText,
      Option.filter_some]

/-- A variable that has a name comes back, one without a name does not. -/
theorem EnvVar.of?_toYaml (e : EnvVar) :
    EnvVar.of? e.toYaml = if e.isNamed then some e.normal else none := by
  cases h : e.valueFrom with
  | none =>
    simp [EnvVar.of?, EnvVar.toYaml, EnvVar.isNamed, EnvVar.normal, h, dict_eq_object, hasKey,
      textAt?, Schema.at?]
  | some source =>
    simp [EnvVar.of?, EnvVar.toYaml, EnvVar.isNamed, EnvVar.normal, h, dict_eq_object, hasKey,
      textAt?, Schema.at?, Schema.read?, source.accepts_toYaml, source.ofObject?_toYaml]

theorem EnvVar.toYaml_normal (e : EnvVar) : e.normal.toYaml = e.toYaml := by
  cases h : e.valueFrom <;> simp [EnvVar.toYaml, EnvVar.normal, h]

@[simp] theorem EnvVar.isNamed_normal (e : EnvVar) : e.normal.isNamed = e.isNamed := by
  cases h : e.valueFrom <;> simp [EnvVar.isNamed, EnvVar.normal, h]

/-! ## Resources -/

/-- Amounts without the empty ones. -/
def Quantities.normal (q : Quantities) : Quantities :=
  ⟨q.cpu.bind filled, q.memory.bind filled, q.gpu.bind filled⟩

/-- Whether there is an amount. -/
def Quantities.isGiven (q : Quantities) : Bool := q.cpu.isSome || q.memory.isSome || q.gpu.isSome

/-- Amounts as they come back from a manifest, unless there are none. -/
def Quantities.normal? (q : Quantities) : Option Quantities := Option.guard isGiven q.normal

/-- What is written for amounts of which none is empty. -/
def Quantities.object (q : Quantities) : Yaml :=
  .object
    [("cpu", q.cpu.map .text), ("memory", q.memory.map .text), (gpuResource, q.gpu.map .text)]

@[simp] theorem Quantities.bind_normal?_normal? (q : Option Quantities) :
    (q.bind normal?).bind normal? = q.bind normal? :=
  bind_guard_guard (fun q => by simp [normal]) q

/-- Amounts are written as the object of their normal form. -/
theorem Quantities.bind_toYaml?_eq (q : Option Quantities) :
    q.bind toYaml? = (q.bind normal?).map object := by
  cases q with
  | none => rfl
  | some q =>
    simp only [Option.bind_some, toYaml?, normal?, Option.guard]
    split
    · next hc hm hg => simp [isGiven, normal, hc, hm, hg]
    · next given =>
      rw [if_pos]
      · rfl
      · refine Decidable.byContradiction fun none => ?_
        simp only [isGiven, normal, Bool.or_eq_true, not_or, Option.not_isSome_iff_eq_none] at none
        exact given none.1.1 none.1.2 none.2

theorem Quantities.accepts_object (q : Quantities) :
    (Schema.dictionary .quantity).accepts q.object = true := by
  cases q with
  | mk cpu memory gpu => cases cpu <;> cases memory <;> cases gpu <;> simp [object]

@[simp] theorem Quantities.isNull_object (q : Quantities) : q.object.isNull = false := rfl

@[simp] theorem Quantities.ofObject_object (q : Quantities) : ofObject q.object = q := by
  simp [ofObject, object, gpuResource, field?_eq]

/-- Resources without amounts that are all empty. -/
def Resources.normal (r : Resources) : Resources :=
  ⟨r.requests.bind Quantities.normal?, r.limits.bind Quantities.normal?⟩

/-- Whether there are amounts. -/
def Resources.isGiven (r : Resources) : Bool := r.requests.isSome || r.limits.isSome

/-- Resources as they come back from a manifest, unless there are none. -/
def Resources.normal? (r : Resources) : Option Resources := Option.guard isGiven r.normal

/-- What is written for resources of which no amounts are empty. -/
def Resources.object (r : Resources) : Yaml :=
  .object
    [("limits", r.limits.map Quantities.object), ("requests", r.requests.map Quantities.object)]

@[simp] theorem Resources.bind_normal?_normal? (r : Option Resources) :
    (r.bind normal?).bind normal? = r.bind normal? :=
  bind_guard_guard (fun r => by simp [normal]) r

/-- Resources are written as the object of their normal form. -/
theorem Resources.bind_toYaml?_eq (r : Option Resources) :
    r.bind toYaml? = (r.bind normal?).map object := by
  cases r with
  | none => rfl
  | some r =>
    simp only [Option.bind_some, toYaml?, normal?, Option.guard, Quantities.bind_toYaml?_eq]
    split
    · next hl hr => simp_all [isGiven, normal]
    · next given =>
      rw [if_pos]
      · rfl
      · refine Decidable.byContradiction fun none => ?_
        simp only [isGiven, normal, Bool.or_eq_true, not_or, Option.not_isSome_iff_eq_none] at none
        exact given (Option.map_eq_none_iff.2 none.2) (Option.map_eq_none_iff.2 none.1)

theorem Resources.accepts_object (r : Resources) : Schema.resources.accepts r.object = true := by
  cases r with
  | mk requests limits =>
    cases requests <;> cases limits <;> simp [Schema.resources, object, Quantities.accepts_object]

/-- Under a key where resources were written there is their normal form. -/
theorem Resources.at?_eq {y : Yaml} {key : String} {r : Option Resources}
    (written : y.get? key = r.bind toYaml?) : Resources.at? y key = r.bind normal? := by
  have amounts (q : Option Quantities) :
      ((q.map Quantities.object).filter (!·.isNull)).map Quantities.ofObject = q := by
    cases q <;> simp [Option.filter_some]
  rw [bind_toYaml?_eq] at written
  rw [Resources.at?, Schema.at?_eq_map written (fun _ => rfl) accepts_object]
  cases h : r.bind normal? with
  | none => rfl
  | some n =>
    obtain ⟨r, -, hr⟩ := Option.bind_eq_some_iff.1 h
    obtain ⟨rfl, given⟩ := Option.guard_eq_some_iff.1 hr
    simp only [Option.map_some, Option.bind_eq_bind, Option.bind_some, object, field?_eq,
      last?_object_cons, last?_object_nil, String.reduceEq, if_true, if_false, Option.none_or,
      Option.or_none, amounts]
    exact if_pos given

/-- Resources and their normal form are written alike. -/
theorem Resources.bind_normal?_toYaml? (r : Option Resources) :
    (r.bind normal?).bind toYaml? = r.bind toYaml? := by
  rw [bind_toYaml?_eq, bind_normal?_normal?, bind_toYaml?_eq]

/-! ## Mounts -/

/-- Whether neither the name nor the path of a mount is blank. -/
def VolumeMount.isNamed (m : VolumeMount) : Bool := !Text.blank m.name && !Text.blank m.mountPath

/-- A mount as it comes back from a manifest. -/
def VolumeMount.normal (m : VolumeMount) : VolumeMount :=
  { m with subPath := m.subPath.bind filled }

theorem VolumeMount.accepts_toYaml (m : VolumeMount) :
    Schema.volumeMount.accepts m.toYaml = true := by
  simp [Schema.volumeMount, VolumeMount.toYaml]

theorem VolumeMount.ofObject_toYaml (m : VolumeMount) : ofObject m.toYaml = m.normal := by
  simp [ofObject, toYaml, normal, fieldText]

theorem VolumeMount.toYaml_normal (m : VolumeMount) : m.normal.toYaml = m.toYaml := by
  simp [toYaml, normal]

theorem VolumeMount.all_hasKey_toYaml (m : VolumeMount) :
    ["name", "mountPath"].all m.toYaml.hasKey = m.isNamed := by
  simp [toYaml, isNamed, hasKey]

@[simp] theorem VolumeMount.isNamed_normal (m : VolumeMount) : m.normal.isNamed = m.isNamed := rfl

/-! ## Hooks -/

/-- A hook as it comes back from a manifest, unless it runs nothing. -/
def Hook.normal? (h : Hook) : Option Hook :=
  (h.exec.map fun c => Text.lines c.lines).bind fun command =>
    if command.isEmpty then none else some ⟨some ⟨Text.joined '\n' command⟩⟩

/-- What is written for a hook that runs something. -/
def Hook.object (h : Hook) : Yaml :=
  .dict [("exec", commandYaml (Text.lines (h.exec.getD {}).lines))]

@[simp] theorem Hook.bind_normal?_normal? (h : Option Hook) :
    (h.bind normal?).bind normal? = h.bind normal? := by
  rcases h with _ | ⟨_ | c⟩
  · rfl
  · rfl
  · by_cases hc : Text.lines c.lines = [] <;> simp [normal?, hc]

/-- A hook is written as the object of its normal form. -/
theorem Hook.bind_toYaml?_eq (h : Option Hook) : h.bind toYaml? = (h.bind normal?).map object := by
  rcases h with _ | ⟨_ | c⟩
  · rfl
  · rfl
  · by_cases hc : Text.lines c.lines = [] <;> simp [toYaml?, normal?, object, hc]

theorem Hook.accepts_object (h : Hook) : Schema.lifecycleHandler.accepts h.object = true := by
  simp [Schema.lifecycleHandler, object, dict_eq_object]

@[simp] theorem Hook.isNull_object (h : Hook) : h.object.isNull = false := rfl

/-- In a field where a hook was written there is its normal form. -/
theorem Hook.ofField?_eq {y : Yaml} {key : String} {h : Option Hook}
    (written : y.last? key = (h.bind normal?).map object) :
    Hook.ofField? y key = h.bind normal? := by
  rw [ofField?, field?_eq, written]
  rcases h with _ | ⟨_ | c⟩
  · rfl
  · rfl
  · by_cases hc : Text.lines c.lines = [] <;>
      simp [normal?, object, hc, dict_eq_object, field?_eq, Option.filter_some]

/-- Hooks without the ones that run nothing. -/
def Lifecycle.normal (l : Lifecycle) : Lifecycle :=
  ⟨l.postStart.bind Hook.normal?, l.preStop.bind Hook.normal?⟩

/-- Whether there is a hook. -/
def Lifecycle.isGiven (l : Lifecycle) : Bool := l.postStart.isSome || l.preStop.isSome

/-- Hooks as they come back from a manifest, unless there are none. -/
def Lifecycle.normal? (l : Lifecycle) : Option Lifecycle := Option.guard isGiven l.normal

/-- What is written for hooks that all run something. -/
def Lifecycle.object (l : Lifecycle) : Yaml :=
  .object [("postStart", l.postStart.map Hook.object), ("preStop", l.preStop.map Hook.object)]

@[simp] theorem Lifecycle.bind_normal?_normal? (l : Option Lifecycle) :
    (l.bind normal?).bind normal? = l.bind normal? :=
  bind_guard_guard (fun l => by simp [normal]) l

/-- Hooks are written as the object of their normal form. -/
theorem Lifecycle.bind_toYaml?_eq (l : Option Lifecycle) :
    l.bind toYaml? = (l.bind normal?).map object := by
  cases l with
  | none => rfl
  | some l =>
    simp only [Option.bind_some, toYaml?, normal?, Option.guard, Hook.bind_toYaml?_eq]
    split
    · next hs hp => simp_all [isGiven, normal]
    · next given =>
      rw [if_pos]
      · rfl
      · refine Decidable.byContradiction fun none => ?_
        simp only [isGiven, normal, Bool.or_eq_true, not_or, Option.not_isSome_iff_eq_none] at none
        exact given (Option.map_eq_none_iff.2 none.1) (Option.map_eq_none_iff.2 none.2)

theorem Lifecycle.accepts_object (l : Lifecycle) : Schema.lifecycle.accepts l.object = true := by
  cases l with
  | mk postStart preStop =>
    cases postStart <;> cases preStop <;> simp [Schema.lifecycle, object, Hook.accepts_object]

/-- Under a key where hooks were written there is their normal form. -/
theorem Lifecycle.at?_eq {y : Yaml} {key : String} {l : Option Lifecycle}
    (written : y.get? key = l.bind toYaml?) : Lifecycle.at? y key = l.bind normal? := by
  rw [bind_toYaml?_eq] at written
  rw [Lifecycle.at?, Schema.at?_eq_map written (fun _ => rfl) accepts_object]
  cases h : l.bind normal? with
  | none => rfl
  | some n =>
    obtain ⟨l, -, hl⟩ := Option.bind_eq_some_iff.1 h
    obtain ⟨rfl, given⟩ := Option.guard_eq_some_iff.1 hl
    have start : Hook.ofField? l.normal.object "postStart" = l.normal.postStart :=
      Hook.ofField?_eq (by simp [object, normal])
    have stop : Hook.ofField? l.normal.object "preStop" = l.normal.preStop :=
      Hook.ofField?_eq (by simp [object, normal])
    simp only [Option.map_some, Option.bind_eq_bind, Option.bind_some, start, stop]
    exact if_pos given

/-- Hooks and their normal form are written alike. -/
theorem Lifecycle.bind_normal?_toYaml? (l : Option Lifecycle) :
    (l.bind normal?).bind toYaml? = l.bind toYaml? := by
  rw [bind_toYaml?_eq, bind_normal?_normal?, bind_toYaml?_eq]

/-! ## Containers -/

namespace Container

/-- Whether every variable and every mount of a container is named. -/
def IsNamed (c : Container) : Prop :=
  (∀ e ∈ c.env, e.isNamed = true) ∧ ∀ m ∈ c.volumeMounts, m.isNamed = true

/-- A container without the variables and mounts that are not named. -/
def named (c : Container) : Container :=
  { c with
    env := c.env.filter EnvVar.isNamed
    volumeMounts := c.volumeMounts.filter VolumeMount.isNamed }

/-- A container as it comes back from a manifest. -/
def normal (c : Container) : Container where
  name := (filled c.name).getD defaultName
  image := (filled c.image).getD defaultImage
  imagePullPolicy := c.imagePullPolicy
  command := Text.joined '\n' (Text.lines c.command)
  args := Text.joined '\n' (Text.lines c.args)
  workingDir := c.workingDir.bind filled
  ports := c.ports.map Port.normal
  env := (c.env.filter EnvVar.isNamed).map EnvVar.normal
  resources := c.resources.bind Resources.normal?
  volumeMounts := (c.volumeMounts.filter VolumeMount.isNamed).map VolumeMount.normal
  lifecycle := c.lifecycle.bind Lifecycle.normal?
  livenessProbe := c.livenessProbe.bind Probe.normal?
  readinessProbe := c.readinessProbe.bind Probe.normal?
  startupProbe := c.startupProbe.bind Probe.normal?
  stdin := c.stdin
  tty := c.tty

@[simp] theorem defaultName_ne_empty : defaultName ≠ "" := by decide
@[simp] theorem defaultImage_ne_empty : defaultImage ≠ "" := by decide
@[simp] theorem isMap_toYaml (c : Container) : c.toYaml.isMap = true := rfl

@[simp] theorem normal_named (c : Container) : c.named.normal = c.normal := by
  simp [normal, named]

/-- The variables of a written container. -/
theorem env_toYaml (c : Container) :
    (c.toYaml.itemsAt "env").filterMap EnvVar.of? =
      (c.env.filter EnvVar.isNamed).map EnvVar.normal := by
  have written : c.toYaml.get? "env" = ofItems (c.env.map EnvVar.toYaml) := by simp [toYaml]
  rw [itemsAt, written, ofItems_items?, List.filterMap_map, ← List.filterMap_eq_map,
    List.filterMap_filter]
  congr 1
  funext e
  exact e.of?_toYaml

/-- The ports of a written container. -/
theorem ports_toYaml (c : Container) :
    (Schema.containerPort.itemsAt ["containerPort"] c.toYaml "ports").map Port.ofObject =
      c.ports.map Port.normal := by
  rw [Schema.itemsAt_eq (f := Port.toYaml) (l := c.ports) (by simp [toYaml]) (fun _ => rfl)
    Port.accepts_toYaml]
  simp only [List.all_cons, List.all_nil, Bool.and_true, Port.hasKey_toYaml,
    List.filter_eq_self.2 fun _ _ => rfl, List.map_map]
  congr 1
  funext p
  exact p.ofObject_toYaml

/-- The mounts of a written container. -/
theorem volumeMounts_toYaml (c : Container) :
    (Schema.volumeMount.itemsAt ["name", "mountPath"] c.toYaml "volumeMounts").map
        VolumeMount.ofObject =
      (c.volumeMounts.filter VolumeMount.isNamed).map VolumeMount.normal := by
  rw [Schema.itemsAt_eq (f := VolumeMount.toYaml) (l := c.volumeMounts) (by simp [toYaml])
    (fun _ => rfl) VolumeMount.accepts_toYaml]
  simp only [VolumeMount.all_hasKey_toYaml, List.map_map]
  congr 1
  funext m
  exact m.ofObject_toYaml

/-- What is read of a written container is its normal form. -/
theorem ofYaml_toYaml (nameless : String) (c : Container) :
    ofYaml nameless c.toYaml = c.normal := by
  rw [ofYaml, env_toYaml, ports_toYaml, volumeMounts_toYaml, Resources.at?_eq (r := c.resources),
    Lifecycle.at?_eq (l := c.lifecycle), Probe.at?_eq (p := c.livenessProbe),
    Probe.at?_eq (p := c.readinessProbe), Probe.at?_eq (p := c.startupProbe)]
  · simp [normal, toYaml, textAt?, wordAt?, linesAt, flagAt, itemsAt]
  all_goals simp [toYaml]

/-- The normal form of a container is written as the container without what is not named. -/
theorem toYaml_normal (c : Container) : c.normal.toYaml = c.named.toYaml := by
  simp [toYaml, normal, named, Function.comp_def, EnvVar.toYaml_normal, Port.toYaml_normal,
    VolumeMount.toYaml_normal, Lifecycle.bind_normal?_toYaml?, Probe.bind_normal?_toYaml?,
    Resources.bind_normal?_toYaml?]

/-- From a container in which everything is named nothing is dropped. -/
theorem named_eq_self {c : Container} (h : c.IsNamed) : c.named = c := by
  rw [named, List.filter_eq_self.2 h.1, List.filter_eq_self.2 h.2]

/-- A container is written without anything dropped when its variables and mounts are named. -/
theorem toYaml_named_iff (c : Container) : c.named.toYaml = c.toYaml ↔ c.IsNamed := by
  constructor
  · intro same
    have env := congrArg (·.get? "env") same
    have mounts := congrArg (·.get? "volumeMounts") same
    simp only [toYaml, named, get?_object_cons, get?_object_nil, String.reduceEq, if_true, if_false,
      Option.or_none, ofItems_inj, map_filter_eq_map_iff] at env mounts
    exact ⟨env, mounts⟩
  · intro isNamed
    rw [named_eq_self isNamed]

end Container

end WorkloadForms.Form
