import WorkloadForms.Form.Descriptor
import WorkloadForms.Proofs.Restored.Container

/-!
# Descriptors are read back

The codec of descriptors restores what it writes wherever variants can be read, and elsewhere if no
variable of a container takes its value from a source (`Descriptor.restores`). In particular the
JSON value of a descriptor is read as this descriptor (`Descriptor.ofJson?_write`).
-/

namespace WorkloadForms

/-- What a codec writes for the value that it reads from a JSON value. -/
def Codec.rewrite? (c : Codec β) (j : Json) : Option Json := (c.ofJson? j).map c.write

/-- Where all values are read back, writing what was read does not change it a second time. -/
theorem Codec.rewrite?_idem {c : Codec β} (readBack : ∀ b, c.ofJson? (c.write b) = some b)
    {j j' : Json} (once : c.rewrite? j = some j') : c.rewrite? j' = some j' := by
  obtain ⟨b, -, rfl⟩ := Option.map_eq_some_iff.1 once
  rw [rewrite?, readBack, Option.map_some]

namespace Form

variable {p : Presentation} {k : Nat}

/-! ## Volumes -/

/-- The storage with its texts replaced. -/
def EmptyDir.mapTexts (f : String → String) (r : EmptyDir) : EmptyDir :=
  { medium := r.medium.map f, sizeLimit := r.sizeLimit.map f }

@[simp] theorem EmptyDir.mapTexts_id (r : EmptyDir) : r.mapTexts id = r := by
  simp [mapTexts]

/-- Storage that lives as long as the pod is read back. -/
theorem EmptyDir.restores : EmptyDir.codec.Restores p (k + 1) (EmptyDir.mapTexts p.hear) :=
  .record (by decide) fun _ =>
    .cons (.optional .text rfl) <| .cons (.optional .text rfl) .nil

/-- The directory with its texts replaced. -/
def HostPath.mapTexts (f : String → String) (r : HostPath) : HostPath :=
  { path := f r.path, type := r.type.map f }

@[simp] theorem HostPath.mapTexts_id (r : HostPath) : r.mapTexts id = r := by
  simp [mapTexts]

/-- Directories of the node are read back. -/
theorem HostPath.restores : HostPath.codec.Restores p (k + 1) (HostPath.mapTexts p.hear) :=
  .record (by decide) fun _ =>
    .cons (.always .text) <| .cons (.optional .text rfl) .nil

/-- The key and its path replaced. -/
def KeyToPath.mapTexts (f : String → String) (r : KeyToPath) : KeyToPath :=
  { key := f r.key, path := f r.path }

@[simp] theorem KeyToPath.mapTexts_id (r : KeyToPath) : r.mapTexts id = r := by
  simp [mapTexts]

/-- Keys and their paths are read back. -/
theorem KeyToPath.restores : KeyToPath.codec.Restores p (k + 1) (KeyToPath.mapTexts p.hear) :=
  .record (by decide) fun _ => .cons (.always .text) <| .cons (.always .text) .nil

/-- The keys of a configuration map with their texts replaced. -/
def ConfigMapVolume.mapTexts (f : String → String) (r : ConfigMapVolume) : ConfigMapVolume :=
  { r with name := f r.name, items := r.items.map (·.mapTexts f) }

@[simp] theorem ConfigMapVolume.mapTexts_id (r : ConfigMapVolume) : r.mapTexts id = r := by
  simp [mapTexts]

/-- The keys of a configuration map are read back. -/
theorem ConfigMapVolume.restores :
    ConfigMapVolume.codec.Restores p (k + 3) (ConfigMapVolume.mapTexts p.hear) :=
  .record (by decide) fun _ =>
    .cons (.always .text) <| .cons (.list KeyToPath.restores rfl) <|
    .cons (.kept .int32 rfl) .nil

/-- The keys of a secret with their texts replaced. -/
def SecretVolume.mapTexts (f : String → String) (r : SecretVolume) : SecretVolume :=
  { r with secretName := f r.secretName, items := r.items.map (·.mapTexts f) }

@[simp] theorem SecretVolume.mapTexts_id (r : SecretVolume) : r.mapTexts id = r := by
  simp [mapTexts]

/-- The keys of a secret are read back. -/
theorem SecretVolume.restores :
    SecretVolume.codec.Restores p (k + 3) (SecretVolume.mapTexts p.hear) :=
  .record (by decide) fun _ =>
    .cons (.always .text) <| .cons (.list KeyToPath.restores rfl) <|
    .cons (.kept .int32 rfl) .nil

/-- The claim with its name replaced. -/
def VolumeClaim.mapTexts (f : String → String) (r : VolumeClaim) : VolumeClaim :=
  { r with claimName := f r.claimName }

@[simp] theorem VolumeClaim.mapTexts_id (r : VolumeClaim) : r.mapTexts id = r := by
  simp [mapTexts]

/-- Storage that is claimed by name is read back. -/
theorem VolumeClaim.restores :
    VolumeClaim.codec.Restores p (k + 1) (VolumeClaim.mapTexts p.hear) :=
  .record (by decide) fun _ => .cons (.always .text) <| .cons (.flag rfl) .nil

/-- The volume with its texts replaced. -/
def Volume.mapTexts (f : String → String) (r : Volume) : Volume :=
  { r with
    name := f r.name
    emptyDir := r.emptyDir.map (·.mapTexts f)
    hostPath := r.hostPath.map (·.mapTexts f)
    configMap := r.configMap.map (·.mapTexts f)
    secret := r.secret.map (·.mapTexts f)
    persistentVolumeClaim := r.persistentVolumeClaim.map (·.mapTexts f) }

@[simp] theorem Volume.mapTexts_id (r : Volume) : r.mapTexts id = r := by
  simp [mapTexts]

/-- Volumes are read back. -/
theorem Volume.restores : Volume.codec.Restores p (k + 4) (Volume.mapTexts p.hear) :=
  .record (by decide) fun _ =>
    .cons (.always .text) <| .cons (.always .word) <|
    .cons (.optional EmptyDir.restores rfl) <| .cons (.optional HostPath.restores rfl) <|
    .cons (.optional ConfigMapVolume.restores rfl) <|
    .cons (.optional SecretVolume.restores rfl) <|
    .cons (.optional VolumeClaim.restores rfl) .nil

/-! ## Scheduling rules -/

/-- The condition with its texts replaced. -/
def NodeRow.mapTexts (f : String → String) (r : NodeRow) : NodeRow :=
  { r with key := f r.key, values := f r.values }

@[simp] theorem NodeRow.mapTexts_id (r : NodeRow) : r.mapTexts id = r := by
  simp [mapTexts]

/-- Conditions on a node are read back. -/
theorem NodeRow.restores : NodeRow.codec.Restores p (k + 1) (NodeRow.mapTexts p.hear) :=
  .record (by decide) fun _ =>
    .cons (.always .text) <| .cons (.always .word) <| .cons (.always (.separated ',')) .nil

/-- The preference with its texts replaced. -/
def WeightedNodeRow.mapTexts (f : String → String) (r : WeightedNodeRow) : WeightedNodeRow :=
  { r with key := f r.key, values := f r.values }

@[simp] theorem WeightedNodeRow.mapTexts_id (r : WeightedNodeRow) : r.mapTexts id = r := by
  simp [mapTexts]

/-- Preferences for nodes are read back. -/
theorem WeightedNodeRow.restores :
    WeightedNodeRow.codec.Restores p (k + 1) (WeightedNodeRow.mapTexts p.hear) :=
  .record (by decide) fun _ =>
    .cons (.always .int32) <| .cons (.always .text) <| .cons (.always .word) <|
    .cons (.always (.separated ',')) .nil

/-- The condition with its texts replaced. -/
def PodRow.mapTexts (f : String → String) (r : PodRow) : PodRow :=
  { r with
    topologyKey := f r.topologyKey, labelKey := f r.labelKey, labelValues := f r.labelValues }

@[simp] theorem PodRow.mapTexts_id (r : PodRow) : r.mapTexts id = r := by
  simp [mapTexts]

/-- Conditions on pods are read back. -/
theorem PodRow.restores : PodRow.codec.Restores p (k + 1) (PodRow.mapTexts p.hear) :=
  .record (by decide) fun _ =>
    .cons (.always .text) <| .cons (.always .text) <| .cons (.always .word) <|
    .cons (.always (.separated ',')) .nil

/-- The preference with its texts replaced. -/
def WeightedPodRow.mapTexts (f : String → String) (r : WeightedPodRow) : WeightedPodRow :=
  { r with
    topologyKey := f r.topologyKey, labelKey := f r.labelKey, labelValues := f r.labelValues }

@[simp] theorem WeightedPodRow.mapTexts_id (r : WeightedPodRow) : r.mapTexts id = r := by
  simp [mapTexts]

/-- Preferences for pods are read back. -/
theorem WeightedPodRow.restores :
    WeightedPodRow.codec.Restores p (k + 1) (WeightedPodRow.mapTexts p.hear) :=
  .record (by decide) fun _ =>
    .cons (.always .int32) <| .cons (.always .text) <| .cons (.always .text) <|
    .cons (.always .word) <| .cons (.always (.separated ',')) .nil

/-- The rules with their texts replaced. -/
def Scheduling.mapTexts (f : String → String) (r : Scheduling) : Scheduling :=
  { nodeRequired := r.nodeRequired.map (·.mapTexts f)
    nodePreferred := r.nodePreferred.map (·.mapTexts f)
    podRequired := r.podRequired.map (·.mapTexts f)
    podPreferred := r.podPreferred.map (·.mapTexts f)
    antiRequired := r.antiRequired.map (·.mapTexts f)
    antiPreferred := r.antiPreferred.map (·.mapTexts f) }

@[simp] theorem Scheduling.mapTexts_id (r : Scheduling) : r.mapTexts id = r := by
  simp [mapTexts]

/-- Scheduling rules are read back. -/
theorem Scheduling.restores : Scheduling.codec.Restores p (k + 3) (Scheduling.mapTexts p.hear) :=
  .record (by decide) fun _ =>
    .cons (.list NodeRow.restores rfl) <| .cons (.list WeightedNodeRow.restores rfl) <|
    .cons (.list PodRow.restores rfl) <| .cons (.list WeightedPodRow.restores rfl) <|
    .cons (.list PodRow.restores rfl) <| .cons (.list WeightedPodRow.restores rfl) .nil

/-! ## Parts of a descriptor -/

/-- The row with its texts replaced. -/
def Row.mapTexts (f : String → String) (r : Row) : Row := { key := f r.key, value := f r.value }

@[simp] theorem Row.mapTexts_id (r : Row) : r.mapTexts id = r := by
  simp [mapTexts]

/-- Rows are read back. -/
theorem Row.restores : Row.codec.Restores p (k + 1) (Row.mapTexts p.hear) :=
  .record (by decide) fun _ => .cons (.always .text) <| .cons (.always .text) .nil

/-- The toleration with its texts replaced. -/
def Toleration.mapTexts (f : String → String) (r : Toleration) : Toleration :=
  { r with key := r.key.map f, value := r.value.map f, effect := r.effect.map f }

@[simp] theorem Toleration.mapTexts_id (r : Toleration) : r.mapTexts id = r := by
  simp [mapTexts]

/-- Tolerations are read back. -/
theorem Toleration.restores : Toleration.codec.Restores p (k + 1) (Toleration.mapTexts p.hear) :=
  .record (by decide) fun _ =>
    .cons (.optional .text rfl) <| .cons (.always .word) <| .cons (.optional .text rfl) <|
    .cons (.optional .text rfl) <| .cons (.kept .int64 rfl) .nil

/-- The update with its texts replaced. -/
def RollingUpdate.mapTexts (f : String → String) (r : RollingUpdate) : RollingUpdate :=
  { maxUnavailable := r.maxUnavailable.map (·.mapTexts f)
    maxSurge := r.maxSurge.map (·.mapTexts f) }

@[simp] theorem RollingUpdate.mapTexts_id (r : RollingUpdate) : r.mapTexts id = r := by
  simp [mapTexts]

/-- Rolling updates are read back. -/
theorem RollingUpdate.restores :
    RollingUpdate.codec.Restores p (k + 1) (RollingUpdate.mapTexts p.hear) :=
  .record (by decide) fun _ =>
    .cons (.optional .intOrText rfl) <| .cons (.optional .intOrText rfl) .nil

/-- The strategy with its texts replaced. -/
def Strategy.mapTexts (f : String → String) (r : Strategy) : Strategy :=
  { r with rollingUpdate := r.rollingUpdate.map (·.mapTexts f) }

@[simp] theorem Strategy.mapTexts_id (r : Strategy) : r.mapTexts id = r := by
  simp [mapTexts]

/-- Strategies are read back. -/
theorem Strategy.restores : Strategy.codec.Restores p (k + 2) (Strategy.mapTexts p.hear) :=
  .record (by decide) fun _ =>
    .cons (.always .word) <| .cons (.optional RollingUpdate.restores rfl) .nil

/-- The option with its texts replaced. -/
def DnsOption.mapTexts (f : String → String) (r : DnsOption) : DnsOption :=
  { name := f r.name, value := r.value.map f }

@[simp] theorem DnsOption.mapTexts_id (r : DnsOption) : r.mapTexts id = r := by
  simp [mapTexts]

/-- Options of the resolver are read back. -/
theorem DnsOption.restores : DnsOption.codec.Restores p (k + 1) (DnsOption.mapTexts p.hear) :=
  .record (by decide) fun _ =>
    .cons (.always .text) <| .cons (.optional .text rfl) .nil

/-- The settings with their texts replaced. -/
def DnsConfig.mapTexts (f : String → String) (r : DnsConfig) : DnsConfig :=
  { nameservers := f r.nameservers
    searches := f r.searches
    options := r.options.map (·.mapTexts f) }

@[simp] theorem DnsConfig.mapTexts_id (r : DnsConfig) : r.mapTexts id = r := by
  simp [mapTexts]

/-- Settings of the resolver are read back. -/
theorem DnsConfig.restores : DnsConfig.codec.Restores p (k + 3) (DnsConfig.mapTexts p.hear) :=
  .record (by decide) fun _ =>
    .cons (.always (.separated ',')) <| .cons (.always (.separated ',')) <|
    .cons (.list DnsOption.restores rfl) .nil

end Form

namespace Descriptor

open Form

variable {p : Presentation} {k : Nat}

/-! ## Descriptors -/

/-- The descriptor with its texts replaced. -/
def mapTexts (f : String → String) (d : Descriptor) : Descriptor :=
  { d with
    name := f d.name
    namespaceName := f d.namespaceName
    description := d.description.map f
    labels := d.labels.map (·.mapTexts f)
    annotations := d.annotations.map (·.mapTexts f)
    containers := d.containers.map (·.mapTexts f)
    initContainers := d.initContainers.map (·.mapTexts f)
    volumes := d.volumes.map (·.mapTexts f)
    imagePullSecrets := d.imagePullSecrets.map f
    scheduling := d.scheduling.map (·.mapTexts f)
    nodeSelector := d.nodeSelector.mapTexts f
    tolerations := d.tolerations.map (·.mapTexts f)
    strategy := d.strategy.map (·.mapTexts f)
    dnsConfig := d.dnsConfig.map (·.mapTexts f)
    serviceName := d.serviceName.map f
    schedule := d.schedule.map f }

@[simp] theorem mapTexts_id (d : Descriptor) : d.mapTexts id = d := by
  simp [mapTexts]

/-- Whether all variables of the containers can be read. -/
def isReadable (variants : Bool) (d : Descriptor) : Bool :=
  d.containers.all (·.isReadable variants) && d.initContainers.all (·.isReadable variants)

@[simp] theorem isReadable_true (d : Descriptor) : d.isReadable true = true := by
  simp [isReadable]

/-- Descriptors are read back where their variables can be. -/
theorem restores :
    codec.Restores p (k + 7) (mapTexts p.hear) (isReadable p.variants) := by
  -- Containers deepest down need seven collections; no other field depends on the presentation.
  have restores : codec.Restores p (k + 7) (mapTexts p.hear) fun d =>
      d.containers.all (·.isReadable p.variants)
        && (d.initContainers.all (·.isReadable p.variants) && true) :=
    .record (by decide) fun _ =>
      .cons (.always .text) <| .cons (.always .text) <| .cons (.optional .text rfl) <|
      .cons (.kept .int32 rfl) <| .cons (.always Row.restores.list) <|
      .cons (.always Row.restores.list) <| .consIf (.always Container.restores.listIf) <|
      .consIf (.listIf Container.restores rfl) <| .cons (.list Volume.restores rfl) <|
      .cons (.list .text rfl) <| .cons (.optional Scheduling.restores rfl) <|
      .cons (.dictionary rfl) <| .cons (.list Toleration.restores rfl) <|
      .cons (.optional Strategy.restores rfl) <| .cons (.kept .int32 rfl) <|
      .cons (.kept .int32 rfl) <| .cons (.kept .int32 rfl) <| .cons (.kept .int64 rfl) <|
      .cons (.kept .word rfl) <| .cons (.optional DnsConfig.restores rfl) <|
      .cons (.flag rfl) <| .cons (.flag rfl) <| .cons (.flag rfl) <|
      .cons (.optional .text rfl) <| .cons (.kept .word rfl) <| .cons (.optional .text rfl) <|
      .cons (.kept .flag rfl) <| .cons (.kept .word rfl) <| .cons (.kept .int32 rfl) <|
      .cons (.kept .int32 rfl) <| .cons (.kept .int32 rfl) <| .cons (.kept .int32 rfl) <|
      .cons (.kept .int32 rfl) <| .cons (.kept .int64 rfl) <| .cons (.kept .int32 rfl) .nil
  simp only [Bool.and_true] at restores
  exact restores

/-- The JSON of a descriptor with its texts replaced is read as the descriptor with its texts
replaced. -/
theorem read_mapTexts {f : String → String} (clear : ∀ s, Text.isClear s = true → f s = s)
    (d : Descriptor) :
    codec.read (Source.ofJson ((codec.write d).mapTexts f)) = pure (d.mapTexts f) := by
  have reads := (restores (p := .json f clear) (k := 0)).reads d 7 (Nat.le_refl 7)
  have given : Source.given (d.isReadable true) (d.mapTexts f) = pure (d.mapTexts f) := by
    rw [isReadable_true]
    rfl
  exact reads.trans given

/-- The JSON of a descriptor is read as the descriptor. -/
theorem read_write (d : Descriptor) : codec.read (Source.ofJson (codec.write d)) = pure d := by
  have stays : (codec.write d).mapTexts id = codec.write d :=
    Json.mapTexts_eq_self _ fun _ _ => rfl
  have reads : codec.read (Source.ofJson ((codec.write d).mapTexts id)) = pure (d.mapTexts id) :=
    read_mapTexts (fun _ _ => rfl) d
  rwa [stays, mapTexts_id] at reads

/-- A descriptor is read from any text of its JSON as it arrives. -/
theorem ofJsonText_of_write {s : String} {d : Descriptor}
    (written : Json.ofText? s = some (codec.write d)) : codec.ofJsonText s = .ok d := by
  have restores : codec.Restores (.document true id fun _ _ => rfl) 7 id := by
    have all := restores (p := .document true id fun _ _ => rfl) (k := 0)
    have same : mapTexts id = id := funext mapTexts_id
    have readable : isReadable true = fun _ => true := funext isReadable_true
    exact readable ▸ same ▸ all
  exact restores.ofJsonText written

/-- A descriptor stays when each text of its JSON does. -/
theorem mapTexts_eq_self {f : String → String} (clear : ∀ s, Text.isClear s = true → f s = s)
    {d : Descriptor} (same : ∀ s ∈ (codec.write d).texts, f s = s) : d.mapTexts f = d := by
  -- The same JSON is read twice: with its texts replaced, and as it stands.
  have replaced := read_mapTexts clear d
  rw [Json.mapTexts_eq_self _ same, read_write] at replaced
  have results := Except.ok.inj (congrFun replaced 0)
  exact (congrArg Prod.fst results).symm

/-- The JSON value of a descriptor is read as this very descriptor, so that a JSON value that was
read and written is not changed when it is read and written again. -/
theorem ofJson?_write :
    (∀ d, codec.ofJson? (codec.write d) = some d) ∧
    ∀ j j', codec.rewrite? j = some j' → codec.rewrite? j' = some j' := by
  have readBack (d : Descriptor) : codec.ofJson? (codec.write d) = some d := by
    rw [Codec.ofJson?, read_write]
    rfl
  exact ⟨readBack, fun _ _ => Codec.rewrite?_idem readBack⟩

end Descriptor

end WorkloadForms
