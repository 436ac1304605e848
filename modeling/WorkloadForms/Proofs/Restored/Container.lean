import WorkloadForms.Proofs.Record.Restore
import WorkloadForms.Form.Container

/-!
# Containers are read back

The codecs of probes and containers restore what they write, but for variables of the environment
that take their value from a source: those are variants, and can be read only where variants can.
-/

namespace WorkloadForms.Form

/-! ## Words -/

instance : ClearVocabulary PullPolicy where
  isClear_word a := by cases a <;> decide

instance : ClearVocabulary PodManagement where
  isClear_word a := by cases a <;> decide

instance : ClearVocabulary Protocol where
  isClear_word a := by cases a <;> decide

instance : ClearVocabulary Scheme where
  isClear_word a := by cases a <;> decide

instance : ClearVocabulary DnsPolicy where
  isClear_word a := by cases a <;> decide

instance : ClearVocabulary Concurrency where
  isClear_word a := by cases a <;> decide

instance : ClearVocabulary StrategyType where
  isClear_word a := by cases a <;> decide

instance : ClearVocabulary TolerationOperator where
  isClear_word a := by cases a <;> decide

instance : ClearVocabulary SelectorOperator where
  isClear_word a := by cases a <;> decide

instance : ClearVocabulary ProbeType where
  isClear_word a := by cases a <;> decide

instance : ClearVocabulary VolumeType where
  isClear_word a := by cases a <;> decide

variable {p : Presentation} {k : Nat}

/-! ## Probes -/

/-- The command with its text replaced. -/
def Command.mapTexts (f : String → String) (r : Command) : Command := ⟨f r.lines⟩

@[simp] theorem Command.mapTexts_id (r : Command) : r.mapTexts id = r := by
  simp [mapTexts]

/-- Commands are read back. -/
theorem Command.restores : Command.codec.Restores p (k + 1) (Command.mapTexts p.hear) :=
  .record (by decide) fun _ => .cons (.always (.separated '\n')) .nil

/-- The probe with its texts replaced. -/
def HttpGet.mapTexts (f : String → String) (r : HttpGet) : HttpGet :=
  { r with path := r.path.map f, port := r.port.map (·.mapTexts f) }

@[simp] theorem HttpGet.mapTexts_id (r : HttpGet) : r.mapTexts id = r := by
  simp [mapTexts]

/-- Probes over HTTP are read back. -/
theorem HttpGet.restores : HttpGet.codec.Restores p (k + 1) (HttpGet.mapTexts p.hear) :=
  .record (by decide) fun _ =>
    .cons (.optional .text rfl) <| .cons (.optional .intOrText rfl) <|
    .cons (.kept .word rfl) .nil

/-- The probe with its texts replaced. -/
def TcpSocket.mapTexts (f : String → String) (r : TcpSocket) : TcpSocket :=
  { r with port := r.port.map (·.mapTexts f) }

@[simp] theorem TcpSocket.mapTexts_id (r : TcpSocket) : r.mapTexts id = r := by
  simp [mapTexts]

/-- Probes that open a connection are read back. -/
theorem TcpSocket.restores : TcpSocket.codec.Restores p (k + 1) (TcpSocket.mapTexts p.hear) :=
  .record (by decide) fun _ => .cons (.optional .intOrText rfl) .nil

/-- The probe with its texts replaced. -/
def Probe.mapTexts (f : String → String) (r : Probe) : Probe :=
  { r with
    httpGet := r.httpGet.map (·.mapTexts f)
    exec := r.exec.map (·.mapTexts f)
    tcpSocket := r.tcpSocket.map (·.mapTexts f) }

@[simp] theorem Probe.mapTexts_id (r : Probe) : r.mapTexts id = r := by
  simp [mapTexts]

/-- Probes are read back. -/
theorem Probe.restores : Probe.codec.Restores p (k + 2) (Probe.mapTexts p.hear) :=
  .record (by decide) fun _ =>
    .cons (.always .flag) <| .cons (.always .word) <| .cons (.optional HttpGet.restores rfl) <|
    .cons (.optional Command.restores rfl) <| .cons (.optional TcpSocket.restores rfl) <|
    .cons (.kept .int32 rfl) <| .cons (.kept .int32 rfl) <| .cons (.kept .int32 rfl) <|
    .cons (.kept .int32 rfl) <| .cons (.kept .int32 rfl) .nil

/-! ## Parts of a container -/

/-- The port with its texts replaced. -/
def Port.mapTexts (f : String → String) (r : Port) : Port := { r with name := r.name.map f }

@[simp] theorem Port.mapTexts_id (r : Port) : r.mapTexts id = r := by
  simp [mapTexts]

/-- Ports are read back. -/
theorem Port.restores : Port.codec.Restores p (k + 1) (Port.mapTexts p.hear) :=
  .record (by decide) fun _ =>
    .cons (.optional .text rfl) <| .cons (.always .int32) <| .cons (.kept .word rfl) .nil

/-- The amounts with their texts replaced. -/
def Quantities.mapTexts (f : String → String) (r : Quantities) : Quantities :=
  { cpu := r.cpu.map f, memory := r.memory.map f, gpu := r.gpu.map f }

@[simp] theorem Quantities.mapTexts_id (r : Quantities) : r.mapTexts id = r := by
  simp [mapTexts]

/-- Amounts are read back. -/
theorem Quantities.restores : Quantities.codec.Restores p (k + 1) (Quantities.mapTexts p.hear) :=
  .record (by decide) fun _ =>
    .cons (.optional .text rfl) <| .cons (.optional .text rfl) <|
    .cons (.optional .text rfl) .nil

/-- The resources with their texts replaced. -/
def Resources.mapTexts (f : String → String) (r : Resources) : Resources :=
  { requests := r.requests.map (·.mapTexts f), limits := r.limits.map (·.mapTexts f) }

@[simp] theorem Resources.mapTexts_id (r : Resources) : r.mapTexts id = r := by
  simp [mapTexts]

/-- Resources are read back. -/
theorem Resources.restores : Resources.codec.Restores p (k + 2) (Resources.mapTexts p.hear) :=
  .record (by decide) fun _ =>
    .cons (.optional Quantities.restores rfl) <| .cons (.optional Quantities.restores rfl) .nil

/-- The mount with its texts replaced. -/
def VolumeMount.mapTexts (f : String → String) (r : VolumeMount) : VolumeMount :=
  { r with name := f r.name, mountPath := f r.mountPath, subPath := r.subPath.map f }

@[simp] theorem VolumeMount.mapTexts_id (r : VolumeMount) : r.mapTexts id = r := by
  simp [mapTexts]

/-- Mounts are read back. -/
theorem VolumeMount.restores :
    VolumeMount.codec.Restores p (k + 1) (VolumeMount.mapTexts p.hear) :=
  .record (by decide) fun _ =>
    .cons (.always .text) <| .cons (.always .text) <| .cons (.optional .text rfl) <|
    .cons (.flag rfl) .nil

/-- The hook with its texts replaced. -/
def Hook.mapTexts (f : String → String) (r : Hook) : Hook := ⟨r.exec.map (·.mapTexts f)⟩

@[simp] theorem Hook.mapTexts_id (r : Hook) : r.mapTexts id = r := by
  simp [mapTexts]

/-- Hooks are read back. -/
theorem Hook.restores : Hook.codec.Restores p (k + 2) (Hook.mapTexts p.hear) :=
  .record (by decide) fun _ => .cons (.optional Command.restores rfl) .nil

/-- The hooks with their texts replaced. -/
def Lifecycle.mapTexts (f : String → String) (r : Lifecycle) : Lifecycle :=
  { postStart := r.postStart.map (·.mapTexts f), preStop := r.preStop.map (·.mapTexts f) }

@[simp] theorem Lifecycle.mapTexts_id (r : Lifecycle) : r.mapTexts id = r := by
  simp [mapTexts]

/-- The hooks of a container are read back. -/
theorem Lifecycle.restores : Lifecycle.codec.Restores p (k + 3) (Lifecycle.mapTexts p.hear) :=
  .record (by decide) fun _ =>
    .cons (.optional Hook.restores rfl) <| .cons (.optional Hook.restores rfl) .nil

/-! ## Sources of variables -/

/-- The key with its texts replaced. -/
def KeySelector.mapTexts (f : String → String) (r : KeySelector) : KeySelector :=
  { name := f r.name, key := f r.key }

@[simp] theorem KeySelector.mapTexts_id (r : KeySelector) : r.mapTexts id = r := by
  simp [mapTexts]

/-- Keys of a configuration map or of a secret are read back. -/
theorem KeySelector.restores :
    KeySelector.codec.Restores p (k + 1) (KeySelector.mapTexts p.hear) :=
  .record (by decide) fun _ => .cons (.needed .text) <| .cons (.needed .text) .nil

/-- The field with its text replaced. -/
def FieldSelector.mapTexts (f : String → String) (r : FieldSelector) : FieldSelector :=
  ⟨f r.fieldPath⟩

@[simp] theorem FieldSelector.mapTexts_id (r : FieldSelector) : r.mapTexts id = r := by
  simp [mapTexts]

/-- Fields of the pod are read back. -/
theorem FieldSelector.restores :
    FieldSelector.codec.Restores p (k + 1) (FieldSelector.mapTexts p.hear) :=
  .record (by decide) fun _ => .cons (.needed .text) .nil

/-- The resource with its texts replaced. -/
def ResourceSelector.mapTexts (f : String → String) (r : ResourceSelector) : ResourceSelector :=
  { containerName := r.containerName.map f, resource := f r.resource }

@[simp] theorem ResourceSelector.mapTexts_id (r : ResourceSelector) : r.mapTexts id = r := by
  simp [mapTexts]

/-- Resources of a container are read back. -/
theorem ResourceSelector.restores :
    ResourceSelector.codec.Restores p (k + 1) (ResourceSelector.mapTexts p.hear) :=
  .record (by decide) fun _ =>
    .cons (.optional .text rfl) <| .cons (.needed .text) .nil

/-- The source with its texts replaced. -/
def EnvSource.mapTexts (f : String → String) : EnvSource → EnvSource
  | .configMapKey s => .configMapKey (s.mapTexts f)
  | .secretKey s => .secretKey (s.mapTexts f)
  | .field s => .field (s.mapTexts f)
  | .resource s => .resource (s.mapTexts f)

@[simp] theorem EnvSource.mapTexts_id (r : EnvSource) : r.mapTexts id = r := by
  cases r <;> simp [mapTexts]

/-- A variant with a record as its content is read where variants can be. -/
theorem variant_given {c : Codec β} {hear : β → β} {fields : List (String × Json)} {name : String}
    {make : β → EnvSource} {b : β} (h : c.Restores p (k + 1) hear)
    (write : c.write b = .object fields) (clear : Text.isClear name = true)
    (payload : EnvSource.payload name = some fun s => return make (← c.read s)) (n : Nat)
    (deep : k + 2 ≤ n) :
    (p.source n (.object [(name, c.write b)])).variant EnvSource.payload
      = Source.given p.variants (make (hear b)) := by
  obtain ⟨n, rfl⟩ : ∃ m, n = m + 1 := ⟨n - 1, by omega⟩
  rw [write, p.variant, p.hear_clear name clear, payload, ← write]
  cases p.variants with
  | false => rfl
  | true =>
    change (do return make (← c.read (p.source n (c.write b)))) = _
    rw [h.reads b n (by omega)]
    rfl

/-- Sources of variables are read back where variants can be read. -/
theorem EnvSource.restores :
    EnvSource.codec.Restores p (k + 2) (EnvSource.mapTexts p.hear) fun _ => p.variants where
  fits e := by
    change (e.toJson.2.fits (k + 1) && true) = true
    rw [Bool.and_true]
    cases e with
    | configMapKey s => exact (KeySelector.restores (p := p)).fits s
    | secretKey s => exact (KeySelector.restores (p := p)).fits s
    | field s => exact (FieldSelector.restores (p := p)).fits s
    | resource s => exact (ResourceSelector.restores (p := p)).fits s
  present _ h := by cases h
  reads e n deep := by
    cases e with
    | configMapKey s => exact variant_given KeySelector.restores rfl (by decide) rfl n deep
    | secretKey s => exact variant_given KeySelector.restores rfl (by decide) rfl n deep
    | field s => exact variant_given FieldSelector.restores rfl (by decide) rfl n deep
    | resource s => exact variant_given ResourceSelector.restores rfl (by decide) rfl n deep

/-- The variable with its texts replaced. -/
def EnvVar.mapTexts (f : String → String) (r : EnvVar) : EnvVar :=
  { name := f r.name, value := r.value.map f, valueFrom := r.valueFrom.map (·.mapTexts f) }

@[simp] theorem EnvVar.mapTexts_id (r : EnvVar) : r.mapTexts id = r := by
  simp [mapTexts]

/-- Whether a variable holds no source, or sources can be read. -/
def EnvVar.isReadable (variants : Bool) (r : EnvVar) : Bool := r.valueFrom.all fun _ => variants

@[simp] theorem EnvVar.isReadable_true (r : EnvVar) : r.isReadable true = true := by
  simp [isReadable]

/-- Variables are read back where their source can be. -/
theorem EnvVar.restores :
    EnvVar.codec.Restores p (k + 3) (EnvVar.mapTexts p.hear) (EnvVar.isReadable p.variants) := by
  have restores : EnvVar.codec.Restores p (k + 3) (EnvVar.mapTexts p.hear)
      fun r => r.isReadable p.variants && true :=
    .record (by decide) fun _ =>
      .cons (.always .text) <| .cons (.optional .text rfl) <|
      .consIf (.optionalIf EnvSource.restores rfl) .nil
  simpa only [Bool.and_true] using restores

/-! ## Containers -/

/-- The container with its texts replaced. -/
def Container.mapTexts (f : String → String) (r : Container) : Container :=
  { r with
    name := f r.name
    image := f r.image
    command := f r.command
    args := f r.args
    workingDir := r.workingDir.map f
    ports := r.ports.map (·.mapTexts f)
    env := r.env.map (·.mapTexts f)
    resources := r.resources.map (·.mapTexts f)
    volumeMounts := r.volumeMounts.map (·.mapTexts f)
    lifecycle := r.lifecycle.map (·.mapTexts f)
    livenessProbe := r.livenessProbe.map (·.mapTexts f)
    readinessProbe := r.readinessProbe.map (·.mapTexts f)
    startupProbe := r.startupProbe.map (·.mapTexts f) }

@[simp] theorem Container.mapTexts_id (r : Container) : r.mapTexts id = r := by
  simp [mapTexts]

/-- Whether all variables of a container can be read. -/
def Container.isReadable (variants : Bool) (r : Container) : Bool :=
  r.env.all (·.isReadable variants)

@[simp] theorem Container.isReadable_true (r : Container) : r.isReadable true = true := by
  simp [isReadable]

/-- Containers are read back where their variables can be. -/
theorem Container.restores :
    Container.codec.Restores p (k + 5) (Container.mapTexts p.hear)
      (Container.isReadable p.variants) := by
  have restores : Container.codec.Restores p (k + 5) (Container.mapTexts p.hear)
      fun r => r.isReadable p.variants && true :=
    .record (by decide) fun _ =>
      .cons (.always .text) <| .cons (.always .text) <| .cons (.kept .word rfl) <|
      .cons (.always (.separated '\n')) <| .cons (.always (.separated '\n')) <|
      .cons (.optional .text rfl) <| .cons (.list Port.restores rfl) <|
      .consIf (.listIf EnvVar.restores rfl) <| .cons (.optional Resources.restores rfl) <|
      .cons (.list VolumeMount.restores rfl) <| .cons (.optional Lifecycle.restores rfl) <|
      .cons (.optional Probe.restores rfl) <| .cons (.optional Probe.restores rfl) <|
      .cons (.optional Probe.restores rfl) <| .cons (.flag rfl) <| .cons (.flag rfl) .nil
  simpa only [Bool.and_true] using restores

end WorkloadForms.Form
