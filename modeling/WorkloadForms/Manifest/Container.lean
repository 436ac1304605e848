import WorkloadForms.Form.Container
import WorkloadForms.Manifest.Probe

/-!
# Containers in a manifest

A container is written with a name and an image in any case. In reading, every setting of a
container is read by itself: one that is malformed is dropped and the others stay.
-/

namespace WorkloadForms.Form

/-! ## Writing -/

/-- What is written for a port. The protocol TCP is what a port has anyway. -/
def Port.toYaml (p : Port) : Yaml :=
  .object
    [("containerPort", some (Yaml.ofInt32 p.containerPort)), ("name", p.name.bind Yaml.ofFilled),
     ("protocol", (p.protocol.filter (· != .tcp)).map Yaml.ofWord)]

/-- What is written for a key of a configuration map or of a secret. -/
def KeySelector.toYaml (s : KeySelector) : Yaml :=
  .dict [("key", .text s.key), ("name", .text s.name)]

/-- What is written for the source of a variable. -/
def EnvSource.toYaml : EnvSource → Yaml
  | .configMapKey s => .dict [("configMapKeyRef", s.toYaml)]
  | .secretKey s => .dict [("secretKeyRef", s.toYaml)]
  | .field s => .dict [("fieldRef", .dict [("fieldPath", .text s.fieldPath)])]
  | .resource s =>
    .dict [("resourceFieldRef", .object
      [("containerName", s.containerName.map .text), ("resource", some (.text s.resource))])]

/-- What is written for a variable: its source if it has one, otherwise its literal value. -/
def EnvVar.toYaml (e : EnvVar) : Yaml :=
  match e.valueFrom with
  | some source => .dict [("name", .text e.name), ("valueFrom", source.toYaml)]
  | none => .dict [("name", .text e.name), ("value", .text (e.value.getD ""))]

/-- What is written for amounts, unless there are none. -/
def Quantities.toYaml? (q : Quantities) : Option Yaml :=
  match q.cpu.bind filled, q.memory.bind filled, q.gpu.bind filled with
  | none, none, none => none
  | cpu, memory, gpu => some <| .object
    [("cpu", cpu.map .text), ("memory", memory.map .text), (gpuResource, gpu.map .text)]

/-- What is written for resources, unless there are none. -/
def Resources.toYaml? (r : Resources) : Option Yaml :=
  match r.limits.bind Quantities.toYaml?, r.requests.bind Quantities.toYaml? with
  | none, none => none
  | limits, requests => some (.object [("limits", limits), ("requests", requests)])

/-- What is written for a mount. -/
def VolumeMount.toYaml (m : VolumeMount) : Yaml :=
  .object
    [("mountPath", some (.text m.mountPath)), ("name", some (.text m.name)),
     ("readOnly", Yaml.ofFlag m.readOnly), ("subPath", m.subPath.bind Yaml.ofFilled)]

/-- What is written for a hook, unless it runs nothing. -/
def Hook.toYaml? (h : Hook) : Option Yaml := do
  let command := Text.lines (← h.exec).lines
  if command.isEmpty then none else return .dict [("exec", commandYaml command)]

/-- What is written for the hooks, unless there are none. -/
def Lifecycle.toYaml? (l : Lifecycle) : Option Yaml :=
  match l.postStart.bind Hook.toYaml?, l.preStop.bind Hook.toYaml? with
  | none, none => none
  | postStart, preStop => some (.object [("postStart", postStart), ("preStop", preStop)])

namespace Container

/-- The name of a container that has none. -/
def defaultName : String := "main"

/-- The image of a container that has none. -/
def defaultImage : String := "nginx:latest"

/-- What is written for a container. -/
def toYaml (c : Container) : Yaml :=
  .object
    [("args", Yaml.ofTexts (Text.lines c.args)),
     ("command", Yaml.ofTexts (Text.lines c.command)),
     ("env", Yaml.ofItems (c.env.map EnvVar.toYaml)),
     ("image", some (.text ((filled c.image).getD defaultImage))),
     ("imagePullPolicy", c.imagePullPolicy.map Yaml.ofWord),
     ("lifecycle", c.lifecycle.bind Lifecycle.toYaml?),
     ("livenessProbe", c.livenessProbe.bind Probe.toYaml?),
     ("name", some (.text ((filled c.name).getD defaultName))),
     ("ports", Yaml.ofItems (c.ports.map Port.toYaml)),
     ("readinessProbe", c.readinessProbe.bind Probe.toYaml?),
     ("resources", c.resources.bind Resources.toYaml?),
     ("startupProbe", c.startupProbe.bind Probe.toYaml?),
     ("stdin", Yaml.ofFlag c.stdin),
     ("tty", Yaml.ofFlag c.tty),
     ("volumeMounts", Yaml.ofItems (c.volumeMounts.map VolumeMount.toYaml)),
     ("workingDir", c.workingDir.bind Yaml.ofFilled)]

end Container

/-! ## Reading -/

/-- The form of a port. -/
def Port.ofObject (port : Yaml) : Port where
  name := port.fieldText? "name"
  containerPort := port.fieldInt32 "containerPort"
  protocol := port.fieldWord? "protocol"

/-- The form of a key of a configuration map or of a secret. -/
def KeySelector.ofObject (s : Yaml) : KeySelector := ⟨s.fieldText "name", s.fieldText "key"⟩

/-- The form of the source of a variable. -/
def EnvSource.ofObject? (source : Yaml) : Option EnvSource :=
  match source.field? "configMapKeyRef", source.field? "secretKeyRef", source.field? "fieldRef",
    source.field? "resourceFieldRef" with
  | some s, _, _, _ => some (.configMapKey (KeySelector.ofObject s))
  | none, some s, _, _ => some (.secretKey (KeySelector.ofObject s))
  | none, none, some s, _ => some (.field ⟨s.fieldText "fieldPath"⟩)
  | none, none, none, some s =>
    some (.resource ⟨s.fieldText? "containerName", s.fieldText "resource"⟩)
  | none, none, none, none => none

/-- The form of a variable, which must have a name. A literal value is a text whatever its type. -/
def EnvVar.of? (item : Yaml) : Option EnvVar :=
  if item.hasKey "name" then
    (item.textAt? "name").map fun name =>
      { name, value := item.textAt? "value"
        valueFrom := (Schema.envSource.at? item "valueFrom").bind EnvSource.ofObject? }
  else none

/-- The form of amounts. -/
def Quantities.ofObject (amounts : Yaml) : Quantities where
  cpu := (amounts.field? "cpu").bind Yaml.quantity?
  memory := (amounts.field? "memory").bind Yaml.quantity?
  gpu := (amounts.field? gpuResource).bind Yaml.quantity?

/-- The resources under a key, unless there are none. -/
def Resources.at? (y : Yaml) (key : String) : Option Resources := do
  let object ← Schema.resources.at? y key
  let r : Resources :=
    { requests := (object.field? "requests").map Quantities.ofObject
      limits := (object.field? "limits").map Quantities.ofObject }
  if r.requests.isSome || r.limits.isSome then return r else none

/-- The form of a mount. -/
def VolumeMount.ofObject (m : Yaml) : VolumeMount where
  name := m.fieldText "name"
  mountPath := m.fieldText "mountPath"
  subPath := m.fieldText? "subPath"
  readOnly := m.fieldFlag "readOnly"

/-- The hook in a field, if it runs a command. -/
def Hook.ofField? (lifecycle : Yaml) (key : String) : Option Hook := do
  let exec ← (← lifecycle.field? key).field? "exec"
  return ⟨some (Command.ofObject exec)⟩

/-- The hooks under a key, unless there are none. -/
def Lifecycle.at? (y : Yaml) (key : String) : Option Lifecycle := do
  let object ← Schema.lifecycle.at? y key
  let l : Lifecycle :=
    { postStart := Hook.ofField? object "postStart", preStop := Hook.ofField? object "preStop" }
  if l.postStart.isSome || l.preStop.isSome then return l else none

namespace Container

/-- The form of a container. -/
def ofYaml (nameless : String) (y : Yaml) : Container where
  name := ((y.textAt? "name").bind filled).getD nameless
  image := (y.textAt? "image").getD ""
  imagePullPolicy := y.wordAt? "imagePullPolicy"
  command := y.linesAt "command"
  args := y.linesAt "args"
  workingDir := y.textAt? "workingDir"
  ports := (Schema.containerPort.itemsAt ["containerPort"] y "ports").map Port.ofObject
  env := (y.itemsAt "env").filterMap EnvVar.of?
  resources := Resources.at? y "resources"
  volumeMounts :=
    (Schema.volumeMount.itemsAt ["name", "mountPath"] y "volumeMounts").map VolumeMount.ofObject
  lifecycle := Lifecycle.at? y "lifecycle"
  livenessProbe := Probe.at? y "livenessProbe"
  readinessProbe := Probe.at? y "readinessProbe"
  startupProbe := Probe.at? y "startupProbe"
  stdin := y.flagAt "stdin"
  tty := y.flagAt "tty"

/-- The containers under a key; only mappings are containers. -/
def listAt (nameless : String) (y : Yaml) (key : String) : List Container :=
  ((y.itemsAt key).filter Yaml.isMap).map (ofYaml nameless)

end Container

end WorkloadForms.Form
