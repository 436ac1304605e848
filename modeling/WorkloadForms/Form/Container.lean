import WorkloadForms.Form.Probe

/-!
# Containers as a form holds them

Commands and arguments are kept in one text, a word a line. A variable of the environment takes its
value from a literal text or from a source, and the source wins.
-/

namespace WorkloadForms.Form

/-- A port of a container. -/
structure Port where
  name : Option String := none
  containerPort : Int32 := 0
  protocol : Option Protocol := none
  deriving DecidableEq, Repr, Inhabited

/-- The fields of a port. -/
def Port.fields : List (Field Port) :=
  [.optional "name" .text (·.name) fun v r => { r with name := v },
   .always "containerPort" .int32 (·.containerPort) fun v r => { r with containerPort := v },
   .optional "protocol" .word (·.protocol) fun v r => { r with protocol := v }]

/-- Ports as JSON. -/
def Port.codec : Codec Port := .record fields {}

/-- A key of a configuration map or of a secret. -/
structure KeySelector where
  name : String := ""
  key : String := ""
  deriving DecidableEq, Repr, Inhabited

/-- The fields of a key, both of them required. -/
def KeySelector.fields : List (Field KeySelector) :=
  [.needed "name" .text (·.name) fun v r => { r with name := v },
   .needed "key" .text (·.key) fun v r => { r with key := v }]

/-- Keys of a configuration map or of a secret as JSON. -/
def KeySelector.codec : Codec KeySelector := .record fields {}

/-- A field of the pod. -/
structure FieldSelector where
  fieldPath : String := ""
  deriving DecidableEq, Repr, Inhabited

/-- The one field of a field selector. -/
def FieldSelector.fields : List (Field FieldSelector) :=
  [.needed "fieldPath" .text (·.fieldPath) fun v r => { r with fieldPath := v }]

/-- Fields of the pod as JSON. -/
def FieldSelector.codec : Codec FieldSelector := .record fields {}

/-- A resource of a container, by default of the container itself. -/
structure ResourceSelector where
  containerName : Option String := none
  resource : String := ""
  deriving DecidableEq, Repr, Inhabited

/-- The fields of a resource selector. -/
def ResourceSelector.fields : List (Field ResourceSelector) :=
  [.optional "containerName" .text (·.containerName) fun v r => { r with containerName := v },
   .needed "resource" .text (·.resource) fun v r => { r with resource := v }]

/-- Resources of a container as JSON. -/
def ResourceSelector.codec : Codec ResourceSelector := .record fields {}

/-- Where a variable takes its value from. -/
inductive EnvSource where
  | configMapKey (selector : KeySelector)
  | secretKey (selector : KeySelector)
  | field (selector : FieldSelector)
  | resource (selector : ResourceSelector)
  deriving DecidableEq, Repr, Inhabited

namespace EnvSource

/-- The name of the variant and what it holds as JSON. -/
def toJson : EnvSource → String × Json
  | .configMapKey s => ("configMapKeyRef", KeySelector.codec.write s)
  | .secretKey s => ("secretKeyRef", KeySelector.codec.write s)
  | .field s => ("fieldRef", FieldSelector.codec.write s)
  | .resource s => ("resourceFieldRef", ResourceSelector.codec.write s)

/-- How the content of a variant is read. -/
def payload (name : String) : Option (Source → Reading EnvSource) :=
  match name with
  | "configMapKeyRef" => some fun s => return .configMapKey (← KeySelector.codec.read s)
  | "secretKeyRef" => some fun s => return .secretKey (← KeySelector.codec.read s)
  | "fieldRef" => some fun s => return .field (← FieldSelector.codec.read s)
  | "resourceFieldRef" => some fun s => return .resource (← ResourceSelector.codec.read s)
  | _ => none

/-- Sources of variables as JSON. -/
def codec : Codec EnvSource where
  write e := .object [e.toJson]
  read := Source.variant payload

end EnvSource

/-- A variable of the environment. -/
structure EnvVar where
  name : String := ""
  value : Option String := none
  valueFrom : Option EnvSource := none
  deriving DecidableEq, Repr, Inhabited

/-- The fields of a variable. -/
def EnvVar.fields : List (Field EnvVar) :=
  [.always "name" .text (·.name) fun v r => { r with name := v },
   .optional "value" .text (·.value) fun v r => { r with value := v },
   .optional "valueFrom" EnvSource.codec (·.valueFrom) fun v r => { r with valueFrom := v }]

/-- Variables as JSON. -/
def EnvVar.codec : Codec EnvVar := .record fields {}

/-- Amounts of the resources that a form knows. -/
structure Quantities where
  cpu : Option String := none
  memory : Option String := none
  gpu : Option String := none
  deriving DecidableEq, Repr, Inhabited

/-- The name of the resource of graphics processors. -/
def gpuResource : String := "nvidia.com/gpu"

/-- The fields of amounts. -/
def Quantities.fields : List (Field Quantities) :=
  [.optional "cpu" .text (·.cpu) fun v r => { r with cpu := v },
   .optional "memory" .text (·.memory) fun v r => { r with memory := v },
   .optional gpuResource .text (·.gpu) fun v r => { r with gpu := v }]

/-- Amounts as JSON. -/
def Quantities.codec : Codec Quantities := .record fields {}

/-- The resources that a container requests and is limited to. -/
structure Resources where
  requests : Option Quantities := none
  limits : Option Quantities := none
  deriving DecidableEq, Repr, Inhabited

/-- The fields of resources. -/
def Resources.fields : List (Field Resources) :=
  [.optional "requests" Quantities.codec (·.requests) fun v r => { r with requests := v },
   .optional "limits" Quantities.codec (·.limits) fun v r => { r with limits := v }]

/-- Resources as JSON. -/
def Resources.codec : Codec Resources := .record fields {}

/-- A volume at a path of the container. -/
structure VolumeMount where
  name : String := ""
  mountPath : String := ""
  subPath : Option String := none
  readOnly : Bool := false
  deriving DecidableEq, Repr, Inhabited

/-- The fields of a mount. -/
def VolumeMount.fields : List (Field VolumeMount) :=
  [.always "name" .text (·.name) fun v r => { r with name := v },
   .always "mountPath" .text (·.mountPath) fun v r => { r with mountPath := v },
   .optional "subPath" .text (·.subPath) fun v r => { r with subPath := v },
   .flag "readOnly" (·.readOnly) fun v r => { r with readOnly := v }]

/-- Mounts as JSON. -/
def VolumeMount.codec : Codec VolumeMount := .record fields {}

/-- What is run at a point of the life of a container. -/
structure Hook where
  exec : Option Command := none
  deriving DecidableEq, Repr, Inhabited

/-- The one field of a hook. -/
def Hook.fields : List (Field Hook) :=
  [.optional "exec" Command.codec (·.exec) fun v r => { r with exec := v }]

/-- Hooks as JSON. -/
def Hook.codec : Codec Hook := .record fields {}

/-- The hooks after the start and before the stop of a container. -/
structure Lifecycle where
  postStart : Option Hook := none
  preStop : Option Hook := none
  deriving DecidableEq, Repr, Inhabited

/-- The fields of the hooks. -/
def Lifecycle.fields : List (Field Lifecycle) :=
  [.optional "postStart" Hook.codec (·.postStart) fun v r => { r with postStart := v },
   .optional "preStop" Hook.codec (·.preStop) fun v r => { r with preStop := v }]

/-- The hooks of a container as JSON. -/
def Lifecycle.codec : Codec Lifecycle := .record fields {}

/-- A container. -/
structure Container where
  name : String := ""
  image : String := ""
  imagePullPolicy : Option PullPolicy := none
  command : String := ""
  args : String := ""
  workingDir : Option String := none
  ports : List Port := []
  env : List EnvVar := []
  resources : Option Resources := none
  volumeMounts : List VolumeMount := []
  lifecycle : Option Lifecycle := none
  livenessProbe : Option Probe := none
  readinessProbe : Option Probe := none
  startupProbe : Option Probe := none
  stdin : Bool := false
  tty : Bool := false
  deriving DecidableEq, Repr, Inhabited

/-- The fields of a container. -/
def Container.fields : List (Field Container) :=
  [.always "name" .text (·.name) fun v r => { r with name := v },
   .always "image" .text (·.image) fun v r => { r with image := v },
   .optional "imagePullPolicy" .word (·.imagePullPolicy)
     fun v r => { r with imagePullPolicy := v },
   .always "command" (.separated '\n') (·.command) fun v r => { r with command := v },
   .always "args" (.separated '\n') (·.args) fun v r => { r with args := v },
   .optional "workingDir" .text (·.workingDir) fun v r => { r with workingDir := v },
   .list "ports" Port.codec (·.ports) fun v r => { r with ports := v },
   .list "env" EnvVar.codec (·.env) fun v r => { r with env := v },
   .optional "resources" Resources.codec (·.resources) fun v r => { r with resources := v },
   .list "volumeMounts" VolumeMount.codec (·.volumeMounts)
     fun v r => { r with volumeMounts := v },
   .optional "lifecycle" Lifecycle.codec (·.lifecycle) fun v r => { r with lifecycle := v },
   .optional "livenessProbe" Probe.codec (·.livenessProbe)
     fun v r => { r with livenessProbe := v },
   .optional "readinessProbe" Probe.codec (·.readinessProbe)
     fun v r => { r with readinessProbe := v },
   .optional "startupProbe" Probe.codec (·.startupProbe) fun v r => { r with startupProbe := v },
   .flag "stdin" (·.stdin) fun v r => { r with stdin := v },
   .flag "tty" (·.tty) fun v r => { r with tty := v }]

/-- Containers as JSON. -/
def Container.codec : Codec Container := .record fields {}

end WorkloadForms.Form
