import WorkloadForms.Form.Terms
import WorkloadForms.Record.Codec

/-!
# Volumes as a form holds them

A volume form has a type and a sub-form for every source; the ones that the type does not name may
be left over from earlier edits. `Volume.source` gives the source that the volume has.
-/

namespace WorkloadForms.Form

/-- Storage that lives as long as the pod. -/
structure EmptyDir where
  medium : Option String := none
  sizeLimit : Option String := none
  deriving DecidableEq, Repr, Inhabited

/-- The fields of storage that lives as long as the pod. -/
def EmptyDir.fields : List (Field EmptyDir) :=
  [.optional "medium" .text (·.medium) fun v r => { r with medium := v },
   .optional "sizeLimit" .text (·.sizeLimit) fun v r => { r with sizeLimit := v }]

/-- Storage that lives as long as the pod, as JSON. -/
def EmptyDir.codec : Codec EmptyDir := .record fields {}

/-- A directory of the node. -/
structure HostPath where
  path : String := ""
  type : Option String := none
  deriving DecidableEq, Repr, Inhabited

/-- The fields of a directory of the node. -/
def HostPath.fields : List (Field HostPath) :=
  [.always "path" .text (·.path) fun v r => { r with path := v },
   .optional "type" .text (·.type) fun v r => { r with type := v }]

/-- Directories of the node as JSON. -/
def HostPath.codec : Codec HostPath := .record fields {}

/-- A key and the path it is stored under. -/
structure KeyToPath where
  key : String := ""
  path : String := ""
  deriving DecidableEq, Repr, Inhabited

/-- The fields of a key and its path. -/
def KeyToPath.fields : List (Field KeyToPath) :=
  [.always "key" .text (·.key) fun v r => { r with key := v },
   .always "path" .text (·.path) fun v r => { r with path := v }]

/-- Keys and their paths as JSON. -/
def KeyToPath.codec : Codec KeyToPath := .record fields {}

/-- The keys of a configuration map. -/
structure ConfigMapVolume where
  name : String := ""
  items : List KeyToPath := []
  defaultMode : Option Int32 := none
  deriving DecidableEq, Repr, Inhabited

/-- The fields of the keys of a configuration map. -/
def ConfigMapVolume.fields : List (Field ConfigMapVolume) :=
  [.always "name" .text (·.name) fun v r => { r with name := v },
   .list "items" KeyToPath.codec (·.items) fun v r => { r with items := v },
   .optional "defaultMode" .int32 (·.defaultMode) fun v r => { r with defaultMode := v }]

/-- The keys of a configuration map as JSON. -/
def ConfigMapVolume.codec : Codec ConfigMapVolume := .record fields {}

/-- The keys of a secret. -/
structure SecretVolume where
  secretName : String := ""
  items : List KeyToPath := []
  defaultMode : Option Int32 := none
  deriving DecidableEq, Repr, Inhabited

/-- The fields of the keys of a secret. -/
def SecretVolume.fields : List (Field SecretVolume) :=
  [.always "secretName" .text (·.secretName) fun v r => { r with secretName := v },
   .list "items" KeyToPath.codec (·.items) fun v r => { r with items := v },
   .optional "defaultMode" .int32 (·.defaultMode) fun v r => { r with defaultMode := v }]

/-- The keys of a secret as JSON. -/
def SecretVolume.codec : Codec SecretVolume := .record fields {}

/-- Storage that is claimed by name. -/
structure VolumeClaim where
  claimName : String := ""
  readOnly : Bool := false
  deriving DecidableEq, Repr, Inhabited

/-- The fields of storage that is claimed by name. -/
def VolumeClaim.fields : List (Field VolumeClaim) :=
  [.always "claimName" .text (·.claimName) fun v r => { r with claimName := v },
   .flag "readOnly" (·.readOnly) fun v r => { r with readOnly := v }]

/-- Storage that is claimed by name, as JSON. -/
def VolumeClaim.codec : Codec VolumeClaim := .record fields {}

/-- A volume. -/
structure Volume where
  name : String := ""
  type : VolumeType := .emptyDir
  emptyDir : Option EmptyDir := none
  hostPath : Option HostPath := none
  configMap : Option ConfigMapVolume := none
  secret : Option SecretVolume := none
  persistentVolumeClaim : Option VolumeClaim := none
  deriving DecidableEq, Repr, Inhabited

/-- The source of a volume. -/
inductive VolumeSource where
  | emptyDir (source : EmptyDir)
  | hostPath (source : HostPath)
  | configMap (source : ConfigMapVolume)
  | secret (source : SecretVolume)
  | persistentVolumeClaim (source : VolumeClaim)
  deriving DecidableEq, Repr, Inhabited

/-- The name of a source and its sub-form as JSON. -/
def VolumeSource.toJson : VolumeSource → String × Json
  | .emptyDir s => ("emptyDir", EmptyDir.codec.write s)
  | .hostPath s => ("hostPath", HostPath.codec.write s)
  | .configMap s => ("configMap", ConfigMapVolume.codec.write s)
  | .secret s => ("secret", SecretVolume.codec.write s)
  | .persistentVolumeClaim s => ("persistentVolumeClaim", VolumeClaim.codec.write s)

namespace Volume

/-- The fields of a volume. -/
def fields : List (Field Volume) :=
  [.always "name" .text (·.name) fun v r => { r with name := v },
   .always "type" .word (·.type) fun v r => { r with type := v },
   .optional "emptyDir" EmptyDir.codec (·.emptyDir) fun v r => { r with emptyDir := v },
   .optional "hostPath" HostPath.codec (·.hostPath) fun v r => { r with hostPath := v },
   .optional "configMap" ConfigMapVolume.codec (·.configMap) fun v r => { r with configMap := v },
   .optional "secret" SecretVolume.codec (·.secret) fun v r => { r with secret := v },
   .optional "persistentVolumeClaim" VolumeClaim.codec (·.persistentVolumeClaim)
     fun v r => { r with persistentVolumeClaim := v }]

/-- Volumes as JSON. -/
def codec : Codec Volume := .record fields {}

/-- The source that the type names, with nothing set when its sub-form is missing. -/
def source (v : Volume) : VolumeSource :=
  match v.type with
  | .emptyDir => .emptyDir (v.emptyDir.getD {})
  | .hostPath => .hostPath (v.hostPath.getD {})
  | .configMap => .configMap (v.configMap.getD {})
  | .secret => .secret (v.secret.getD {})
  | .persistentVolumeClaim => .persistentVolumeClaim (v.persistentVolumeClaim.getD {})

end Volume

end WorkloadForms.Form
