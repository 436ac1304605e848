import WorkloadForms.Form.Volume
import WorkloadForms.Manifest.Entry
import WorkloadForms.Schema.Volume

/-!
# Volumes in a manifest

A volume is written with the source of its type and nothing of the other ones. The type of a
volume in a manifest is the first source it has in the order of `Volume.typeOf`; a volume with none
of them is storage that lives as long as the pod.
-/

namespace WorkloadForms.Form

/-- What is written for a key and its path. -/
def KeyToPath.toYaml (k : KeyToPath) : Yaml := .dict [("key", .text k.key), ("path", .text k.path)]

/-- What is written for the keys of a volume. -/
def keysYaml (items : List KeyToPath) : Option Yaml := Yaml.ofItems (items.map KeyToPath.toYaml)

/-- The key under which a source stands, and the source. -/
def VolumeSource.entry : VolumeSource → String × Yaml
  | .emptyDir s =>
    ("emptyDir", .object
      [("medium", s.medium.bind Yaml.ofFilled), ("sizeLimit", s.sizeLimit.bind Yaml.ofFilled)])
  | .hostPath s =>
    ("hostPath", .object [("path", some (.text s.path)), ("type", s.type.bind Yaml.ofFilled)])
  | .configMap s =>
    ("configMap", .object
      [("defaultMode", s.defaultMode.map Yaml.ofInt32), ("items", keysYaml s.items),
       ("name", some (.text s.name))])
  | .secret s =>
    ("secret", .object
      [("defaultMode", s.defaultMode.map Yaml.ofInt32), ("items", keysYaml s.items),
       ("secretName", some (.text s.secretName))])
  | .persistentVolumeClaim s =>
    ("persistentVolumeClaim", .object
      [("claimName", some (.text s.claimName)), ("readOnly", Yaml.ofFlag s.readOnly)])

/-- What is written for a volume: its name and its source in the order of their keys. -/
def Volume.toYaml (v : Volume) : Yaml :=
  let source := v.source.entry
  let name := ("name", Yaml.text v.name)
  .dict (if source.1 < "name" then [source, name] else [name, source])

namespace Volume

/-- The type of a volume in a manifest. -/
def typeOf (volume : Yaml) : VolumeType :=
  if (volume.field? "hostPath").isSome then .hostPath
  else if (volume.field? "configMap").isSome then .configMap
  else if (volume.field? "secret").isSome then .secret
  else if (volume.field? "persistentVolumeClaim").isSome then .persistentVolumeClaim
  else .emptyDir

/-- The keys of a source. -/
def keysOf (source : Yaml) : List KeyToPath :=
  (source.fieldItems "items").map fun item =>
    { key := item.fieldText "key", path := item.fieldText "path" }

/-- The form of a volume. -/
def ofObject (volume : Yaml) : Volume where
  name := volume.fieldText "name"
  type := typeOf volume
  emptyDir := (volume.field? "emptyDir").map fun s =>
    { medium := s.fieldText? "medium", sizeLimit := (s.field? "sizeLimit").bind Yaml.quantity? }
  hostPath := (volume.field? "hostPath").map fun s =>
    { path := s.fieldText "path", type := s.fieldText? "type" }
  configMap := (volume.field? "configMap").map fun s =>
    { name := s.fieldText "name", items := keysOf s, defaultMode := s.fieldInt32? "defaultMode" }
  secret := (volume.field? "secret").map fun s =>
    { secretName := s.fieldText "secretName", items := keysOf s
      defaultMode := s.fieldInt32? "defaultMode" }
  persistentVolumeClaim := (volume.field? "persistentVolumeClaim").map fun s =>
    { claimName := s.fieldText "claimName", readOnly := s.fieldFlag "readOnly" }

/-- The volumes of a pod specification that have a name. -/
def listOf (pod : Yaml) : List Volume :=
  (Schema.volume.itemsAt ["name"] pod "volumes").map ofObject

end Volume

end WorkloadForms.Form
