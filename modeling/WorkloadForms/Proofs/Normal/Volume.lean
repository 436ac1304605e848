import WorkloadForms.Manifest.Volume
import WorkloadForms.Proofs.Object

/-!
# The normal form of a volume

What becomes of a volume that is written to a manifest and read back: `Volume.normal`. A volume
keeps its name and the source of its type, in which empty texts count as missing, and has no other
sub-form. `Volume.listOf_eq` says that the volumes with a name are read as their normal forms.
-/

namespace WorkloadForms.Form

open Yaml

/-! ## Sources -/

namespace VolumeSource

/-- A source without empty texts. -/
def normal : VolumeSource → VolumeSource
  | .emptyDir s => .emptyDir ⟨s.medium.bind filled, s.sizeLimit.bind filled⟩
  | .hostPath s => .hostPath { s with type := s.type.bind filled }
  | source => source

/-- The volume that has this source alone. -/
def volume (name : String) : VolumeSource → Volume
  | .emptyDir s => { name, type := .emptyDir, emptyDir := some s }
  | .hostPath s => { name, type := .hostPath, hostPath := some s }
  | .configMap s => { name, type := .configMap, configMap := some s }
  | .secret s => { name, type := .secret, secret := some s }
  | .persistentVolumeClaim s =>
    { name, type := .persistentVolumeClaim, persistentVolumeClaim := some s }

@[simp] theorem name_volume (name : String) (s : VolumeSource) : (s.volume name).name = name := by
  cases s <;> rfl

@[simp] theorem source_volume (name : String) (s : VolumeSource) :
    (s.volume name).source = s := by
  cases s <;> rfl

/-- A source and its normal form are written alike. -/
@[simp] theorem entry_normal (s : VolumeSource) : s.normal.entry = s.entry := by
  cases s <;> simp [normal, entry]

end VolumeSource

/-! ## Volumes -/

namespace Volume

/-- Whether the name of a volume is not blank. -/
def isNamed (v : Volume) : Bool := !Text.blank v.name

/-- A volume as it comes back from a manifest. -/
def normal (v : Volume) : Volume := v.source.normal.volume v.name

@[simp] theorem isNamed_normal (v : Volume) : v.normal.isNamed = v.isNamed := by
  simp [isNamed, normal]

/-- A volume and its normal form are written alike. -/
theorem toYaml_normal (v : Volume) : v.normal.toYaml = v.toYaml := by
  simp [toYaml, normal]

/-- The name and the source of a volume are written in one order or the other. -/
theorem toYaml_eq_or (v : Volume) :
    v.toYaml = .dict [v.source.entry, ("name", .text v.name)] ∨
      v.toYaml = .dict [("name", .text v.name), v.source.entry] := by
  simp only [toYaml]
  split
  · exact .inl rfl
  · exact .inr rfl

theorem holdsNull_toYaml (v : Volume) : v.toYaml.holdsNull = false := by
  rcases v.toYaml_eq_or with h | h <;> rw [h] <;> rfl

theorem hasKey_toYaml (v : Volume) : ["name"].all v.toYaml.hasKey = v.isNamed := by
  rcases v.toYaml_eq_or with h | h <;> rw [h] <;> cases v.source <;>
    simp [VolumeSource.entry, hasKey, isNamed, dict_eq_object]

theorem accepts_keysYaml (items : List KeyToPath) :
    (Schema.list Schema.keyToPath).admits (keysYaml items) = true := by
  simp [keysYaml, Schema.keyToPath, KeyToPath.toYaml, dict_eq_object]

/-- The object of a volume is one that the schema of volumes takes. -/
theorem accepts_toYaml (v : Volume) : Schema.volume.accepts v.toYaml = true := by
  rcases v.toYaml_eq_or with h | h <;> rw [h] <;> cases v.source <;>
    simp [VolumeSource.entry, dict_eq_object, Schema.volume, Schema.otherSources,
      Schema.emptyDirVolume, Schema.hostPathVolume, Schema.configMapVolume, Schema.secretVolume,
      Schema.claimVolume, accepts_keysYaml]

/-- What is read of a written volume is its normal form. -/
theorem ofObject_toYaml (v : Volume) : ofObject v.toYaml = v.normal := by
  rcases v.toYaml_eq_or with h | h <;> rw [h, normal] <;> cases v.source <;>
    simp [VolumeSource.entry, VolumeSource.normal, VolumeSource.volume, dict_eq_object, ofObject,
      typeOf, field?_eq, fieldText, Option.filter_some, keysOf, keysYaml, KeyToPath.toYaml,
      Function.comp_def]

/-- The volumes of a pod specification where they were written are the ones with a name. -/
theorem listOf_eq {pod : Yaml} {l : List Volume}
    (written : pod.get? "volumes" = ofItems (l.map toYaml)) :
    listOf pod = (l.filter isNamed).map normal := by
  rw [listOf, Schema.itemsAt_eq written holdsNull_toYaml accepts_toYaml]
  simp only [hasKey_toYaml, List.map_map]
  congr 1
  funext v
  exact v.ofObject_toYaml

end Volume

end WorkloadForms.Form
