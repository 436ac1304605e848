import WorkloadForms.Proofs.ReadBack.Container

/-!
# What comes back of volumes

A volume is written with one source, the one that its type names, whatever is left over in it
(`Volume.IsWrittenAs`). The type is not written: it follows from the source that is there, so that a
source has to be written even if nothing is set in it. A volume with a name that is not blank is
read as one with the same type and the same source (`Volume.IsReadAs`), and the others are dropped.
`Descriptor.volumes_survive` says so of all volumes of a descriptor, in their order.
-/

namespace WorkloadForms

open Form Yaml

namespace Form

/-! ## What is written -/

/-- Whether an object holds what a source says: paths, names, numbers and keys as they are, and
optional texts unless they are empty. -/
def VolumeSource.IsWrittenIn (y : Yaml) : VolumeSource → Prop
  | .emptyDir s =>
    y.get? "medium" = (s.medium.filter (· ≠ "")).map .text ∧
      y.get? "sizeLimit" = (s.sizeLimit.filter (· ≠ "")).map .text
  | .hostPath s =>
    y.get? "path" = some (.text s.path) ∧ y.get? "type" = (s.type.filter (· ≠ "")).map .text
  | .configMap s =>
    y.get? "name" = some (.text s.name) ∧ y.get? "items" = keysYaml s.items ∧
      y.get? "defaultMode" = s.defaultMode.map ofInt32
  | .secret s =>
    y.get? "secretName" = some (.text s.secretName) ∧ y.get? "items" = keysYaml s.items ∧
      y.get? "defaultMode" = s.defaultMode.map ofInt32
  | .persistentVolumeClaim s =>
    y.get? "claimName" = some (.text s.claimName) ∧ y.get? "readOnly" = ofFlag s.readOnly

/-- What is written for a volume: its name and the source of its type, and nothing else. -/
structure Volume.IsWrittenAs (v : Volume) (y : Yaml) : Prop where
  name : y.get? "name" = some (.text v.name)
  source : ∃ source ∈ y.get? (Vocabulary.word v.type), v.source.IsWrittenIn source
  only : ∀ key, key ≠ "name" → key ≠ Vocabulary.word v.type → y.get? key = none

/-- What is read of a volume: its name and its type, the source of that type without empty texts,
and no other source. -/
structure Volume.IsReadAs (v w : Volume) : Prop where
  name : w.name = v.name
  type : w.type = v.type
  only : ∀ t, w.has t = true ↔ t = v.type
  source : w.source = v.source.normal

/-! ## Writing -/

/-- A text that is left out when it is empty, as it is written. -/
theorem bind_ofFilled_eq_map (o : Option String) :
    o.bind ofFilled = (o.filter (· ≠ "")).map .text := by
  rw [← bind_filled_eq_filter, Option.map_bind]
  rfl

/-- A source is written as an object of what it says. -/
theorem VolumeSource.isWrittenIn_entry (s : VolumeSource) : s.IsWrittenIn s.entry.2 := by
  cases s <;> simp [IsWrittenIn, entry, bind_ofFilled_eq_map]

namespace Volume

/-- The source of a volume is written under the name of its type. -/
theorem entry_source (v : Volume) : v.source.entry.1 = Vocabulary.word v.type := by
  rw [source]
  cases v.type <;> rfl

/-- No source is written under the key of the name. -/
theorem word_type_ne_name (t : VolumeType) : Vocabulary.word t ≠ "name" := by
  cases t <;> decide

/-- The entries of a volume are its name and its source. -/
theorem get?_toYaml (v : Volume) (key : String) :
    v.toYaml.get? key =
      if key = "name" then some (.text v.name)
      else if key = Vocabulary.word v.type then some v.source.entry.2 else none := by
  have apart : Vocabulary.word v.type ≠ "name" := word_type_ne_name v.type
  rcases v.toYaml_eq_or with h | h <;>
    rw [h, dict_eq_object, ← entry_source] <;>
    rw [← entry_source] at apart <;>
    by_cases hn : key = "name" <;> by_cases hs : key = v.source.entry.1 <;>
    simp_all [eq_comm]

/-- A volume is written with the source of its type alone. -/
theorem isWrittenAs_toYaml (v : Volume) : v.IsWrittenAs v.toYaml where
  name := by rw [get?_toYaml, if_pos rfl]
  source := by
    refine ⟨v.source.entry.2, ?_, v.source.isWrittenIn_entry⟩
    rw [get?_toYaml, if_neg (word_type_ne_name v.type), if_pos rfl]
    rfl
  only key named sourced := by rw [get?_toYaml, if_neg named, if_neg sourced]

/-! ## Reading -/

/-- A volume comes back as its normal form. -/
theorem isReadAs_normal (v : Volume) : v.IsReadAs v.normal where
  name := VolumeSource.name_volume ..
  type := by
    rw [normal, source]
    cases v.type <;> rfl
  only t := by
    rw [normal, source]
    cases v.type <;> cases t <;> simp [VolumeSource.normal, VolumeSource.volume, has]
  source := VolumeSource.source_volume ..

end Volume

end Form

namespace Descriptor

theorem volumes_normal (k : Kind) (d : Descriptor) :
    (d.normal k).volumes = (d.volumes.filter Volume.isNamed).map Volume.normal := by
  cases k <;> rfl

/-- Every volume of a descriptor is written with the source of its type alone, and those with a name
that is not blank come back in their order, with the same type and the same source. -/
theorem volumes_survive (k : Kind) (d : Descriptor) :
    (∃ pod items, (d.manifest k).at? k.podSpecPath = some pod ∧
      pod.get? "volumes" = ofItems items ∧ List.Forall₂ Volume.IsWrittenAs d.volumes items) ∧
    ∃ n, ReadsBack k d n ∧
      List.Forall₂ Volume.IsReadAs (d.volumes.filter fun v => !Text.blank v.name) n.volumes := by
  constructor
  case left =>
    exact ⟨_, d.volumes.map Volume.toYaml, podSpec_manifest k d, by simp [podSpec],
      forall₂_map Volume.isWrittenAs_toYaml d.volumes⟩
  case right =>
    refine ⟨d.normal k, readsBack_normal k d, ?_⟩
    rw [volumes_normal]
    exact forall₂_map Volume.isReadAs_normal _

end Descriptor

end WorkloadForms
