import WorkloadForms.Proofs.Choice.Field
import WorkloadForms.Proofs.ReadBack.Volume

/-!
# One source a volume

In a manifest a volume may have several sources. Reading takes the first one that is there, and what
is written afterwards has that one and no other, with what the manifest has of it, key by key
(`Volume.carried`). `Volume.isCarriedOver_toYaml` says what becomes of a volume of a manifest.
-/

namespace WorkloadForms.Form

open Yaml

namespace Volume

/-- The source of a volume in a manifest: the first one that is there, and storage that lives as
long as the pod if none is. -/
def firstSource (volume : Yaml) : VolumeType :=
  ([VolumeType.hostPath, .configMap, .secret, .persistentVolumeClaim].find? fun t =>
    (volume.field? (Vocabulary.word t)).isSome).getD .emptyDir

/-- A text that is written unless it is empty. -/
def textUnlessEmpty (o : Option String) : Option Yaml := (o.filter (· ≠ "")).map .text

/-- What is written for the keys of a source of a manifest. -/
def keysCarried (given : Yaml) : Option Yaml :=
  ofItems ((given.fieldItems "items").map fun item =>
    .dict [("key", .text (item.fieldText "key")), ("path", .text (item.fieldText "path"))])

/-- What is written under a key of a source of a type, for what the manifest has of it. -/
def carried (given : Yaml) : VolumeType → String → Option Yaml
  | .emptyDir, "medium" => textUnlessEmpty (given.fieldText? "medium")
  | .emptyDir, "sizeLimit" => textUnlessEmpty ((given.field? "sizeLimit").bind quantity?)
  | .hostPath, "path" => some (.text (given.fieldText "path"))
  | .hostPath, "type" => textUnlessEmpty (given.fieldText? "type")
  | .configMap, "name" => some (.text (given.fieldText "name"))
  | .configMap, "items" => keysCarried given
  | .configMap, "defaultMode" => (given.field? "defaultMode").map untagged
  | .secret, "secretName" => some (.text (given.fieldText "secretName"))
  | .secret, "items" => keysCarried given
  | .secret, "defaultMode" => (given.field? "defaultMode").map untagged
  | .persistentVolumeClaim, "claimName" => some (.text (given.fieldText "claimName"))
  | .persistentVolumeClaim, "readOnly" => ofFlag (given.fieldFlag "readOnly")
  | _, _ => none

/-- What becomes of a volume of a manifest: its name and its first source are written, with what
the manifest has of that source, and no other source. -/
structure IsCarriedOver (volume y : Yaml) : Prop where
  name : y.get? "name" = some (.text (volume.fieldText "name"))
  source : ∃ source, y.get? (Vocabulary.word (firstSource volume)) = some source ∧
    ∀ key, source.get? key =
      carried ((volume.field? (Vocabulary.word (firstSource volume))).getD .null)
        (firstSource volume) key
  only : ∀ key, key ≠ "name" → key ≠ Vocabulary.word (firstSource volume) → y.get? key = none

/-- The type of a volume that is read is its first source. -/
theorem typeOf_eq_firstSource (volume : Yaml) : typeOf volume = firstSource volume := by
  rw [typeOf, firstSource]
  cases h₁ : (volume.field? "hostPath").isSome <;>
  cases h₂ : (volume.field? "configMap").isSome <;>
  cases h₃ : (volume.field? "secret").isSome <;>
  cases h₄ : (volume.field? "persistentVolumeClaim").isSome <;>
    simp [Vocabulary.word, h₁, h₂, h₃, h₄]

/-- The source of a type that is read of an object. -/
def sourceOf (given : Yaml) : VolumeType → VolumeSource
  | .emptyDir => .emptyDir
    { medium := given.fieldText? "medium", sizeLimit := (given.field? "sizeLimit").bind quantity? }
  | .hostPath => .hostPath { path := given.fieldText "path", type := given.fieldText? "type" }
  | .configMap => .configMap
    { name := given.fieldText "name", items := keysOf given
      defaultMode := given.fieldInt32? "defaultMode" }
  | .secret => .secret
    { secretName := given.fieldText "secretName", items := keysOf given
      defaultMode := given.fieldInt32? "defaultMode" }
  | .persistentVolumeClaim => .persistentVolumeClaim
    { claimName := given.fieldText "claimName", readOnly := given.fieldFlag "readOnly" }

/-- The source that is read of a volume is read of the first one that is there. -/
theorem source_ofObject (volume : Yaml) :
    (ofObject volume).source =
      sourceOf ((volume.field? (Vocabulary.word (firstSource volume))).getD .null)
        (firstSource volume) := by
  have type : (ofObject volume).type = firstSource volume := typeOf_eq_firstSource volume
  rw [source, type]
  cases firstSource volume with
  | emptyDir =>
    simp only [ofObject, Vocabulary.word]
    cases volume.field? "emptyDir" <;> rfl
  | hostPath =>
    simp only [ofObject, Vocabulary.word]
    cases volume.field? "hostPath" <;> rfl
  | configMap =>
    simp only [ofObject, Vocabulary.word]
    cases volume.field? "configMap" <;> rfl
  | secret =>
    simp only [ofObject, Vocabulary.word]
    cases volume.field? "secret" <;> rfl
  | persistentVolumeClaim =>
    simp only [ofObject, Vocabulary.word]
    cases volume.field? "persistentVolumeClaim" <;> rfl

/-- What is written for the source that is read of an object, key by key. -/
theorem get?_entry_sourceOf (given : Yaml) (t : VolumeType) (key : String)
    (mode : t = .configMap ∨ t = .secret →
      (given.fieldInt32? "defaultMode").map ofInt32 = (given.field? "defaultMode").map untagged) :
    (sourceOf given t).entry.2.get? key = carried given t key := by
  have keys : keysYaml (keysOf given) = keysCarried given := by
    rw [keysYaml, keysOf, List.map_map]
    rfl
  cases t with
  | emptyDir =>
    simp only [carried]
    split <;>
      simp_all [sourceOf, VolumeSource.entry, bind_ofFilled_eq_map, textUnlessEmpty, eq_comm]
  | hostPath =>
    simp only [carried]
    split <;>
      simp_all [sourceOf, VolumeSource.entry, bind_ofFilled_eq_map, textUnlessEmpty, eq_comm]
  | configMap =>
    simp only [carried]
    split <;> simp_all [sourceOf, VolumeSource.entry, eq_comm]
  | secret =>
    simp only [carried]
    split <;> simp_all [sourceOf, VolumeSource.entry, eq_comm]
  | persistentVolumeClaim =>
    simp only [carried]
    split <;> simp_all [sourceOf, VolumeSource.entry, eq_comm]

/-- The mode of the files of a source is written as it stands, without tags. -/
theorem map_defaultMode {volume : Yaml} (accepted : Schema.volume.accepts volume = true)
    {t : VolumeType} (keyed : t = .configMap ∨ t = .secret) :
    let given := (volume.field? (Vocabulary.word t)).getD .null
    (given.fieldInt32? "defaultMode").map ofInt32 = (given.field? "defaultMode").map untagged := by
  intro given
  cases there : volume.field? (Vocabulary.word t) with
  | none =>
    rw [show given = .null by simp [given, there]]
    rfl
  | some v =>
    rw [show given = v by simp [given, there]]
    rcases keyed with rfl | rfl
    · have typed : Schema.configMapVolume.accepts v = true :=
        Schema.accepts_of_field? (f := ("configMap", Schema.configMapVolume)) accepted
          (by simp) there
      exact Schema.map_ofInt32_fieldInt32? typed (by simp)
    · have typed : Schema.secretVolume.accepts v = true :=
        Schema.accepts_of_field? (f := ("secret", Schema.secretVolume)) accepted (by simp) there
      exact Schema.map_ofInt32_fieldInt32? typed (by simp)

/-- A volume of a manifest is carried over by what is written for the one that is read of it. -/
theorem isCarriedOver_toYaml {volume : Yaml} (accepted : Schema.volume.accepts volume = true) :
    IsCarriedOver volume (ofObject volume).toYaml := by
  have type : (ofObject volume).type = firstSource volume := typeOf_eq_firstSource volume
  constructor
  case name => rw [get?_toYaml, if_pos rfl]; rfl
  case source =>
    refine ⟨(ofObject volume).source.entry.2, ?_, fun key => ?_⟩
    · rw [get?_toYaml, type, if_neg (word_type_ne_name _), if_pos rfl]
    · rw [source_ofObject]
      exact get?_entry_sourceOf _ _ _ (map_defaultMode accepted)
  case only =>
    intro key named sourced
    rw [get?_toYaml, type, if_neg named, if_neg sourced]

end Volume

end WorkloadForms.Form
