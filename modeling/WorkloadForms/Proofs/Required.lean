import WorkloadForms.Proofs.Named
import WorkloadForms.Proofs.Words

/-!
# The keys that items must have

A volume must have a name, and a mount a name and a path. Reading looks these keys up in an item as
it was written, while the texts are those of the object that the item is decoded as. Exactly the
items with texts that are not blank are read, as far as no tag hides a blank or a text
(`Schema.isGuarded_itemsAt`). `Manifest.keys_guarded` says so of all volumes and mounts of a
manifest.
-/

namespace WorkloadForms

open Form

/-! ## Lists that are filtered before and after a map -/

/-- All results with a property are among the results of the items that satisfy a condition, in
their order, exactly when the items with such results do. -/
theorem filter_map_sublist_iff {f : α → β} {p : α → Bool} {q : β → Bool} {l : List α} :
    ((l.map f).filter q).Sublist ((l.filter p).map f) ↔ ∀ a ∈ l, q (f a) = true → p a = true := by
  have both : ((l.filter p).map f).filter q = ((l.filter (q ∘ f)).filter p).map f := by
    rw [List.filter_map, List.filter_filter, List.filter_filter]
    simp only [Bool.and_comm]
  constructor
  · intro sub a mem hq
    -- The results with the property that are left are as many as there are at all.
    have long := (sub.filter q).length_le
    rw [List.filter_filter, both] at long
    simp only [Bool.and_self, List.filter_map, List.length_map] at long
    have all := List.filter_sublist.eq_of_length_le long
    have left : a ∈ (l.filter (q ∘ f)).filter p := by
      rw [all]
      exact List.mem_filter.2 ⟨mem, hq⟩
    exact (List.mem_filter.1 left).2
  · intro imp
    have all : (l.filter (q ∘ f)).filter p = l.filter (q ∘ f) :=
      List.filter_eq_self.2 fun a mem => imp a (List.mem_filter.1 mem).1 (List.mem_filter.1 mem).2
    rw [List.filter_map, ← all, ← both]
    exact List.filter_sublist

namespace Schema

open Yaml

/-! ## Lists of items -/

/-- Whether a value is decoded as an object of a type. -/
def decodes (schema : Schema) (y : Yaml) : Bool := !y.holdsNull && schema.accepts y

/-- What reading makes of a list of items that are decoded as objects of a type and must have keys.
A form is `named` if none of its required texts is blank. -/
structure IsGuarded (schema : Schema) (required : List String) (form : Yaml → α) (named : α → Bool)
    (items : List Yaml) (forms : List α) : Prop where
  /-- Forms are read of items that are decoded, in their order. -/
  decoded : forms.Sublist ((items.filter schema.decodes).map form)
  /-- All forms are named exactly when no item in which all the keys are found hides a blank. -/
  safe : (∀ a ∈ forms, named a = true) ↔ ∀ item ∈ items, schema.decodes item = true →
    (∀ key ∈ required, item.hasKey key = true) → ∀ key ∈ required, ¬item.HidesBlank key
  /-- All items with named forms are kept in their order exactly when none of them hides a text. -/
  complete : (((items.filter schema.decodes).map form).filter named).Sublist forms ↔
    ∀ item ∈ items, schema.decodes item = true → named (form item) = true →
      ∀ key ∈ required, ¬item.HidesText key
  /-- The named forms are the ones that are read if there are no tags at the required keys. -/
  plain : (∀ item ∈ items, schema.decodes item = true → ∀ key ∈ required, item.PlainAt key) →
    forms = ((items.filter schema.decodes).map form).filter named

/-- The items of a type under a key are those that are decoded and have the required keys. -/
theorem itemsAt_eq_filter (schema : Schema) (required : List String) (y : Yaml) (key : String) :
    schema.itemsAt required y key =
      ((y.itemsAt key).filter schema.decodes).filter fun item => required.all item.hasKey := by
  rw [itemsAt, List.filter_filter]
  simp only [decodes, Bool.and_assoc]

section Items

variable {fields : List (String × Schema)} {required : List String} {form : Yaml → α}
  {named : α → Bool} {y : Yaml} {key : String} (distinct : y.DistinctKeys)
  (names : ∀ item, named (form item) = true ↔
    ∀ key ∈ required, Text.blank (item.fieldText key) = false)

include distinct names

/-- All forms that are read are named as far as no tag hides a blank. -/
theorem forall_named_iff (known : ∀ key ∈ required, (key, Schema.text) ∈ fields) :
    (∀ a ∈ ((object fields).itemsAt required y key).map form, named a = true) ↔
      ∀ item ∈ y.itemsAt key, (object fields).decodes item = true →
        (∀ key ∈ required, item.hasKey key = true) → ∀ key ∈ required, ¬item.HidesBlank key := by
  rw [itemsAt_eq_filter]
  simp only [List.forall_mem_map, List.mem_filter, and_imp, List.all_eq_true, names]
  refine forall₂_congr fun item mem => forall₂_congr fun decoded there =>
    forall₂_congr fun name required => ?_
  rw [← blank_fieldText_iff (Bool.and_eq_true_iff.1 decoded).2 (distinct.itemsAt key item mem)
    (known name required) (there name required), Bool.not_eq_true]

/-- All items with named forms are read as far as no tag hides a text. -/
theorem filter_named_sublist_iff :
    ((((y.itemsAt key).filter (object fields).decodes).map form).filter named).Sublist
        (((object fields).itemsAt required y key).map form) ↔
      ∀ item ∈ y.itemsAt key, (object fields).decodes item = true → named (form item) = true →
        ∀ key ∈ required, ¬item.HidesText key := by
  rw [itemsAt_eq_filter, filter_map_sublist_iff]
  simp only [List.mem_filter, and_imp, List.all_eq_true]
  refine forall₂_congr fun item mem => forall₂_congr fun _ filled =>
    forall₂_congr fun name required => ?_
  rw [hidesText_iff (distinct.itemsAt key item mem)]
  simp [(names item).1 filled name required]

/-- The forms that are read of a list are guarded by the required keys. -/
theorem isGuarded_itemsAt (known : ∀ key ∈ required, (key, Schema.text) ∈ fields) :
    (object fields).IsGuarded required form named (y.itemsAt key)
      (((object fields).itemsAt required y key).map form) := by
  have decoded : (((object fields).itemsAt required y key).map form).Sublist
      (((y.itemsAt key).filter (object fields).decodes).map form) := by
    rw [itemsAt_eq_filter]
    exact List.filter_sublist.map form
  refine ⟨decoded, forall_named_iff distinct names known, filter_named_sublist_iff distinct names,
    fun plain => ?_⟩
  have safe : ∀ a ∈ ((object fields).itemsAt required y key).map form, named a = true :=
    (forall_named_iff distinct names known).2 fun item mem decodes _ name required =>
      not_hidesBlank_of_plainAt (plain item mem decodes name required)
  have complete :
      ((((y.itemsAt key).filter (object fields).decodes).map form).filter named).Sublist
        (((object fields).itemsAt required y key).map form) :=
    (filter_named_sublist_iff distinct names).2 fun item mem decodes _ name required =>
      not_hidesText_of_plainAt (plain item mem decodes name required)
  have only := decoded.filter named
  rw [List.filter_eq_self.2 safe] at only
  exact only.antisymm complete

end Items

end Schema

/-! ## Volumes and mounts -/

namespace Descriptor

/-- The volumes of a descriptor, and the mounts of each of its containers, are guarded by the keys
that those of a pod specification must have. -/
structure KeysGuarded (d : Descriptor) (pod : Yaml) : Prop where
  volumes : Schema.volume.IsGuarded ["name"] Volume.ofObject Volume.isNamed
    (pod.itemsAt "volumes") d.volumes
  mounts : ∀ role : ContainerRole, List.Forall₂
    (fun item c => Schema.volumeMount.IsGuarded ["name", "mountPath"] VolumeMount.ofObject
      VolumeMount.isNamed (item.itemsAt "volumeMounts") c.volumeMounts)
    ((pod.itemsAt role.key).filter Yaml.isMap) (role.containers d)

/-- The volumes and mounts of a manifest are guarded in its descriptor. -/
theorem keysGuarded_ofManifest (kind : Option Kind) {root : Yaml} (distinct : root.DistinctKeys) :
    KeysGuarded (ofManifest kind root) ((root.at? (podPath kind)).getD .null) := by
  have distinct : Yaml.DistinctKeys ((root.at? (podPath kind)).getD .null) := by
    cases found : root.at? (podPath kind) with
    | none => exact .leaf trivial rfl
    | some pod => exact distinct.at? found
  constructor
  case volumes =>
    refine Schema.isGuarded_itemsAt distinct (fun item => ?_)
      (List.forall_mem_singleton.2 (by simp))
    simp [Volume.isNamed, Volume.ofObject]
  case mounts =>
    intro role
    rw [role.containers_ofManifest, Container.listAt, List.forall₂_map_right_iff,
      List.forall₂_same]
    intro item mem
    have distinct := distinct.itemsAt _ item (List.mem_filter.1 mem).1
    refine Schema.isGuarded_itemsAt distinct (fun mount => ?_)
      (List.forall_mem_cons.2 ⟨by simp, List.forall_mem_singleton.2 (by simp)⟩)
    simp [VolumeMount.isNamed, VolumeMount.ofObject]

end Descriptor

namespace Manifest

open Descriptor (podPath)

/-- The volumes and mounts of a descriptor that is read of a manifest, given as a value without
equal keys or as a text, are those with texts under the required keys, as far as no tag hides a
blank or a text. -/
theorem keys_guarded (m : Manifest) :
    (∀ root, root.DistinctKeys → ofYaml root = .ok m →
      m.descriptor.KeysGuarded ((root.at? (podPath m.kind)).getD .null)) ∧
    ∀ s, ofText s = .ok m → ∃ root, Yaml.ofText? s = some root ∧
      m.descriptor.KeysGuarded ((root.at? (podPath m.kind)).getD .null) := by
  have ofValue (root : Yaml) (distinct : root.DistinctKeys) (read : ofYaml root = .ok m) :
      m.descriptor.KeysGuarded ((root.at? (podPath m.kind)).getD .null) := by
    obtain rfl := eq_ofRoot_of_ofYaml read
    exact Descriptor.keysGuarded_ofManifest _ distinct
  refine ⟨ofValue, fun s read => ?_⟩
  obtain ⟨root, written, read⟩ := exists_of_ofText read
  exact ⟨root, written, ofValue root (Yaml.distinctKeys_of_ofText? written) read⟩

/-- A mount whose name and path are blanks with tags. -/
def taggedMount : Yaml :=
  .dict [("name", .tagged "x" (.text "")), ("mountPath", .tagged "x" (.text " "))]

/-- A manifest of a container with that mount. -/
def taggedManifest : Yaml :=
  .dict [("spec", .dict [("template", .dict [("spec", .dict
    [("containers", .seq [.dict [("volumeMounts", .seq [taggedMount])]])])])])]

theorem distinctKeys_taggedManifest : taggedManifest.DistinctKeys := by
  have blank (s : String) : (Yaml.tagged "x" (.text s)).DistinctKeys :=
    (Yaml.distinctKeys_of_parts_eq_nil rfl).tagged "x"
  have single {key : String} {y : Yaml} (h : y.DistinctKeys) :
      (Yaml.dict [(key, y)]).DistinctKeys :=
    .dict (by simp) (List.forall_mem_singleton.2 h)
  have list {y : Yaml} (h : y.DistinctKeys) : (Yaml.seq [y]).DistinctKeys :=
    .intro trivial (List.forall_mem_singleton.2 h)
  have mount : taggedMount.DistinctKeys := .dict (by simp) (by simp [blank])
  exact single (single (single (single (list (single (list mount))))))

/-- The text of a manifest with a volume whose name is a blank with a tag, one with a tag on the key
of its name, and one without tags. -/
def taggedText : String :=
  "spec:\n  template:\n    spec:\n      volumes:\n"
    ++ "      - name: !x ' '\n      - !x name: lost\n      - name: cache\n"

/-- The mount is read with its blanks. Of the volumes the first one is read with its blank, and the
second one is not although it has a name. -/
theorem keys_guarded_tagged :
    (∃ m, taggedManifest.DistinctKeys ∧ ofYaml taggedManifest = .ok m ∧
      m.descriptor.KeysGuarded ((taggedManifest.at? (podPath m.kind)).getD .null) ∧
      m.descriptor.containers.map (fun c => c.volumeMounts.map fun v => (v.name, v.mountPath)) =
        [[("", " ")]]) ∧
    ∃ m, ofText taggedText = .ok m ∧
      (∃ root, Yaml.ofText? taggedText = some root ∧
        m.descriptor.KeysGuarded ((root.at? (podPath m.kind)).getD .null)) ∧
      m.descriptor.volumes.map (·.name) = [" ", "cache"] := by
  constructor
  case left =>
    exact ⟨_, distinctKeys_taggedManifest, rfl,
      (keys_guarded _).1 _ distinctKeys_taggedManifest rfl, by decide +kernel⟩
  case right =>
    have known : (ofText taggedText).toOption.any (fun m =>
        m.descriptor.volumes.map (·.name) = [" ", "cache"]) = true := by
      decide +kernel
    obtain ⟨m, accepted, names⟩ := exists_ok_of_any known
    exact ⟨m, accepted, (keys_guarded m).2 _ accepted, of_decide_eq_true names⟩

end Manifest

end WorkloadForms
