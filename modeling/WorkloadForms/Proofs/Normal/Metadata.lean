import WorkloadForms.Manifest.Metadata
import WorkloadForms.Proofs.Object
import WorkloadForms.Proofs.Text.Dictionary

/-!
# The normal form of metadata

What becomes of the metadata of a descriptor that is written to a manifest and read back: its rows
come back sorted by their keys, one for each key, and the description is the annotation of that
name (`Descriptor.normalMetadata`). `Descriptor.withMetadata_metadata` says that this is what is
read, `Descriptor.metadata_normalMetadata` that it is written like the metadata itself.
-/

namespace WorkloadForms.Descriptor

open Form Yaml

/-! ## Rows -/

/-- Whether neither the key nor the value of an entry is empty. -/
def Counts (e : String × String) : Prop := e.1 ≠ "" ∧ e.2 ≠ ""

/-- The entries that rows count as do count. -/
theorem counts_of_mem_usable {rows : List Row} {e : String × String} (h : e ∈ usable rows) :
    Counts e := by
  obtain ⟨r, hr, rfl⟩ := List.mem_map.1 h
  simpa [Counts] using (List.mem_filter.1 hr).2

/-- The rows of entries that count are these entries. -/
theorem usable_rowsOf {es : List (String × String)} (h : ∀ e ∈ es, Counts e) :
    usable (rowsOf es) = es := by
  rw [usable, List.filter_eq_self.2, rowsOf, List.map_map]
  · exact List.map_id es
  · intro r hr
    obtain ⟨e, he, rfl⟩ := List.mem_map.1 hr
    simpa [Counts] using h e he

/-! ## Names and labels -/

theorem descriptionKey_ne_empty : descriptionKey ≠ "" := by decide
@[simp] theorem defaultName_ne_empty : defaultName ≠ "" := by decide
@[simp] theorem defaultNamespace_ne_empty : defaultNamespace ≠ "" := by decide

/-- The name in a manifest is not empty. -/
@[simp] theorem filled_resolvedName (d : Descriptor) :
    filled d.resolvedName = some d.resolvedName :=
  filled_getD (by decide)

theorem resolvedName_ne_empty (d : Descriptor) : d.resolvedName ≠ "" :=
  (filled_eq_some_iff.1 d.filled_resolvedName).1

/-- The labels of a manifest count. -/
theorem counts_of_mem_labelMap {d : Descriptor} {e : String × String}
    (h : e ∈ d.labelMap.entries) : Counts e := by
  rw [labelMap] at h
  split at h
  · obtain rfl := List.mem_singleton.1 (Dictionary.mem_of_mem_ofList h)
    exact ⟨by simp, d.resolvedName_ne_empty⟩
  · exact counts_of_mem_usable (Dictionary.mem_of_mem_ofList h)

/-- A manifest has a label. -/
theorem isEmpty_labelMap (d : Descriptor) : d.labelMap.isEmpty = false := by
  rw [labelMap]
  split
  · rw [Dictionary.isEmpty_ofList]
    rfl
  · next filled => exact Bool.eq_false_iff.2 filled

/-- The labels of a descriptor whose rows are those of a manifest. -/
theorem labelMap_of_rows {d n : Descriptor} (labels : n.labels = rowsOf d.labelMap.entries) :
    n.labelMap = d.labelMap := by
  rw [labelMap, labels, usable_rowsOf fun _ => counts_of_mem_labelMap, Dictionary.ofList_entries]
  simp [isEmpty_labelMap]

/-! ## Annotations -/

/-- The entries that the annotations of a descriptor are entered from. -/
def annotationEntries (d : Descriptor) : List (String × String) :=
  ((d.description.bind filled).map fun s => (descriptionKey, s)).toList ++ usable d.annotations

theorem annotationMap_eq (d : Descriptor) :
    d.annotationMap = Dictionary.ofList d.annotationEntries := by
  rw [annotationMap, annotationEntries]
  cases d.description.bind filled <;> rfl

/-- The annotations of a manifest count. -/
theorem counts_of_mem_annotationMap {d : Descriptor} {e : String × String}
    (h : e ∈ d.annotationMap.entries) : Counts e := by
  rw [annotationMap_eq] at h
  rcases List.mem_append.1 (Dictionary.mem_of_mem_ofList h) with h | h
  · obtain ⟨s, hs, rfl⟩ := Option.map_eq_some_iff.1 (Option.mem_toList.1 h)
    obtain ⟨t, -, ht⟩ := Option.bind_eq_some_iff.1 hs
    obtain ⟨filled, rfl⟩ := filled_eq_some_iff.1 ht
    exact ⟨descriptionKey_ne_empty, filled⟩
  · exact counts_of_mem_usable h

/-- Looking up a key among the annotations that are not the description. -/
theorem lookup_filter_descriptionKey (es : List (String × String)) (key : String) :
    (es.filter fun e => e.1 != descriptionKey).lookup key =
      if key = descriptionKey then none else es.lookup key := by
  induction es with
  | nil => simp
  | cons e es ih =>
    by_cases he : e.1 = descriptionKey
    · rw [List.filter_cons_of_neg (by simp [he]), ih]
      by_cases hk : key = descriptionKey <;> simp [he, hk]
    · rw [List.filter_cons_of_pos (by simp [he]), Dictionary.lookup_cons_eq, ih]
      by_cases hk : key = descriptionKey <;> simp [Ne.symm he, hk]

/-- The annotations of a descriptor whose rows and description are those of a manifest. -/
theorem annotationMap_of_rows {d n : Descriptor}
    (description : n.description = d.annotationMap.get? descriptionKey)
    (annotations : n.annotations =
      rowsOf (d.annotationMap.entries.filter fun e => e.1 != descriptionKey)) :
    n.annotationMap = d.annotationMap := by
  have counted : (d.annotationMap.get? descriptionKey).bind filled =
      d.annotationMap.get? descriptionKey := by
    cases h : d.annotationMap.get? descriptionKey with
    | none => rfl
    | some s =>
      have := (counts_of_mem_annotationMap (Dictionary.get?_eq_some_iff.1 h)).2
      exact filled_eq_some_iff.2 ⟨this, rfl⟩
  have rest : (d.annotationMap.entries.filter fun e => e.1 != descriptionKey).Pairwise
      fun a b => a.1 ≠ b.1 := d.annotationMap.distinct.filter _
  rw [annotationMap_eq n, annotationEntries, description, annotations, counted,
    usable_rowsOf fun e he => counts_of_mem_annotationMap (List.mem_filter.1 he).1]
  apply Dictionary.ext_get?
  intro key
  rw [Dictionary.get?_ofList, List.reverse_append, List.lookup_append,
    Dictionary.lookup_reverse rest, lookup_filter_descriptionKey]
  by_cases hk : key = descriptionKey
  · rw [if_pos hk, Option.none_or, hk]
    cases d.annotationMap.get? descriptionKey <;> simp
  · rw [if_neg hk]
    cases d.annotationMap.get? descriptionKey <;> simp [hk, Dictionary.get?]

/-! ## Metadata -/

/-- The metadata of a descriptor as it comes back, put into another descriptor. -/
def normalMetadata (base d : Descriptor) : Descriptor :=
  { base with
    name := d.resolvedName
    namespaceName := (filled d.namespaceName).getD defaultNamespace
    description := d.annotationMap.get? descriptionKey
    labels := rowsOf d.labelMap.entries
    annotations := rowsOf (d.annotationMap.entries.filter fun e => e.1 != descriptionKey) }

/-- What is read of the metadata of a descriptor is its normal form. -/
theorem withMetadata_metadata (base d : Descriptor) :
    base.withMetadata d.metadata = base.normalMetadata d := by
  have annotations : d.metadata.rowsAt "annotations" = d.annotationMap.entries :=
    rowsAt_eq (by simp [metadata])
  have labels : d.metadata.rowsAt "labels" = d.labelMap.entries := by
    simp [metadata, rowsAt]
  rw [withMetadata, annotations, labels]
  simp [normalMetadata, metadata, textAt?, Dictionary.get?]

/-! ## Writing the normal form -/

section Normal

variable {n d : Descriptor} (normal : n.normalMetadata d = n)

include normal

/-- A descriptor with the metadata of another one in normal form has its name. -/
theorem resolvedName_normal : n.resolvedName = d.resolvedName := by
  have name : n.name = d.resolvedName := by rw [← normal]; rfl
  rw [resolvedName, name, filled_resolvedName, Option.getD_some]

/-- A descriptor with the metadata of another one in normal form has its labels. -/
theorem labelMap_normal : n.labelMap = d.labelMap := labelMap_of_rows (by rw [← normal]; rfl)

/-- Metadata and its normal form are written alike. -/
theorem metadata_normal : n.metadata = d.metadata := by
  have annotations : n.annotationMap = d.annotationMap :=
    annotationMap_of_rows (by rw [← normal]; rfl) (by rw [← normal]; rfl)
  have space : (filled n.namespaceName).getD defaultNamespace =
      (filled d.namespaceName).getD defaultNamespace := by
    rw [← normal]
    simp [normalMetadata]
  rw [metadata, annotations, labelMap_normal normal, resolvedName_normal normal, space, metadata]

end Normal

end WorkloadForms.Descriptor
