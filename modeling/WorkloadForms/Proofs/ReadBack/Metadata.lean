import WorkloadForms.Proofs.ReadBack

/-!
# What comes back of metadata

The labels and annotations of a manifest are maps from keys to values, although a descriptor lists
them in rows: a row counts when neither its key nor its value is empty, and of the rows that count
the last one under a key is the one that is written (`Row.last?`). `Descriptor.label?` and
`Descriptor.annotation?` are these maps. `Descriptor.metadata_survives` says that the manifest
carries them, that they come back as rows in the order of their keys, and that nothing changes when
rows are rearranged without a change to the maps (`Row.Rearranged`).
-/

namespace WorkloadForms

open Form Yaml

namespace Form.Row

/-! ## Rows that count -/

/-- Whether a row counts. -/
def IsUsable (r : Row) : Prop := r.key ≠ "" ∧ r.value ≠ ""

instance (r : Row) : Decidable r.IsUsable := inferInstanceAs (Decidable (_ ∧ _))

/-- The value of the last row under a key that counts. -/
def last? (rows : List Row) (key : String) : Option String :=
  (rows.filter fun r => r.IsUsable ∧ r.key = key).getLast?.map (·.value)

/-- Rows that list the entries of a map in the order of their keys. -/
structure Lists (value? : String → Option String) (rows : List Row) : Prop where
  increasing : rows.Pairwise fun a b => a.key < b.key
  complete : ∀ r, r ∈ rows ↔ value? r.key = some r.value

/-- A change of rows that says nothing new: neighbours with different keys are put into another
order, or a row is put in that does not count. -/
inductive Rearranged : List Row → List Row → Prop
  | reorder {rows rows' : List Row} (before behind : List Row)
      (distinct : rows.Pairwise fun a b => a.key ≠ b.key) (perm : rows.Perm rows') :
      Rearranged (before ++ rows ++ behind) (before ++ rows' ++ behind)
  | insert {r : Row} (before behind : List Row) (unusable : ¬r.IsUsable) :
      Rearranged (before ++ behind) (before ++ r :: behind)

theorem last?_append (rows rows' : List Row) (key : String) :
    last? (rows ++ rows') key = (last? rows' key).or (last? rows key) := by
  rw [last?, List.filter_append, List.getLast?_append, Option.map_or, last?, last?]

theorem last?_cons (r : Row) (rows : List Row) (key : String) :
    last? (r :: rows) key =
      (last? rows key).or (if r.IsUsable ∧ r.key = key then some r.value else none) := by
  rw [← List.singleton_append, last?_append]
  by_cases h : r.IsUsable ∧ r.key = key <;> simp [last?, h]

/-- A row that does not count may be put in anywhere. -/
theorem last?_insert {r : Row} (unusable : ¬r.IsUsable) (before behind : List Row) (key : String) :
    last? (before ++ r :: behind) key = last? (before ++ behind) key := by
  rw [last?_append, last?_cons, if_neg fun h => unusable h.1, Option.or_none, last?_append]

/-- Rows with different keys may come in any order. -/
theorem last?_perm {rows rows' : List Row} (distinct : rows.Pairwise fun a b => a.key ≠ b.key)
    (perm : rows.Perm rows') (key : String) : last? rows key = last? rows' key := by
  have single {l : List Row} (distinct : l.Pairwise fun a b => a.key ≠ b.key) :
      (l.filter fun r => r.IsUsable ∧ r.key = key).Pairwise fun _ _ => False := by
    refine List.pairwise_filter.2 (distinct.imp fun different first second => different ?_)
    simp only [decide_eq_true_eq] at first second
    rw [first.2, second.2]
  have distinct' : rows'.Pairwise fun a b => a.key ≠ b.key :=
    distinct.perm perm fun different => different.symm
  rw [last?, last?, List.Perm.eq_of_pairwise (fun _ _ _ _ impossible => impossible.elim)
    (single distinct) (single distinct') (perm.filter _)]

/-- Rearranging rows changes no value that counts. -/
theorem last?_of_rearranged {rows rows' : List Row} (h : Relation.EqvGen Rearranged rows rows')
    (key : String) : last? rows key = last? rows' key := by
  induction h with
  | rel _ _ step =>
    cases step with
    | reorder before behind distinct perm => simp only [last?_append, last?_perm distinct perm]
    | insert before behind unusable => rw [last?_insert unusable]
  | refl => rfl
  | symm _ _ _ ih => exact ih.symm
  | trans _ _ _ _ _ ih ih' => exact ih.trans ih'

/-- A row counts if there is a value that counts. -/
theorem exists_isUsable_iff {rows : List Row} :
    (∃ r ∈ rows, r.IsUsable) ↔ ∃ key, last? rows key ≠ none := by
  constructor
  · rintro ⟨r, hr, usable⟩
    refine ⟨r.key, fun none => ?_⟩
    have := List.getLast?_eq_none_iff.1 (Option.map_eq_none_iff.1 none)
    simpa [usable] using List.filter_eq_nil_iff.1 this r hr
  · rintro ⟨key, found⟩
    obtain ⟨value, found⟩ := Option.ne_none_iff_exists'.1 found
    obtain ⟨r, hr, -⟩ := Option.map_eq_some_iff.1 found
    obtain ⟨there, counts⟩ := List.mem_filter.1 (List.mem_of_getLast? hr)
    exact ⟨r, there, (of_decide_eq_true counts).1⟩

end Form.Row

/-- Whether a value is the mapping of these texts, in the order of their keys. -/
def Yaml.IsMapOf (value? : String → Option String) (y : Yaml) : Prop :=
  ∃ entries : Dictionary, y = ofDictionary entries ∧ ∀ key, entries.get? key = value? key

namespace Descriptor

/-! ## The maps of a descriptor -/

/-- The value of a label: that of the last row under its key that counts. Without a row that counts
there is one label, with the name of the workload. -/
def label? (d : Descriptor) (key : String) : Option String :=
  if ∃ r ∈ d.labels, r.IsUsable then Row.last? d.labels key
  else if key = "app" then some (textOr "example" (some d.name)) else none

/-- The value of an annotation: that of the last row under its key that counts. Without such a row
the description of the workload is an annotation, unless it is empty. -/
def annotation? (d : Descriptor) (key : String) : Option String :=
  (Row.last? d.annotations key).or
    (if key = "description" then d.description.filter (· ≠ "") else none)

/-- The metadata of a manifest: the labels of the descriptor, and its annotations if it has any. -/
structure CarriesMetadata (d : Descriptor) (y : Yaml) : Prop where
  labels : ∃ labels ∈ y.get? "labels", labels.IsMapOf d.label?
  annotations : (∃ key, d.annotation? key ≠ none) →
    ∃ annotations ∈ y.get? "annotations", annotations.IsMapOf d.annotation?
  plain : (∀ key, d.annotation? key = none) → y.get? "annotations" = none

/-- The metadata that comes back: a name and a namespace, the labels and annotations in the order of
their keys, and the annotation that is the description apart from the others. -/
structure MetadataIsReadAs (d n : Descriptor) : Prop where
  name : n.name = textOr "example" (some d.name)
  namespaceName : n.namespaceName = textOr "default" (some d.namespaceName)
  labels : Row.Lists d.label? n.labels
  description : n.description = d.annotation? "description"
  annotations :
    Row.Lists (fun key => if key = "description" then none else d.annotation? key) n.annotations

/-! ## The maps are what is written -/

/-- The last entry of the rows that count is that of the last row. -/
theorem lookup_reverse_usable (rows : List Row) (key : String) :
    (usable rows).reverse.lookup key = Row.last? rows key := by
  induction rows with
  | nil => rfl
  | cons r rows ih =>
    rw [Row.last?_cons, ← ih]
    by_cases h : r.IsUsable
    · have first : usable (r :: rows) = (r.key, r.value) :: usable rows := by
        simp_all [usable, Row.IsUsable]
      rw [first, List.reverse_cons, List.lookup_append, Dictionary.lookup_cons_eq]
      simp [h, eq_comm]
    · have first : usable (r :: rows) = usable rows := by
        rw [usable, List.filter_cons_of_neg, usable]
        simpa [Row.IsUsable] using h
      rw [first, if_neg fun usable => h usable.1, Option.or_none]

theorem usable_eq_nil_iff {rows : List Row} : usable rows = [] ↔ ¬∃ r ∈ rows, r.IsUsable := by
  simp [usable, Row.IsUsable]

/-- The labels of a manifest are those of the descriptor. -/
theorem get?_labelMap (d : Descriptor) (key : String) : d.labelMap.get? key = d.label? key := by
  rw [labelMap, Dictionary.isEmpty_ofList, label?]
  by_cases h : ∃ r ∈ d.labels, r.IsUsable
  · have some : (usable d.labels).isEmpty = false := by
      rwa [List.isEmpty_eq_false_iff, Ne, usable_eq_nil_iff, Decidable.not_not]
    rw [some, if_pos h, if_neg (by simp), Dictionary.get?_ofList, lookup_reverse_usable]
  · rw [usable_eq_nil_iff.2 h, if_neg h, textOr_eq]
    simp [Dictionary.get?_ofList, resolvedName, defaultName]

/-- The annotations of a manifest are those of the descriptor. -/
theorem get?_annotationMap (d : Descriptor) (key : String) :
    d.annotationMap.get? key = d.annotation? key := by
  rw [annotationMap_eq, Dictionary.get?_ofList, annotationEntries, List.reverse_append,
    List.lookup_append, lookup_reverse_usable, annotation?]
  congr 1
  cases d.description with
  | none => simp
  | some s =>
    by_cases h : s = "" <;>
      simp [filled, h, Option.filter_some, descriptionKey]

/-- A descriptor without annotations is one whose annotations have no value. -/
theorem isEmpty_annotationMap (d : Descriptor) :
    d.annotationMap.isEmpty = true ↔ ∀ key, d.annotation? key = none := by
  simp only [← get?_annotationMap]
  exact Dictionary.isEmpty_iff_get?

/-- The metadata of a manifest carries the maps of the descriptor. -/
theorem carriesMetadata_metadata (d : Descriptor) : d.CarriesMetadata d.metadata where
  labels := ⟨_, by simp [metadata], d.labelMap, rfl, d.get?_labelMap⟩
  annotations present := by
    have filled : ¬d.annotationMap.isEmpty = true := by
      rw [isEmpty_annotationMap]
      exact fun none => present.elim fun key there => there (none key)
    exact ⟨_, by simp [metadata, filled], d.annotationMap, rfl, d.get?_annotationMap⟩
  plain none := by simp [metadata, d.isEmpty_annotationMap.2 none]

/-! ## The maps are what comes back -/

/-- The rows of a dictionary, or of a part of it that is chosen by the keys, list its entries. -/
theorem lists_rowsOf {m : Dictionary} {value? : String → Option String} (chosen : String → Bool)
    (values : ∀ key, value? key = if chosen key then m.get? key else none) :
    Row.Lists value? (rowsOf (m.entries.filter fun e => chosen e.1)) where
  increasing := List.pairwise_map.2 (m.increasing.filter _)
  complete r := by
    rw [values]
    constructor
    · intro there
      obtain ⟨e, he, rfl⟩ := List.mem_map.1 there
      obtain ⟨entry, kept⟩ := List.mem_filter.1 he
      rw [if_pos kept, Dictionary.get?_eq_some_iff]
      exact entry
    · intro valued
      obtain ⟨kept, found⟩ := Option.ite_none_right_eq_some.1 valued
      exact List.mem_map.2
        ⟨_, List.mem_filter.2 ⟨Dictionary.get?_eq_some_iff.1 found, kept⟩, rfl⟩

/-- What comes back has the metadata of the descriptor. -/
theorem metadataIsReadAs_normalMetadata (base d : Descriptor) :
    d.MetadataIsReadAs (base.normalMetadata d) where
  name := (textOr_eq "example" (some d.name)).symm
  namespaceName := (textOr_eq "default" (some d.namespaceName)).symm
  labels := by
    have all : Row.Lists d.label? (rowsOf (d.labelMap.entries.filter fun _ => true)) :=
      lists_rowsOf (fun _ => true) fun key => (d.get?_labelMap key).symm
    rwa [List.filter_eq_self.2 fun _ _ => rfl] at all
  description := d.get?_annotationMap _
  annotations := lists_rowsOf (· != descriptionKey) fun key => by
    by_cases h : key = "description" <;> simp [h, descriptionKey, get?_annotationMap]

/-! ## Rearranged rows -/

/-- Rows that are rearranged give the same labels. -/
theorem labelMap_of_rearranged {d e : Descriptor} (name : e.name = d.name)
    (labels : Relation.EqvGen Row.Rearranged d.labels e.labels) : e.labelMap = d.labelMap := by
  have usable : (∃ r ∈ e.labels, r.IsUsable) ↔ ∃ r ∈ d.labels, r.IsUsable := by
    simp only [Row.exists_isUsable_iff, Row.last?_of_rearranged labels]
  refine Dictionary.ext_get? fun key => ?_
  rw [get?_labelMap, get?_labelMap, label?, label?, name, Row.last?_of_rearranged labels]
  simp only [usable]

/-- Rows that are rearranged give the same annotations. -/
theorem annotationMap_of_rearranged {d e : Descriptor} (description : e.description = d.description)
    (annotations : Relation.EqvGen Row.Rearranged d.annotations e.annotations) :
    e.annotationMap = d.annotationMap := by
  refine Dictionary.ext_get? fun key => ?_
  rw [get?_annotationMap, get?_annotationMap, annotation?, annotation?, description,
    Row.last?_of_rearranged annotations]

/-- Rearranging labels and annotations does not change the manifest. -/
theorem manifest_of_rearranged (k : Kind) (d : Descriptor) {labels annotations : List Row}
    (hl : Relation.EqvGen Row.Rearranged d.labels labels)
    (ha : Relation.EqvGen Row.Rearranged d.annotations annotations) :
    ({ d with labels, annotations } : Descriptor).manifest k = d.manifest k := by
  have label : ({ d with labels, annotations } : Descriptor).labelMap = d.labelMap :=
    labelMap_of_rearranged rfl hl
  have annotation : ({ d with labels, annotations } : Descriptor).annotationMap = d.annotationMap :=
    annotationMap_of_rearranged rfl ha
  have template (policy : Option String) :
      ({ d with labels, annotations } : Descriptor).podTemplate policy = d.podTemplate policy := by
    rw [podTemplate, label]
    rfl
  simp only [manifest, metadata, label, annotation]
  cases k <;> simp only [spec, jobSpec, selector, template, label] <;> rfl

/-- The manifest of every kind carries the labels and annotations of the descriptor, each with the
value of the last row that counts, and the metadata comes back from it in the order of the keys. The
manifest does not change when rows are rearranged. -/
theorem metadata_survives (k : Kind) (d : Descriptor) :
    (∃ metadata ∈ (d.manifest k).get? "metadata", d.CarriesMetadata metadata) ∧
      (∃ n, ReadsBack k d n ∧ d.MetadataIsReadAs n) ∧
      ∀ labels annotations, Relation.EqvGen Row.Rearranged d.labels labels →
        Relation.EqvGen Row.Rearranged d.annotations annotations →
          ({ d with labels, annotations } : Descriptor).manifest k = d.manifest k := by
  refine ⟨?carried, ⟨d.normal k, readsBack_normal k d, ?read⟩, ?rearranged⟩
  case carried => exact ⟨d.metadata, metadata_manifest k d, d.carriesMetadata_metadata⟩
  case read =>
    rw [← normalMetadata_normal]
    exact metadataIsReadAs_normalMetadata _ d
  case rearranged => exact fun _ _ => manifest_of_rearranged k d

/-- A workload with two labels and an annotation. -/
def tiered : Descriptor where
  labels := [⟨"app", "shop"⟩, ⟨"tier", "front"⟩]
  annotations := [⟨"note", "new"⟩]

/-- Its labels may change places, and an annotation without a value may be put in. -/
theorem tiered_rearranged :
    Relation.EqvGen Row.Rearranged tiered.labels [⟨"tier", "front"⟩, ⟨"app", "shop"⟩] ∧
      Relation.EqvGen Row.Rearranged tiered.annotations [⟨"owner", ""⟩, ⟨"note", "new"⟩] ∧
      ({ tiered with
        labels := [⟨"tier", "front"⟩, ⟨"app", "shop"⟩]
        annotations := [⟨"owner", ""⟩, ⟨"note", "new"⟩] } : Descriptor).manifest .job =
        tiered.manifest .job := by
  have labels : Relation.EqvGen Row.Rearranged tiered.labels [⟨"tier", "front"⟩, ⟨"app", "shop"⟩] :=
    .rel _ _ (@Row.Rearranged.reorder tiered.labels _ [] [] (by decide) (.swap ..))
  have annotations : Relation.EqvGen Row.Rearranged tiered.annotations
      [⟨"owner", ""⟩, ⟨"note", "new"⟩] :=
    .rel _ _ (.insert [] tiered.annotations (by decide))
  exact ⟨labels, annotations, (metadata_survives .job tiered).2.2 _ _ labels annotations⟩

end Descriptor

end WorkloadForms
