import WorkloadForms.Manifest.Entry

/-!
# Values that differ in one place

Two YAML values that differ in one place only: under one key (`Yaml.AgreeBut`), at the end of a path
(`Yaml.Within`), or in one item of a sequence (`Yaml.DifferInItem`). What is read from elsewhere is
the same: `Yaml.Within.at?_eq` for a place that lies apart from the path, and `Listing.isolates` for
the other items of a sequence that is read item by item.
-/

namespace WorkloadForms

namespace Yaml

/-! ## Places -/

/-- The value under a key, and null when there is none. -/
def under (y : Yaml) (key : String) : Yaml := (y.get? key).getD .null

/-- The value at the end of a path, and null when there is none. -/
def reach (y : Yaml) (path : List String) : Yaml := (y.at? path).getD .null

variable {key : String} {path : List String} {a b : Yaml}

@[simp] theorem reach_nil (y : Yaml) : y.reach [] = y := rfl

@[simp] theorem reach_cons (y : Yaml) : y.reach (key :: path) = (y.under key).reach path := by
  rw [reach, at?, reach, under]
  cases y.get? key with
  | some v => rfl
  | none => cases path <;> rfl

/-- A path that goes on from the value under a key. -/
theorem at?_under (y : Yaml) (further : path ≠ []) :
    (y.under key).at? path = y.at? (key :: path) := by
  rw [at?, under]
  cases y.get? key with
  | some v => rfl
  | none =>
    obtain ⟨first, rest, rfl⟩ := List.exists_cons_of_ne_nil further
    rfl

/-- A key of the value at the end of a path is one more key of the path. -/
theorem get?_reach (y : Yaml) : (y.reach path).get? key = y.at? (path ++ [key]) := by
  induction path generalizing y with
  | nil => simp [at?]
  | cons first rest ih => rw [reach_cons, ih, at?_under y (by simp), List.cons_append]

theorem reach_append (y : Yaml) : y.reach (path ++ [key]) = (y.reach path).under key := by
  rw [reach, ← get?_reach, under]

/-- The items of the sequence at the end of a path. -/
theorem items_reach (y : Yaml) :
    (y.reach (path ++ [key])).items?.getD [] = (y.reach path).itemsAt key := by
  rw [reach_append, under, itemsAt]
  cases (y.reach path).get? key <;> rfl

/-! ## Differences -/

/-- Two values have the same under all keys but one. -/
def AgreeBut (key : String) (a b : Yaml) : Prop :=
  ∀ other, other ≠ key → a.get? other = b.get? other

/-- Mappings with the same entries but for those of one key have the same under all other keys. -/
theorem agreeBut_map (before behind : List (Yaml × Yaml)) {x y : List (Yaml × Yaml)}
    (left : ∀ e ∈ x, e.1 = .text key) (right : ∀ e ∈ y, e.1 = .text key) :
    AgreeBut key (.map (before ++ x ++ behind)) (.map (before ++ y ++ behind)) := by
  intro other ne
  have pass {es : List (Yaml × Yaml)} (h : ∀ e ∈ es, e.1 = .text key) :
      es.find? (fun e => e.1.isText other) = none := by
    refine List.find?_eq_none.2 fun e mem => ?_
    rw [h e mem, isText]
    simpa using ne.symm
  change find? other _ = find? other _
  simp only [find?, List.find?_append, pass left, pass right]

/-- Nothing differs beside a path, and the values at its end are related. -/
def Within (r : Yaml → Yaml → Prop) : List String → Yaml → Yaml → Prop
  | [], a, b => r a b
  | key :: path, a, b => AgreeBut key a b ∧ Within r path (a.under key) (b.under key)

/-- Two sequences have the same items but for one, which may be missing in one of them. -/
def DifferInItem (before : List Yaml) (x y : Option Yaml) (behind : List Yaml) (a b : Yaml) :
    Prop :=
  a.items? = some (before ++ x.toList ++ behind) ∧ b.items? = some (before ++ y.toList ++ behind)

/-- None of two paths goes on from the end of the other one. -/
def Apart (p q : List String) : Prop := ¬ p <+: q ∧ ¬ q <+: p

variable {r s : Yaml → Yaml → Prop}

namespace Within

theorem mono (h : Within r path a b) (weaker : ∀ a b, r a b → s a b) : Within s path a b := by
  induction path generalizing a b with
  | nil => exact weaker _ _ h
  | cons key path ih => exact ⟨h.1, ih h.2⟩

theorem reach (h : Within r path a b) : r (a.reach path) (b.reach path) := by
  induction path generalizing a b with
  | nil => exact h
  | cons key path ih =>
    rw [reach_cons, reach_cons]
    exact ih h.2

/-- Values that differ within a path have the same at every path apart from it. -/
theorem at?_eq {q : List String} (h : Within r path a b) (apart : Apart path q) :
    a.at? q = b.at? q := by
  induction path generalizing a b q with
  | nil => exact absurd List.nil_prefix apart.1
  | cons key path ih =>
    cases q with
    | nil => exact absurd List.nil_prefix apart.2
    | cons first rest =>
      by_cases same : first = key
      · -- Along the path: what lies apart from it also lies apart from its rest.
        subst same
        have apart : Apart path rest := by simpa [Apart, List.cons_prefix_cons] using apart
        have further : rest ≠ [] := by
          rintro rfl
          exact apart.2 List.nil_prefix
        rw [← at?_under a further, ← at?_under b further, ih h.2 apart]
      · rw [at?, at?, h.1 first same]

end Within

/-! ## Readings of one key -/

variable {β γ : Type}

/-- A reading looks at nothing but the value under one key. -/
def Reads (key : String) (f : Yaml → β) : Prop :=
  ∀ ⦃a b : Yaml⦄, a.get? key = b.get? key → f a = f b

theorem reads_get? : Reads key (·.get? key) := fun _ _ same => same

theorem Reads.map {f : Yaml → β} (reads : Reads key f) (g : β → γ) : Reads key (fun y => g (f y)) :=
  fun _ _ same => congrArg g (reads same)

theorem reads_textAt? : Reads key (·.textAt? key) := reads_get?.map (·.bind text?)

theorem reads_int32At? : Reads key (·.int32At? key) := reads_get?.map (·.bind int32?)

theorem reads_int64At? : Reads key (·.int64At? key) := reads_get?.map (·.bind int64?)

theorem reads_flagAt : Reads key (·.flagAt key) := reads_get?.map fun v => (v.bind flag?).getD false

theorem reads_wordAt? [Vocabulary β] : Reads key (fun y => (y.wordAt? key : Option β)) :=
  reads_textAt?.map (·.bind Vocabulary.ofWord?)

theorem reads_itemsAt : Reads key (·.itemsAt key) := reads_get?.map fun v => (v.bind items?).getD []

theorem reads_linesAt : Reads key (·.linesAt key) :=
  reads_itemsAt.map fun items => Text.joined '\n' (items.filterMap text?)

theorem reads_rowsAt : Reads key (·.rowsAt key) := reads_get?.map fun v => (v.map rowsOf).getD []

end Yaml

open Yaml

theorem Schema.reads_at? (schema : Schema) {key : String} : Reads key (schema.at? · key) :=
  reads_get?.map schema.read?

theorem Schema.reads_itemsAt (schema : Schema) (required : List String) {key : String} :
    Reads key (schema.itemsAt required · key) :=
  Yaml.reads_itemsAt.map _

/-! ## Lists that are read item by item -/

/-- The form of an item of a type that has all the keys required. Other items are dropped. -/
def Schema.item? {β : Type} (schema : Schema) (required : List String) (form? : Yaml → Option β)
    (item : Yaml) : Option β :=
  if required.all item.hasKey && !item.holdsNull && schema.accepts item then form? item else none

/-- The items of a type are read item by item. -/
theorem Schema.filterMap_itemsAt {β : Type} (schema : Schema) (required : List String)
    (form? : Yaml → Option β) (y : Yaml) (key : String) :
    (schema.itemsAt required y key).filterMap form? =
      (y.itemsAt key).filterMap (schema.item? required form?) := by
  rw [itemsAt, List.filterMap_filter]
  rfl

/-- The items of a type are read item by item. -/
theorem Schema.map_itemsAt {β : Type} (schema : Schema) (required : List String)
    (form : Yaml → β) (y : Yaml) (key : String) :
    (schema.itemsAt required y key).map form =
      (y.itemsAt key).filterMap (schema.item? required (some ∘ form)) := by
  rw [← filterMap_itemsAt, List.filterMap_eq_map]

/-- A list in what is read from a value: where the mapping is that has it, its key, and the form of
an item, unless the item is dropped. -/
structure Listing {ρ : Type} (read : Yaml → ρ) (β : Type) where
  part : List String
  key : String
  form? : Yaml → Option β
  forms : ρ → List β
  reads : ∀ y, forms (read y) = ((y.reach part).itemsAt key).filterMap form?

namespace Listing

variable {ρ β : Type} {read : Yaml → ρ} {a b : Yaml}

/-- The path to the sequence. -/
def path (l : Listing read β) : List String := l.part ++ [l.key]

/-- One item has a bearing on its own form only: where two values differ in one item of the list,
the forms of the others are the same and in the same order, and nothing differs beside the list. -/
def Isolates (l : Listing read β) (beside : ρ → ρ → Prop) (a b : Yaml) (r s : ρ) : Prop :=
  ∀ before x y behind, Within (DifferInItem before x y behind) l.path a b →
    beside r s ∧
    l.forms r = before.filterMap l.form? ++ (x.bind l.form?).toList ++ behind.filterMap l.form? ∧
    l.forms s = before.filterMap l.form? ++ (y.bind l.form?).toList ++ behind.filterMap l.form?

/-- The forms of a list with one item marked. -/
theorem forms_of_items? (l : Listing read β) {y : Yaml} {before behind : List Yaml}
    {x : Option Yaml} (items : (y.reach l.path).items? = some (before ++ x.toList ++ behind)) :
    l.forms (read y) =
      before.filterMap l.form? ++ (x.bind l.form?).toList ++ behind.filterMap l.form? := by
  have one : x.toList.filterMap l.form? = (x.bind l.form?).toList := by
    cases x with
    | none => rfl
    | some x => cases form : l.form? x <;> simp [form]
  rw [l.reads, ← items_reach, ← path, items, Option.getD_some, List.filterMap_append,
    List.filterMap_append, one]

/-- A list that is read item by item isolates its items, if what differs in it does not show beside
it. -/
theorem isolates (l : Listing read β) {beside : ρ → ρ → Prop}
    (other : Within (fun _ _ => True) l.path a b → beside (read a) (read b)) :
    l.Isolates beside a b (read a) (read b) := fun _ _ _ _ differ =>
  ⟨other (differ.mono fun _ _ _ => trivial), l.forms_of_items? differ.reach.1,
    l.forms_of_items? differ.reach.2⟩

end Listing

end WorkloadForms
