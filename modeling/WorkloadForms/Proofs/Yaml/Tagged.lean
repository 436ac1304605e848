import WorkloadForms.Proofs.Object
import WorkloadForms.Proofs.Yaml.Tree

/-!
# Keys and values with tags

A lookup passes over the keys with a tag, and takes any value with a tag for one that is filled;
an object has the last entry with a key, under any tags. So a tag can hide from the lookup of a key
that its text is blank (`Yaml.HidesBlank`), and it can hide a text (`Yaml.HidesText`). Of a value
without equal keys nothing else can: `Schema.blank_fieldText_iff` and `Schema.hidesText_iff`.
-/

namespace WorkloadForms

namespace Yaml

/-! ## First and last entries -/

/-- The last item that satisfies a condition is the first one when at most one does. -/
theorem getLast?_filter_eq_find? {p : α → Bool} {l : List α}
    (once : l.Pairwise fun a b => p a = true → p b = false) :
    (l.filter p).getLast? = l.find? p := by
  induction l with
  | nil => rfl
  | cons a l ih =>
    obtain ⟨first, rest⟩ := List.pairwise_cons.1 once
    cases ha : p a with
    | false =>
      rw [List.filter_cons_of_neg (by simp [ha]), List.find?_cons_of_neg (by simp [ha]), ih rest]
    | true =>
      have none : l.filter p = [] := List.filter_eq_nil_iff.2 fun b hb => by simp [first b hb ha]
      rw [List.filter_cons_of_pos ha, List.find?_cons_of_pos ha, none]
      rfl

/-- The last item is still the last one when those that fail a condition are left out, if it
satisfies the condition. -/
theorem getLast?_filter_of_getLast? {p : α → Bool} {l : List α} {a : α} (last : l.getLast? = some a)
    (ha : p a = true) : (l.filter p).getLast? = some a := by
  obtain ⟨front, rfl⟩ := List.getLast?_eq_some_iff.1 last
  simp [List.filter_append, ha]

theorem isText_eq_true_iff {y : Yaml} {s : String} : y.isText s = true ↔ y = .text s := by
  cases y <;> simp [isText]

/-- At most one of the entries of a mapping without equal keys has a text as its key. -/
theorem pairwise_isText {es : List (Yaml × Yaml)} (distinct : (map es).KeysDiffer) (key : String) :
    es.Pairwise fun a b => a.1.isText key = true → b.1.isText key = false := by
  refine List.Pairwise.imp (fun {a b} differ ha => ?_) distinct
  refine Bool.eq_false_iff.2 fun hb => ?_
  rw [isText_eq_true_iff.1 ha, isText_eq_true_iff.1 hb, same, beq_self_eq_true] at differ
  cases differ

/-- A text without a tag is the value that has it. -/
theorem eq_text_of_hasTag {y : Yaml} {s : String} (text : y.string? = some s)
    (plain : y.hasTag = false) : y = .text s := by
  cases y with
  | text t => exact congrArg Yaml.text (Option.some.inj text)
  | tagged tag content => cases plain
  | _ => cases text

/-! ## What is found under a key -/

/-- The entry that an object has for a key: the last one whose key is that text, under any tags. -/
def pair? (y : Yaml) (key : String) : Option (Yaml × Yaml) :=
  y.entries?.bind fun es => (es.filter fun e => e.1.string? == some key).getLast?

/-- The text of a required field is that of the entry for it, and empty without one. -/
theorem fieldText_eq_pair? (y : Yaml) (key : String) :
    y.fieldText key = ((y.pair? key).bind (·.2.string?)).getD "" := by
  rw [fieldText, fieldText?_eq, last?, pair?, Option.bind_map]
  rfl

/-- The entry for a key is one of the entries with the key. -/
theorem mem_of_pair? {y : Yaml} {key : String} {e : Yaml × Yaml} (found : y.pair? key = some e) :
    ∃ es, y.entries? = some es ∧ e ∈ es ∧ e.1.string? = some key := by
  obtain ⟨es, has, last⟩ := Option.bind_eq_some_iff.1 found
  obtain ⟨mem, keyed⟩ := List.mem_filter.1 (List.mem_of_getLast? last)
  exact ⟨es, has, mem, by simpa using keyed⟩

/-- A key that is looked up has an entry. -/
theorem exists_pair?_of_get? {y v : Yaml} {key : String} (found : y.get? key = some v) :
    ∃ e, y.pair? key = some e := by
  obtain ⟨es, has, found⟩ := Option.bind_eq_some_iff.1 found
  obtain ⟨e, he, -⟩ := Option.map_eq_some_iff.1 found
  have keyed : e.1 = .text key := isText_eq_true_iff.1 (by simpa using List.find?_some he)
  have mem : e ∈ es.filter fun e => e.1.string? == some key :=
    List.mem_filter.2 ⟨List.mem_of_find?_eq_some he, by rw [keyed]; simp [string?, untagged]⟩
  rw [pair?, has, Option.bind_some]
  exact ⟨_, List.getLast?_eq_some_getLast (List.ne_nil_of_mem mem)⟩

/-- The entry for a key is the one that is looked up, if its key has no tag. -/
theorem get?_of_pair? {y : Yaml} {key : String} {e : Yaml × Yaml} (distinct : y.DistinctKeys)
    (found : y.pair? key = some e) (plain : e.1.hasTag = false) : y.get? key = some e.2 := by
  obtain ⟨-, -, -, keyed⟩ := mem_of_pair? found
  have keyed : e.1.isText key = true := isText_eq_true_iff.2 (eq_text_of_hasTag keyed plain)
  obtain ⟨es, has, last⟩ := Option.bind_eq_some_iff.1 found
  have texts : (es.filter fun e => e.1.string? == some key).filter (·.1.isText key) =
      es.filter (·.1.isText key) := by
    rw [List.filter_filter]
    refine List.filter_congr fun e _ => ?_
    cases h : e.1.isText key with
    | false => rfl
    | true => rw [isText_eq_true_iff.1 h]; simp [string?, untagged]
  have first := getLast?_filter_of_getLast? (p := (·.1.isText key)) last keyed
  rw [texts, getLast?_filter_eq_find? (pairwise_isText (distinct.entries has).here key)] at first
  rw [get?, has, Option.bind_some, find?, first]
  rfl

/-- A key has a value that is not null, nor a blank text. -/
theorem exists_of_hasKey {y : Yaml} {key : String} (h : y.hasKey key = true) :
    ∃ v, y.get? key = some v ∧ v ≠ .null ∧ ∀ s, v = .text s → Text.blank s = false := by
  rw [hasKey] at h
  split at h
  · cases h
  · cases h
  · next s found => exact ⟨_, found, by simp, by simpa using h⟩
  · next v null text found => exact ⟨v, found, null, fun s is => (text s is).elim⟩

/-- A key is not there when a lookup finds nothing, null or a blank text. -/
theorem hasKey_eq_false_iff {y : Yaml} {key : String} :
    y.hasKey key = false ↔
      ∀ v, y.get? key = some v → v = .null ∨ ∃ s, v = .text s ∧ Text.blank s = true := by
  rw [hasKey]
  cases y.get? key with
  | none => simp
  | some v => cases v <;> simp

/-! ## What a tag hides -/

/-- The entry for a key, if there is one, has no tag on its key or its value. -/
def PlainAt (y : Yaml) (key : String) : Prop :=
  ∀ e, y.pair? key = some e → e.1.hasTag = false ∧ e.2.hasTag = false

/-- The entry for a key has a tag on its key or its value, and no text but a blank one. -/
def HidesBlank (y : Yaml) (key : String) : Prop :=
  ∃ e, y.pair? key = some e ∧ (e.1.hasTag = true ∨ e.2.hasTag = true) ∧
    ∀ s, e.2.string? = some s → Text.blank s = true

/-- The entry for a key has a tag on its key and a text that is not blank, and no more than null or
a blank text stands under the key without a tag. -/
def HidesText (y : Yaml) (key : String) : Prop :=
  (∃ e s, y.pair? key = some e ∧ e.1.hasTag = true ∧ e.2.string? = some s ∧
    Text.blank s = false) ∧
  ∀ v, y.get? key = some v → v = .null ∨ ∃ s, v = .text s ∧ Text.blank s = true

theorem not_hidesBlank_of_plainAt {y : Yaml} {key : String} (plain : y.PlainAt key) :
    ¬y.HidesBlank key := by
  rintro ⟨e, found, tag | tag, -⟩
  · simp [(plain e found).1] at tag
  · simp [(plain e found).2] at tag

theorem not_hidesText_of_plainAt {y : Yaml} {key : String} (plain : y.PlainAt key) :
    ¬y.HidesText key := by
  rintro ⟨⟨e, s, found, tag, -⟩, -⟩
  simp [(plain e found).1] at tag

/-- A value without tags is plain at every key. -/
theorem TagFree.plainAt {y : Yaml} (free : y.TagFree) (key : String) : y.PlainAt key := by
  intro e found
  obtain ⟨es, has, mem, -⟩ := mem_of_pair? found
  have free : TagFree (.map es) := Everywhere.entries free has
  exact ⟨(free.key e mem).here, (free.value e mem).here⟩

end Yaml

namespace Schema

open Yaml

/-! ## Fields of objects of a type -/

/-- The known fields of entries are null or of their types. -/
theorem acceptsFields_iff {fields : List (String × Schema)} {es : List (Yaml × Yaml)} :
    acceptsFields fields es = true ↔
      ∀ f ∈ fields, ∀ e ∈ es, e.1.string? = some f.1 →
        e.2.isNull = true ∨ f.2.accepts e.2 = true := by
  simp [acceptsFields_eq_all, or_assoc, Decidable.imp_iff_not_or]

/-- The entries of an object of a type with the key of a field are null or of its type. -/
theorem accepts_of_entry {fields : List (String × Schema)} {f : String × Schema} {y : Yaml}
    (accepted : (Schema.object fields).accepts y = true) (known : f ∈ fields)
    {es : List (Yaml × Yaml)} {e : Yaml × Yaml} (has : y.entries? = some es)
    (mem : e ∈ es) (keyed : e.1.string? = some f.1) :
    e.2.isNull = true ∨ f.2.accepts e.2 = true := by
  have holds : y.holdsNull = false := by
    rw [entries?] at has
    rw [holdsNull]
    cases h : y.untagged <;> simp_all [isNull]
  rw [accepts, holds, has, Bool.false_or, Option.any_some, Bool.and_eq_true] at accepted
  exact acceptsFields_iff.1 accepted.2 f known e mem keyed

/-- The text of a required field of an object of a type is blank although a lookup finds the key
exactly when a tag hides the blank. -/
theorem blank_fieldText_iff {fields : List (String × Schema)} {y : Yaml} {key : String}
    (accepted : (Schema.object fields).accepts y = true) (distinct : y.DistinctKeys)
    (known : (key, Schema.text) ∈ fields) (there : y.hasKey key = true) :
    Text.blank (y.fieldText key) = true ↔ y.HidesBlank key := by
  rw [fieldText_eq_pair?]
  constructor
  case mpr =>
    rintro ⟨e, found, -, blank⟩
    rw [found, Option.bind_some]
    cases text : e.2.string? with
    | none => rfl
    | some s => exact blank s text
  case mp =>
    intro blank
    obtain ⟨v, seen, notNull, filled⟩ := exists_of_hasKey there
    obtain ⟨e, found⟩ := exists_pair?_of_get? seen
    have none (s : String) (text : e.2.string? = some s) : Text.blank s = true := by
      rwa [found, Option.bind_some, text] at blank
    refine ⟨e, found, ?_, none⟩
    -- An entry whose key has no tag is the one that the lookup finds, so that its value has one.
    cases tag : e.1.hasTag with
    | true => exact .inl rfl
    | false =>
      refine .inr (eq_true_of_ne_false fun plain => ?_)
      obtain rfl := Option.some.inj (seen.symm.trans (get?_of_pair? distinct found tag))
      obtain ⟨es, has, mem, keyed⟩ := mem_of_pair? found
      have text : e.2.string?.isSome = true := by
        rcases accepts_of_entry accepted known has mem keyed with null | text
        · cases h : e.2 <;> simp_all [isNull]
        · rwa [accepts] at text
      obtain ⟨s, hs⟩ := Option.isSome_iff_exists.1 text
      have blank := none s hs
      rw [filled s (eq_text_of_hasTag hs plain)] at blank
      cases blank

/-- The text of a required field is not blank although a lookup does not find the key exactly when
a tag hides the text. -/
theorem hidesText_iff {y : Yaml} {key : String} (distinct : y.DistinctKeys) :
    y.HidesText key ↔ Text.blank (y.fieldText key) = false ∧ y.hasKey key = false := by
  rw [fieldText_eq_pair?, hasKey_eq_false_iff]
  constructor
  case mp =>
    rintro ⟨⟨e, s, found, -, text, filled⟩, missing⟩
    exact ⟨by rw [found, Option.bind_some, text]; exact filled, missing⟩
  case mpr =>
    rintro ⟨filled, missing⟩
    refine ⟨?_, missing⟩
    cases found : y.pair? key with
    | none => rw [found] at filled; cases filled
    | some e =>
      cases text : e.2.string? with
      | none => rw [found, Option.bind_some, text] at filled; cases filled
      | some s =>
        have notBlank : Text.blank s = false := by rwa [found, Option.bind_some, text] at filled
        refine ⟨e, s, rfl, eq_true_of_ne_false fun plain => ?_, text, notBlank⟩
        rcases missing e.2 (get?_of_pair? distinct found plain) with null | ⟨t, is, blank⟩
        · rw [null] at text
          cases text
        · rw [is] at text
          obtain rfl := Option.some.inj text
          rw [blank] at notBlank
          cases notBlank

end Schema

end WorkloadForms
