import WorkloadForms.Manifest.Entry
import WorkloadForms.Schema.Meta
import WorkloadForms.Proofs.Vocabulary

/-!
# Reading what was written

What the accessors of a manifest find in an object that was written as one: `get?_object_cons` for
the value under a key, `last?_object_cons` for the field of a typed object, and `accepts_object`
for whether a schema takes the object. The second half says of every way to write a setting what
is read of it, and that it is of its schema.
-/

namespace WorkloadForms

open Form

/-! ## Texts that are not empty -/

@[simp] theorem filled_eq_none_iff {s : String} : filled s = none ↔ s = "" := by
  simp [filled]

/-- A text that is not empty is what is left of it. -/
theorem filled_eq_some_iff {s t : String} : filled s = some t ↔ s ≠ "" ∧ s = t := by
  simp [filled]

/-- A text in place of an empty one is not empty unless that text is. -/
@[simp] theorem filled_getD {s default : String} (h : default ≠ "") :
    filled ((filled s).getD default) = some ((filled s).getD default) := by
  cases hs : filled s with
  | none => exact filled_eq_some_iff.2 ⟨h, rfl⟩
  | some t => obtain ⟨h, rfl⟩ := filled_eq_some_iff.1 hs; exact hs

/-- `filled_getD` for a text that may be missing. -/
@[simp] theorem filled_bind_getD {o : Option String} {default : String} (h : default ≠ "") :
    filled ((o.bind filled).getD default) = some ((o.bind filled).getD default) := by
  cases o with
  | none => exact filled_eq_some_iff.2 ⟨h, rfl⟩
  | some s => exact filled_getD h

/-- Leaving out empty texts twice is leaving them out once. -/
@[simp] theorem bind_filled_filled (o : Option String) :
    (o.bind filled).bind filled = o.bind filled := by
  cases o with
  | none => rfl
  | some s =>
    cases h : filled s with
    | none => simp [h]
    | some t => obtain ⟨_, rfl⟩ := filled_eq_some_iff.1 h; simp [h]

/-- A text that is left out when it is empty is written as before. -/
@[simp] theorem bind_filled_ofFilled (o : Option String) :
    (o.bind filled).bind Yaml.ofFilled = o.bind Yaml.ofFilled := by
  cases o with
  | none => rfl
  | some s =>
    cases h : filled s with
    | none => simp [h, Yaml.ofFilled]
    | some t => obtain ⟨_, rfl⟩ := filled_eq_some_iff.1 h; simp [h]

/-- A list is mapped as before without some of its items only if it has none of them. -/
theorem map_filter_eq_map_iff {p : α → Bool} {f : α → β} {l : List α} :
    (l.filter p).map f = l.map f ↔ ∀ a ∈ l, p a = true := by
  constructor
  · intro same
    have := congrArg List.length same
    simpa using this
  · intro all
    rw [List.filter_eq_self.2 all]

/-- Reducing a value and keeping it if something is left: the second time nothing changes. -/
theorem bind_guard_guard {p : α → Bool} {f : α → α} (reduced : ∀ a, f (f a) = f a)
    (o : Option α) :
    ((o.bind fun a => Option.guard p (f a)).bind fun a => Option.guard p (f a)) =
      o.bind fun a => Option.guard p (f a) := by
  cases o with
  | none => rfl
  | some a => by_cases h : p (f a) <;> simp [Option.guard, h, reduced]

namespace Yaml

/-! ## Values without tags -/

@[simp] theorem string?_text (s : String) : (text s).string? = some s := rfl
@[simp] theorem text?_text (s : String) : (text s).text? = some s := rfl
@[simp] theorem items?_seq (ys : List Yaml) : (seq ys).items? = some ys := rfl
@[simp] theorem entries?_map (es : List (Yaml × Yaml)) : (map es).entries? = some es := rfl
@[simp] theorem flag?_flag (b : Bool) : (flag b).flag? = some b := rfl
@[simp] theorem quantity?_text (s : String) : (text s).quantity? = some s := rfl
@[simp] theorem holdsNull_text (s : String) : (text s).holdsNull = false := rfl
@[simp] theorem holdsNull_seq (ys : List Yaml) : (seq ys).holdsNull = false := rfl
@[simp] theorem holdsNull_map (es : List (Yaml × Yaml)) : (map es).holdsNull = false := rfl
@[simp] theorem isNull_text (s : String) : (text s).isNull = false := rfl
@[simp] theorem isNull_seq (ys : List Yaml) : (seq ys).isNull = false := rfl
@[simp] theorem isNull_map (es : List (Yaml × Yaml)) : (map es).isNull = false := rfl
@[simp] theorem holdsNull_object (es : List (String × Option Yaml)) :
    (object es).holdsNull = false := rfl
@[simp] theorem isNull_object (es : List (String × Option Yaml)) : (object es).isNull = false := rfl
@[simp] theorem holdsNull_dict (es : List (String × Yaml)) : (dict es).holdsNull = false := rfl
@[simp] theorem isNull_dict (es : List (String × Yaml)) : (dict es).isNull = false := rfl
@[simp] theorem isMap_object (es : List (String × Option Yaml)) : (object es).isMap = true := rfl
@[simp] theorem int32?_ofInt32 (n : Int32) : (ofInt32 n).int32? = some n := by
  simp [int32?, int?, ofInt32, untagged]
@[simp] theorem int64?_ofInt64 (n : Int64) : (ofInt64 n).int64? = some n := by
  simp [int64?, int?, ofInt64, untagged]
@[simp] theorem isNull_ofInt32 (n : Int32) : (ofInt32 n).isNull = false := rfl
@[simp] theorem string?_ofWord [Vocabulary α] (a : α) :
    (ofWord a).string? = some (Vocabulary.word a) := rfl
@[simp] theorem text?_ofWord [Vocabulary α] (a : α) :
    (ofWord a).text? = some (Vocabulary.word a) := rfl

/-- A number or text is read as it was written. -/
@[simp] theorem intOrText?_ofIntOrText (x : IntOrText) : (ofIntOrText x).intOrText? = some x := by
  cases x <;> simp [intOrText?, ofIntOrText, ofInt32]

@[simp] theorem holdsNull_ofIntOrText (x : IntOrText) : (ofIntOrText x).holdsNull = false := by
  cases x <;> rfl

/-! ## Entries of objects -/

/-- A mapping of entries that are all there is an object. -/
theorem dict_eq_object (es : List (String × Yaml)) :
    dict es = object (es.map fun e => (e.1, some e.2)) := by
  rw [object, List.filterMap_map]
  exact congrArg dict List.filterMap_some.symm

@[simp] theorem get?_object_nil (key : String) : (object []).get? key = none := rfl

/-- The value under a key is that of the first entry present. -/
@[simp] theorem get?_object_cons (name : String) (v : Option Yaml)
    (es : List (String × Option Yaml)) (key : String) :
    (object ((name, v) :: es)).get? key =
      if name = key then v.or ((object es).get? key) else (object es).get? key := by
  cases v with
  | none => simp [get?, object, dict]
  | some y =>
    by_cases h : name = key
    · simp [get?, object, dict, find?, isText, h]
    · simp [get?, object, dict, find?, isText, h]

/-- The value of the last entry with a key. -/
def last? (y : Yaml) (key : String) : Option Yaml :=
  (y.entries?.bind fun es => (es.filter fun e => e.1.string? == some key).getLast?).map (·.2)

/-- A field is the value of the last entry with its key, unless that is null. -/
theorem field?_eq (y : Yaml) (key : String) : y.field? key = (y.last? key).filter (!·.isNull) := by
  rw [field?, last?]
  cases y.entries? with
  | none => rfl
  | some es =>
    simp only [Option.bind_eq_bind, Option.bind_some]
    cases (es.filter fun e => e.1.string? == some key).getLast? with
    | none => rfl
    | some e => cases h : e.2.isNull <;> simp [h, Option.filter]

@[simp] theorem last?_object_nil (key : String) : (object []).last? key = none := rfl

/-- The last value under a key is that of the entries behind the first one, if they have any. -/
@[simp] theorem last?_object_cons (name : String) (v : Option Yaml)
    (es : List (String × Option Yaml)) (key : String) :
    (object ((name, v) :: es)).last? key =
      ((object es).last? key).or (if name = key then v else none) := by
  cases v with
  | none => simp [last?, object, dict]
  | some y =>
    by_cases h : name = key
    · simpa [last?, object, dict, h] using (Option.getD_map (·.2) (text key, y) _).symm
    · simp [last?, object, dict, h]

/-- Leaving out nulls changes nothing for a reading that takes nothing of a null. -/
theorem bind_filter_isNull {f : Yaml → Option α} (hf : f .null = none) (o : Option Yaml) :
    (o.filter (!·.isNull)).bind f = o.bind f := by
  cases o with
  | none => rfl
  | some v => cases v <;> simp_all [Option.filter, isNull]

@[simp] theorem filter_isNull_quantity? (o : Option Yaml) :
    (o.filter (!·.isNull)).bind quantity? = o.bind quantity? := bind_filter_isNull rfl o

@[simp] theorem filter_isNull_intOrText? (o : Option Yaml) :
    (o.filter (!·.isNull)).bind intOrText? = o.bind intOrText? := bind_filter_isNull rfl o

@[simp] theorem filter_isNull_int64? (o : Option Yaml) :
    (o.filter (!·.isNull)).bind int64? = o.bind int64? := bind_filter_isNull rfl o

/-- The value read from a field whose null would give no value anyway. -/
theorem field?_bind {f : Yaml → Option α} (hf : f .null = none) (y : Yaml) (key : String) :
    (y.field? key).bind f = (y.last? key).bind f := by
  rw [field?_eq, bind_filter_isNull hf]

/-- The text of a field, as that of its last entry. -/
@[simp] theorem fieldText?_eq (y : Yaml) (key : String) :
    y.fieldText? key = (y.last? key).bind string? := field?_bind rfl y key

/-- The number of a field, as that of its last entry. -/
@[simp] theorem fieldInt32?_eq (y : Yaml) (key : String) :
    y.fieldInt32? key = (y.last? key).bind int32? := field?_bind rfl y key

/-- The items of a field, as those of its last entry. -/
@[simp] theorem fieldItems_eq (y : Yaml) (key : String) :
    y.fieldItems key = ((y.last? key).bind items?).getD [] := by
  rw [fieldItems, field?_bind rfl]

/-- The flag of a field, as that of its last entry. -/
@[simp] theorem fieldFlag_eq (y : Yaml) (key : String) :
    y.fieldFlag key = ((y.last? key).bind flag?).getD false := by
  rw [fieldFlag, field?_bind rfl]

/-! ## What is read of what is written -/

@[simp] theorem bind_ofFilled_string? (o : Option String) :
    (o.bind ofFilled).bind string? = o.bind filled := by
  cases o with
  | none => rfl
  | some s => cases h : filled s <;> simp [ofFilled, h]

@[simp] theorem bind_ofFilled_text? (o : Option String) :
    (o.bind ofFilled).bind text? = o.bind filled := by
  cases o with
  | none => rfl
  | some s => cases h : filled s <;> simp [ofFilled, h]

@[simp] theorem bind_ofFilled_quantity? (o : Option String) :
    (o.bind ofFilled).bind quantity? = o.bind filled := by
  cases o with
  | none => rfl
  | some s => cases h : filled s <;> simp [ofFilled, h]

@[simp] theorem map_text_string? (o : Option String) : (o.map text).bind string? = o := by
  cases o <;> rfl

@[simp] theorem map_text_quantity? (o : Option String) : (o.map text).bind quantity? = o := by
  cases o <;> rfl

@[simp] theorem map_ofInt32_int32? (o : Option Int32) : (o.map ofInt32).bind int32? = o := by
  cases o <;> simp

@[simp] theorem map_ofInt64_int64? (o : Option Int64) : (o.map ofInt64).bind int64? = o := by
  cases o <;> simp

@[simp] theorem map_flag_flag? (o : Option Bool) : (o.map flag).bind flag? = o := by
  cases o <;> rfl

@[simp] theorem map_ofIntOrText_intOrText? (o : Option IntOrText) :
    (o.map ofIntOrText).bind intOrText? = o := by
  cases o <;> simp

@[simp] theorem map_ofWord_string? [Vocabulary α] [LawfulVocabulary α] (o : Option α) :
    ((o.map ofWord).bind string?).bind Vocabulary.ofWord? = o := by
  cases o <;> simp

@[simp] theorem map_ofWord_text? [Vocabulary α] [LawfulVocabulary α] (o : Option α) :
    ((o.map ofWord).bind text?).bind Vocabulary.ofWord? = o := by
  cases o <;> simp

@[simp] theorem ofFlag_flag? (b : Bool) : ((ofFlag b).bind flag?).getD false = b := by
  cases b <;> rfl

@[simp] theorem ofItems_nil : ofItems [] = none := rfl
@[simp] theorem ofItems_cons (y : Yaml) (ys : List Yaml) :
    ofItems (y :: ys) = some (seq (y :: ys)) := rfl

@[simp] theorem ofItems_eq_none_iff {ys : List Yaml} : ofItems ys = none ↔ ys = [] := by
  cases ys <;> simp

@[simp] theorem ofItems_items? (ys : List Yaml) : ((ofItems ys).bind items?).getD [] = ys := by
  cases ys <;> rfl

/-- Items that are written one by one are read one by one. -/
theorem filterMap_written {read? : Yaml → Option β} {write : α → Yaml} {normal : α → β}
    (reads : ∀ a, read? (write a) = some (normal a)) (l : List α) :
    (l.map write).filterMap read? = l.map normal := by
  induction l with
  | nil => rfl
  | cons a l ih => rw [List.map_cons, List.filterMap_cons_some (reads a), ih, List.map_cons]

/-- Sequences that are written alike have the same items. -/
theorem ofItems_inj {ys zs : List Yaml} : ofItems ys = ofItems zs ↔ ys = zs := by
  constructor
  · intro h
    rw [← ofItems_items? ys, h, ofItems_items?]
  · exact congrArg _

@[simp] theorem ofTexts_eq_none_iff {ss : List String} : ofTexts ss = none ↔ ss = [] := by
  simp [ofTexts]

@[simp] theorem ofTexts_items? (ss : List String) :
    ((ofTexts ss).bind items?).getD [] = ss.map text := ofItems_items? _

@[simp] theorem filterMap_string?_text (ss : List String) :
    ss.filterMap (string? ∘ text) = ss := by
  simp [Function.comp_def]

@[simp] theorem filterMap_text?_text (ss : List String) : ss.filterMap (text? ∘ text) = ss := by
  simp [Function.comp_def]

/-- The rows of a dictionary are its entries. -/
@[simp] theorem rowsOf_ofDictionary (d : Dictionary) : rowsOf (ofDictionary d) = d.entries := by
  simp [rowsOf, ofDictionary, dict, List.filterMap_map, Function.comp_def]

/-- The rows under a key where a dictionary was written, unless it was empty. -/
theorem rowsAt_eq {y : Yaml} {key : String} {d : Dictionary}
    (written : y.get? key = if d.isEmpty then none else some (ofDictionary d)) :
    y.rowsAt key = d.entries := by
  rw [rowsAt, written]
  split
  · next empty => exact (List.isEmpty_iff.1 empty).symm
  · simp

end Yaml

namespace Schema

open Yaml hiding text texts seq int flag

/-! ## Values of a schema -/

/-- Whether a field of a schema may hold a value, or nothing. -/
def admits (schema : Schema) (v : Option Yaml) : Bool := v.all fun y => y.isNull || schema.accepts y

/-- The known fields of entries that are present are of their types when all known fields are. -/
theorem acceptsFields_entries (fields : List (String × Schema)) (es : List (String × Option Yaml)) :
    acceptsFields fields
        ((es.filterMap fun e => e.2.map (e.1, ·)).map fun e => (Yaml.text e.1, e.2)) =
      fields.all fun f => es.all fun e => e.1 != f.1 || f.2.admits e.2 := by
  rw [acceptsFields_eq_all]
  congr 1
  funext f
  rw [List.all_map, List.all_filterMap]
  congr 1
  funext e
  cases e.2 with
  | none => simp [admits]
  | some y => simp [admits, bne, Bool.or_assoc]

/-- An object is of a schema when every known field holds a value of its type. -/
@[simp] theorem accepts_object (fields : List (String × Schema))
    (es : List (String × Option Yaml)) :
    (Schema.object fields).accepts (Yaml.object es) =
      fields.all fun f => es.all fun e => e.1 != f.1 || f.2.admits e.2 := by
  rw [← acceptsFields_entries, accepts]
  have keys : ((es.filterMap fun e => e.2.map (e.1, ·)).map fun e => (Yaml.text e.1, e.2)).all
      (·.1.string?.isSome) = true := by
    rw [List.all_map, List.all_eq_true]
    exact fun _ _ => rfl
  simp only [Yaml.object, dict, holdsNull_map, entries?_map, Option.any_some, Bool.false_or, keys,
    Bool.true_and]

/-- An object is a dictionary when every entry holds a value of its type. -/
@[simp] theorem accepts_dictionary_object (value : Schema) (es : List (String × Option Yaml)) :
    (Schema.dictionary value).accepts (Yaml.object es) = es.all fun e => e.2.all value.accepts := by
  simp only [accepts, Yaml.object, dict, holdsNull_map, entries?_map, Option.any_some,
    Bool.false_or, List.all_map, List.all_filterMap]
  congr 1
  funext e
  cases e.2 <;> simp

@[simp] theorem admits_none (schema : Schema) : schema.admits none = true := rfl
@[simp] theorem admits_some (schema : Schema) (y : Yaml) :
    schema.admits (some y) = (y.isNull || schema.accepts y) := rfl
@[simp] theorem accepts_text (s : String) : Schema.text.accepts (.text s) = true := rfl
@[simp] theorem accepts_quantity (s : String) : quantity.accepts (.text s) = true := rfl
@[simp] theorem accepts_ofWord [Vocabulary α] (a : α) : Schema.text.accepts (ofWord a) = true := rfl
@[simp] theorem accepts_ofInt32 (n : Int32) : int32.accepts (ofInt32 n) = true := by
  simp [accepts]
@[simp] theorem accepts_ofInt64 (n : Int64) : int64.accepts (ofInt64 n) = true := by
  simp [accepts]
@[simp] theorem accepts_ofIntOrText (x : IntOrText) : intOrText.accepts (ofIntOrText x) = true := by
  simp [accepts]
@[simp] theorem accepts_list_seq (item : Schema) (ys : List Yaml) :
    (list item).accepts (.seq ys) = ys.all item.accepts := by
  simp [accepts_list]

@[simp] theorem admits_bind_ofFilled (o : Option String) :
    Schema.text.admits (o.bind ofFilled) = true := by
  cases o with
  | none => rfl
  | some s => cases h : filled s <;> simp [ofFilled, h]

@[simp] theorem admits_quantity_bind_ofFilled (o : Option String) :
    quantity.admits (o.bind ofFilled) = true := by
  cases o with
  | none => rfl
  | some s => cases h : filled s <;> simp [ofFilled, h]

@[simp] theorem admits_map_text (o : Option String) : Schema.text.admits (o.map .text) = true := by
  cases o <;> rfl

@[simp] theorem admits_map_ofInt32 (o : Option Int32) : int32.admits (o.map ofInt32) = true := by
  cases o <;> simp

@[simp] theorem admits_map_ofInt64 (o : Option Int64) : int64.admits (o.map ofInt64) = true := by
  cases o <;> simp

@[simp] theorem admits_map_ofIntOrText (o : Option IntOrText) :
    intOrText.admits (o.map ofIntOrText) = true := by
  cases o <;> simp

@[simp] theorem admits_map_ofWord [Vocabulary α] (o : Option α) :
    Schema.text.admits (o.map ofWord) = true := by
  cases o <;> rfl

@[simp] theorem admits_ofFlag (b : Bool) : flag.admits (ofFlag b) = true := by
  cases b <;> rfl

@[simp] theorem admits_list_ofItems (item : Schema) (ys : List Yaml) :
    (list item).admits (ofItems ys) = ys.all item.accepts := by
  cases ys <;> simp [ofItems]

@[simp] theorem admits_texts (ss : List String) : texts.admits (ofTexts ss) = true := by
  rw [texts, ofTexts, admits_list_ofItems, List.all_map, List.all_eq_true]
  exact fun _ _ => rfl

/-! ## Objects and items under a key -/

/-- An object that is written under a key and is of the schema is read as it is. -/
theorem at?_eq_map {schema : Schema} {y : Yaml} {key : String} {o : Option α} {f : α → Yaml}
    (written : y.get? key = o.map f) (object : ∀ a, (f a).holdsNull = false)
    (accepted : ∀ a, schema.accepts (f a) = true) : schema.at? y key = o.map f := by
  rw [at?, written]
  cases o with
  | none => rfl
  | some a => simp [read?, object a, accepted a]

@[simp] theorem read?_none (schema : Schema) : schema.read? none = none := rfl

@[simp] theorem read?_ofIntOrText (x : IntOrText) :
    intOrText.read? (some (ofIntOrText x)) = some (ofIntOrText x) := by
  simp [read?]

@[simp] theorem read?_map_ofIntOrText (o : Option IntOrText) :
    intOrText.read? (o.map ofIntOrText) = o.map ofIntOrText := by
  cases o <;> simp

/-- Of the items that are written for a list those are read that have the required keys. -/
theorem itemsAt_eq {schema : Schema} {required : List String} {y : Yaml} {key : String}
    {f : α → Yaml} {l : List α} (written : y.get? key = ofItems (l.map f))
    (object : ∀ a, (f a).holdsNull = false) (accepted : ∀ a, schema.accepts (f a) = true) :
    schema.itemsAt required y key = (l.filter fun a => required.all (f a).hasKey).map f := by
  rw [itemsAt, Yaml.itemsAt, written, ofItems_items?, List.filter_map]
  simp [Function.comp_def, object, accepted]

end Schema

end WorkloadForms
