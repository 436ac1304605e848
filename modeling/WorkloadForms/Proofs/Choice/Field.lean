import WorkloadForms.Proofs.Named

/-!
# Fields of objects as they stand

A field of an object of a type is of the type of the field (`Schema.accepts_of_field?`), and so is
what stands under the key of the field in the mapping (`Schema.accepts_of_get?`). A number or a text
that is read of such a value is written as the value that was there
(`Schema.map_ofInt32_fieldInt32?`, `Yaml.ofIntOrText_of_intOrText?`).
-/

namespace WorkloadForms

open Form Yaml

/-! ## Values as they stand -/

/-- A number of 32 bits has the value that it is read of. -/
theorem Number.toInt_of_int32? {n : Int} {x : Int32} (h : Number.int32? n = some x) :
    x.toInt = n := by
  rw [Number.int32?] at h
  split at h
  · next range =>
    obtain rfl := Option.some.inj h
    exact Int32.toInt_ofInt_of_le (by simpa using range.1) (by simpa using range.2)
  · cases h

/-- A number is written as it is read, without tags. -/
theorem Yaml.ofInt32_of_int32? {y : Yaml} {x : Int32} (h : y.int32? = some x) :
    ofInt32 x = y.untagged := by
  obtain ⟨n, hn, hx⟩ := Option.bind_eq_some_iff.1 h
  rw [ofInt32, Number.toInt_of_int32? hx]
  rw [int?] at hn
  split at hn
  · next untagged =>
    obtain rfl := Option.some.inj hn
    exact untagged.symm
  · cases hn

/-- Texts are written as a sequence if there are any. -/
theorem Yaml.ofTexts_eq_some {ts : List String} (filled : ts ≠ []) :
    ofTexts ts = some (.texts ts) := by
  cases ts with
  | nil => exact absurd rfl filled
  | cons => rfl

/-- A number or text is written as it is read. -/
theorem Yaml.ofIntOrText_of_intOrText? {y : Yaml} {x : IntOrText} (h : y.intOrText? = some x) :
    ofIntOrText x = y := by
  cases y with
  | text s =>
    obtain rfl := Option.some.inj h
    rfl
  | int n =>
    obtain ⟨x, hx, rfl⟩ := Option.map_eq_some_iff.1 h
    exact congrArg Yaml.int (Number.toInt_of_int32? hx)
  | _ => cases h

/-! ## Fields of objects of a type -/

namespace Schema

/-- An object of a type under a key is of that type. -/
theorem accepts_of_at? {schema : Schema} {y v : Yaml} {key : String}
    (there : schema.at? y key = some v) : schema.accepts v = true := by
  obtain ⟨w, -, read⟩ := Option.bind_eq_some_iff.1 there
  obtain ⟨typed, same⟩ := Option.ite_none_right_eq_some.1 read
  obtain rfl := Option.some.inj same
  exact (Bool.and_eq_true_iff.1 typed).2

section Fields

variable {fields : List (String × Schema)} {f : String × Schema} {y v : Yaml}
  (accepted : (Schema.object fields).accepts y = true) (known : f ∈ fields)

include accepted known

/-- A field of an object of a type is of the type of the field. -/
theorem accepts_of_field? (found : y.field? f.1 = some v) : f.2.accepts v = true := by
  rw [field?_eq] at found
  obtain ⟨last, filled⟩ := Option.filter_eq_some_iff.1 found
  obtain ⟨e, he, rfl⟩ := Option.map_eq_some_iff.1 last
  obtain ⟨es, has, he⟩ := Option.bind_eq_some_iff.1 he
  obtain ⟨mem, keyed⟩ := List.mem_filter.1 (List.mem_of_getLast? he)
  exact (accepts_of_entry accepted known has mem (by simpa using keyed)).resolve_left
    (by simpa using filled)

/-- What stands under the key of a field, and is not null, is of the type of the field. -/
theorem accepts_of_get? (found : y.get? f.1 = some v) (filled : v.isNull = false) :
    f.2.accepts v = true := by
  obtain ⟨es, has, found⟩ := Option.bind_eq_some_iff.1 found
  obtain ⟨e, he, rfl⟩ := Option.map_eq_some_iff.1 found
  have keyed : e.1 = .text f.1 := isText_eq_true_iff.1 (by simpa using List.find?_some he)
  refine (accepts_of_entry accepted known has (List.mem_of_find?_eq_some he) ?_).resolve_left
    (by simp [filled])
  rw [keyed]
  rfl

end Fields

/-- What stands in a part of an object of a type under the key of a field of that part, and is not
null, is of the type of the field. -/
theorem accepts_of_part {fields inner : List (String × Schema)} {key : String} {f : String × Schema}
    {y v : Yaml} (accepted : (Schema.object fields).accepts y = true)
    (part : (key, Schema.object inner) ∈ fields) (known : f ∈ inner)
    (found : y.at? [key, f.1] = some v) (filled : v.isNull = false) : f.2.accepts v = true := by
  obtain ⟨object, there, inside⟩ := Option.bind_eq_some_iff.1 found
  have inside : object.get? f.1 = some v := by simpa [Yaml.at?] using inside
  have notNull : object.isNull = false := by
    cases object with
    | null => cases inside
    | _ => rfl
  exact accepts_of_get? (accepts_of_get? accepted part there notNull) known inside filled

/-- The number in a field of an object of a type is written as it stands there, without tags. -/
theorem map_ofInt32_fieldInt32? {fields : List (String × Schema)} {y : Yaml} {key : String}
    (accepted : (Schema.object fields).accepts y = true) (known : (key, .int32) ∈ fields) :
    (y.fieldInt32? key).map ofInt32 = (y.field? key).map untagged := by
  rw [fieldInt32?]
  cases found : y.field? key with
  | none => rfl
  | some v =>
    have number := accepts_of_field? accepted known found
    rw [accepts] at number
    obtain ⟨n, hn⟩ := Option.isSome_iff_exists.1 number
    rw [Option.bind_some, hn]
    exact congrArg some (ofInt32_of_int32? hn)

end Schema

end WorkloadForms
