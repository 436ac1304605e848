import WorkloadForms.Proofs.Normal.Descriptor
import WorkloadForms.Proofs.Yaml.Tagged

/-!
# What is read is named

Reading drops variables, mounts and volumes without a name. Whether a name is there is looked up in
the value as it was written, while the name itself is taken from the object of the type; the two
agree in a value without tags and without equal keys, so that of such a value nothing comes in that
is not named: `Descriptor.isNamed_ofManifest`.
-/

namespace WorkloadForms

/-! ## Texts of scalars -/

namespace Text

theorem blank_append (s t : String) : blank (s ++ t) = (blank s && blank t) := by
  simp [blank]

/-- A text with a character that is not blank is not blank. -/
theorem blank_eq_false_of_mem {s : String} {c : Char} (h : c ∈ s.toList) (hc : isBlank c = false) :
    blank s = false := by
  refine Bool.eq_false_iff.2 fun all => ?_
  rw [blank_eq_true_iff.1 all c h] at hc
  cases hc

/-- A decimal digit is not blank. -/
theorem isBlank_of_isDigit {c : Char} (h : c.isDigit = true) : isBlank c = false := by
  have range : 48 ≤ c.toNat ∧ c.toNat ≤ 57 := by
    simpa [Char.isDigit, UInt32.le_iff_toNat_le] using h
  simp only [isBlank, Bool.or_eq_false_iff, Bool.and_eq_false_iff, decide_eq_false_iff_not,
    beq_eq_false_iff_ne]
  omega

/-- A number in decimal is not blank. -/
theorem blank_repr (n : Nat) : blank n.repr = false := by
  obtain ⟨c, rest, digits⟩ := List.exists_cons_of_ne_nil (Nat.toDigits_ne_nil (n := n) (b := 10))
  refine blank_eq_false_of_mem (c := c) ?_ (isBlank_of_isDigit
    (Nat.isDigit_of_mem_toDigits (b := 10) (n := n) (by decide) (by decide) (by simp [digits])))
  rw [Nat.repr_eq_ofList_toDigits, String.toList_ofList, digits]
  exact List.mem_cons_self ..

/-- An integer in decimal is not blank. -/
theorem blank_toString (n : Int) : blank (toString n) = false := by
  cases n with
  | ofNat n => exact blank_repr n
  | negSucc n => exact blank_eq_false_of_mem (c := '-') (by simp [toString, Int.repr]) (by decide)

/-- A number with a fraction or an exponent is not blank. -/
theorem blank_writeDecimal (digits : Nat) (exponent : Int) :
    blank (Double.writeDecimal digits exponent) = false := by
  rw [Double.writeDecimal]
  dsimp only
  split
  · exact blank_eq_false_of_mem (c := '.') (by simp) (by decide)
  · split
    · exact blank_eq_false_of_mem (c := '.') (by simp) (by decide)
    · split
      · exact blank_eq_false_of_mem (c := '.') (by simp) (by decide)
      · exact blank_eq_false_of_mem (c := 'e') (by simp) (by decide)

/-- A floating point number is not blank. -/
theorem blank_toText (x : Double) : blank x.toText = false := by
  cases x with
  | notANumber => decide
  | infinite negative => cases negative <;> decide
  | finite negative m e =>
    simp only [Double.toText]
    split
    · rw [blank_append]
      split
      · decide
      · rw [blank_writeDecimal, Bool.and_false]
    · split
      · decide
      · exact blank_writeDecimal ..

end Text

/-! ## Items of values without tags and equal keys -/

/-- A required text of an object without tags and equal keys is not blank. -/
theorem Schema.blank_fieldText {fields : List (String × Schema)} {key : String} {y : Yaml}
    (accepted : (Schema.object fields).accepts y = true) (known : (key, Schema.text) ∈ fields)
    (free : y.TagFree) (distinct : y.DistinctKeys) (required : y.hasKey key = true) :
    Text.blank (y.fieldText key) = false := by
  refine Bool.eq_false_iff.2 fun blank => ?_
  exact Yaml.not_hidesBlank_of_plainAt (free.plainAt key)
    ((blank_fieldText_iff accepted distinct known required).1 blank)

/-- The items under a key have the property that a value has everywhere. -/
theorem Yaml.Everywhere.itemsAt {p : Yaml → Prop} {y : Yaml} (h : y.Everywhere p) (key : String) :
    ∀ item ∈ y.itemsAt key, item.Everywhere p := by
  intro item mem
  rw [Yaml.itemsAt] at mem
  cases hv : y.get? key with
  | none => simp [hv] at mem
  | some v =>
    cases hys : v.items? with
    | none => simp [hv, hys] at mem
    | some ys => exact (h.get? hv).items hys item (by simpa [hv, hys] using mem)

/-- The items of a type under a key have the property that a value has everywhere. -/
theorem Schema.everywhere_itemsAt {p : Yaml → Prop} {schema : Schema} {required : List String}
    {y item : Yaml} {key : String} (h : y.Everywhere p)
    (mem : item ∈ schema.itemsAt required y key) : item.Everywhere p :=
  h.itemsAt key item (List.mem_filter.1 mem).1

namespace Form

open Yaml

/-! ## Forms -/

/-- A variable that is read has a name. -/
theorem EnvVar.isNamed_of_of? {y : Yaml} {e : EnvVar} (h : EnvVar.of? y = some e) :
    e.isNamed = true := by
  rw [EnvVar.of?] at h
  split at h
  · next required =>
    obtain ⟨name, hname, rfl⟩ := Option.map_eq_some_iff.1 h
    obtain ⟨v, found, -, filled⟩ := exists_of_hasKey required
    rw [textAt?, found, Option.bind_some] at hname
    have named : Text.blank name = false := by
      cases v with
      | text s =>
        obtain rfl := Option.some.inj hname
        exact filled s rfl
      | int n =>
        obtain rfl := Option.some.inj hname
        exact Text.blank_toString n
      | real x =>
        obtain rfl := Option.some.inj hname
        exact Text.blank_toText x
      | flag b => cases b <;> (obtain rfl := Option.some.inj hname; decide)
      | _ => cases hname
    simp [isNamed, named]
  · cases h

section Forms

variable {y : Yaml} (free : y.TagFree) (distinct : y.DistinctKeys)

include free distinct

/-- A mount that is read has a name and a path. -/
theorem VolumeMount.isNamed_of_mem {m : VolumeMount}
    (h : m ∈ (Schema.volumeMount.itemsAt ["name", "mountPath"] y "volumeMounts").map
      VolumeMount.ofObject) : m.isNamed = true := by
  obtain ⟨item, mem, rfl⟩ := List.mem_map.1 h
  have free := Schema.everywhere_itemsAt free mem
  have distinct := Schema.everywhere_itemsAt distinct mem
  obtain ⟨keys, accepted⟩ := Bool.and_eq_true_iff.1 (List.mem_filter.1 mem).2
  obtain ⟨⟨name, path⟩, -⟩ :
      (item.hasKey "name" = true ∧ item.hasKey "mountPath" = true) ∧ item.holdsNull = false := by
    simpa using keys
  have name := Schema.blank_fieldText accepted (by simp) free distinct name
  have path := Schema.blank_fieldText accepted (by simp) free distinct path
  simp [isNamed, VolumeMount.ofObject, name, path]

/-- A volume that is read has a name. -/
theorem Volume.isNamed_of_mem {v : Volume} (h : v ∈ Volume.listOf y) : v.isNamed = true := by
  obtain ⟨item, mem, rfl⟩ := List.mem_map.1 h
  have free := Schema.everywhere_itemsAt free mem
  have distinct := Schema.everywhere_itemsAt distinct mem
  obtain ⟨keys, accepted⟩ := Bool.and_eq_true_iff.1 (List.mem_filter.1 mem).2
  obtain ⟨name, -⟩ : item.hasKey "name" = true ∧ item.holdsNull = false := by simpa using keys
  have name := Schema.blank_fieldText accepted (by simp) free distinct name
  simp [isNamed, Volume.ofObject, name]

/-- The variables and mounts of a container that is read are named. -/
theorem Container.isNamed_ofYaml (nameless : String) : (Container.ofYaml nameless y).IsNamed := by
  constructor
  · intro e he
    obtain ⟨item, -, he⟩ := List.mem_filterMap.1 he
    exact EnvVar.isNamed_of_of? he
  · intro m hm
    exact VolumeMount.isNamed_of_mem free distinct hm

/-- The containers that are read under a key have named variables and mounts. -/
theorem Container.isNamed_of_mem {nameless key : String} {c : Container}
    (h : c ∈ Container.listAt nameless y key) : c.IsNamed := by
  obtain ⟨item, mem, rfl⟩ := List.mem_map.1 h
  have mem := (List.mem_filter.1 mem).1
  exact Container.isNamed_ofYaml (free.itemsAt _ item mem) (distinct.itemsAt _ item mem) nameless

end Forms

end Form

/-- Everything is named in a descriptor that is read of a value without tags and equal keys. -/
theorem Descriptor.isNamed_ofManifest {root : Yaml} (kind : Option Kind) (free : root.TagFree)
    (distinct : root.DistinctKeys) : (Descriptor.ofManifest kind root).IsNamed := by
  have pod {p : Yaml → Prop} (null : p .null) (h : root.Everywhere p) :
      ((root.at? (podPath kind)).getD .null).Everywhere p := by
    cases found : root.at? (podPath kind) with
    | none => exact .leaf null rfl
    | some y => exact h.at? found
  have free : Yaml.TagFree _ := pod (p := (·.hasTag = false)) rfl free
  have distinct : Yaml.DistinctKeys _ := pod (p := Yaml.KeysDiffer) trivial distinct
  exact ⟨fun c hc => Form.Container.isNamed_of_mem free distinct hc,
    fun c hc => Form.Container.isNamed_of_mem free distinct hc,
    fun v hv => Form.Volume.isNamed_of_mem free distinct hv⟩

end WorkloadForms
