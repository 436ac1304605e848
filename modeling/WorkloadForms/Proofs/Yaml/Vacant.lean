import WorkloadForms.Proofs.Object

/-!
# Values that say nothing

Null, the empty sequence and the empty mapping say nothing. `Yaml.VacantAt` says which of them stand
in a value, and where; in a value that is `Yaml.Full` there is none. A written object is full when
it has an entry and all its entries are (`Yaml.full_object_iff`), and `Yaml.vacantAt_object_iff`
takes one apart that is not.
-/

namespace WorkloadForms.Yaml

/-! ## Places in a value -/

/-- A step from a value to a value directly inside of it: an item of a sequence, the value under a
key of a mapping, a key itself, or the content of a value with a tag. -/
inductive Step where
  | item (index : Nat)
  | under (key : Yaml)
  | key (key : Yaml)
  | content

/-- The way to the value under text keys. -/
def steps (keys : List String) : List Step := keys.map fun key => .under (.text key)

@[simp] theorem steps_nil : steps [] = [] := rfl
@[simp] theorem steps_cons (key : String) (keys : List String) :
    steps (key :: keys) = .under (.text key) :: steps keys := rfl

/-- At a path in a value there stands a value that says nothing: null, an empty sequence or an empty
mapping. -/
inductive VacantAt : List Step → Yaml → Yaml → Prop
  | null : VacantAt [] .null .null
  | seq : VacantAt [] (.seq []) (.seq [])
  | map : VacantAt [] (.map []) (.map [])
  | item {i : Nat} {ys : List Yaml} {y : Yaml} : ys[i]? = some y → VacantAt path v y →
      VacantAt (.item i :: path) v (.seq ys)
  | under {key y : Yaml} {es : List (Yaml × Yaml)} : (key, y) ∈ es → VacantAt path v y →
      VacantAt (.under key :: path) v (.map es)
  | key {key y : Yaml} {es : List (Yaml × Yaml)} : (key, y) ∈ es → VacantAt path v key →
      VacantAt (.key key :: path) v (.map es)
  | content {tag : String} {y : Yaml} : VacantAt path v y →
      VacantAt (.content :: path) v (.tagged tag y)

/-- What is vacant in the value under a text key, if there is one. -/
def VacantIn (path : List Step) (v : Yaml) (key : String) (o : Option Yaml) : Prop :=
  ∃ y ∈ o, ∃ rest, path = .under (.text key) :: rest ∧ VacantAt rest v y

/-- What is so at a path that starts with the way under text keys, and `p` of the rest of it. -/
def Beneath (p : List Step → Yaml → Prop) : List String → List Step → Yaml → Prop
  | [], path, v => p path v
  | key :: keys, path, v => ∃ rest, path = .under (.text key) :: rest ∧ Beneath p keys rest v

/-- Nothing is vacant in a value. -/
def Full (y : Yaml) : Prop := ∀ path v, ¬ VacantAt path v y

/-- Nothing is vacant in a value, if there is one. -/
def FullIfAny (o : Option Yaml) : Prop := ∀ y ∈ o, Full y

variable {path : List Step} {v : Yaml}

theorem beneath_iff {p : List Step → Yaml → Prop} {keys : List String} :
    Beneath p keys path v ↔ ∃ rest, path = steps keys ++ rest ∧ p rest v := by
  induction keys generalizing path with
  | nil => simp [Beneath]
  | cons key keys ih =>
    simp only [Beneath, ih, steps_cons, List.cons_append]
    constructor
    · rintro ⟨_, rfl, rest, rfl, h⟩
      exact ⟨rest, rfl, h⟩
    · rintro ⟨rest, rfl, h⟩
      exact ⟨_, rfl, rest, rfl, h⟩

/-- A path of one step. -/
theorem exists_rest_nil_iff {step : Step} {q : Prop} :
    (∃ rest, path = step :: rest ∧ rest = [] ∧ q) ↔ path = [step] ∧ q := by
  constructor
  · rintro ⟨_, rfl, rfl, h⟩
    exact ⟨rfl, h⟩
  · rintro ⟨rfl, h⟩
    exact ⟨[], rfl, rfl, h⟩

/-! ## Scalars -/

@[simp] theorem full_text (s : String) : Full (.text s) := fun _ _ h => nomatch h
@[simp] theorem full_int (n : Int) : Full (.int n) := fun _ _ h => nomatch h
@[simp] theorem full_flag (b : Bool) : Full (.flag b) := fun _ _ h => nomatch h
@[simp] theorem full_ofInt32 (n : Int32) : Full (ofInt32 n) := full_int _
@[simp] theorem full_ofInt64 (n : Int64) : Full (ofInt64 n) := full_int _
@[simp] theorem full_ofWord [Vocabulary α] (a : α) : Full (ofWord a) := full_text _
@[simp] theorem full_ofIntOrText (x : IntOrText) : Full (ofIntOrText x) := by
  cases x <;> simp [ofIntOrText]

/-! ## Sequences -/

/-- What is vacant in a sequence: itself if it is empty, and what is vacant in an item. -/
theorem vacantAt_seq_iff {ys : List Yaml} :
    VacantAt path v (.seq ys) ↔
      (path = [] ∧ v = .seq [] ∧ ys = []) ∨
      ∃ (i : Nat) (y : Yaml) (rest : List Step),
        ys[i]? = some y ∧ path = .item i :: rest ∧ VacantAt rest v y := by
  constructor
  · intro h
    cases h with
    | seq => exact .inl ⟨rfl, rfl, rfl⟩
    | item there inside => exact .inr ⟨_, _, _, there, rfl, inside⟩
  · rintro (⟨rfl, rfl, rfl⟩ | ⟨i, y, rest, there, rfl, inside⟩)
    · exact .seq
    · exact .item there inside

/-- A sequence is full when it has items and they are full. -/
@[simp] theorem full_seq_iff {ys : List Yaml} : Full (.seq ys) ↔ ys ≠ [] ∧ ∀ y ∈ ys, Full y := by
  constructor
  · intro full
    refine ⟨?_, fun y mem path v vacant => ?_⟩
    · rintro rfl
      exact full _ _ .seq
    · obtain ⟨i, there⟩ := List.getElem?_of_mem mem
      exact full _ _ (.item there vacant)
  · rintro ⟨filled, items⟩ path v vacant
    rcases vacantAt_seq_iff.1 vacant with ⟨-, -, empty⟩ | ⟨i, y, rest, there, -, inside⟩
    · exact filled empty
    · exact items y (List.mem_of_getElem? there) rest v inside

/-! ## Mappings -/

/-- What is vacant in a mapping: itself if it is empty, and what is vacant in a value or a key. -/
theorem vacantAt_map_iff {es : List (Yaml × Yaml)} :
    VacantAt path v (.map es) ↔
      (path = [] ∧ v = .map [] ∧ es = []) ∨
      ∃ e ∈ es, ∃ rest, (path = .under e.1 :: rest ∧ VacantAt rest v e.2) ∨
        (path = .key e.1 :: rest ∧ VacantAt rest v e.1) := by
  constructor
  · intro h
    cases h with
    | map => exact .inl ⟨rfl, rfl, rfl⟩
    | under mem inside => exact .inr ⟨_, mem, _, .inl ⟨rfl, inside⟩⟩
    | key mem inside => exact .inr ⟨_, mem, _, .inr ⟨rfl, inside⟩⟩
  · rintro (⟨rfl, rfl, rfl⟩ | ⟨e, mem, rest, ⟨rfl, inside⟩ | ⟨rfl, inside⟩⟩)
    · exact .map
    · exact .under mem inside
    · exact .key mem inside

/-- What is vacant in an object: itself if it has no entry, and what is vacant in an entry. The keys
are texts, so that they are full. -/
theorem vacantAt_object_iff {es : List (String × Option Yaml)} :
    VacantAt path v (object es) ↔
      (path = [] ∧ v = .map [] ∧ ∀ e ∈ es, e.2 = none) ∨ ∃ e ∈ es, VacantIn path v e.1 e.2 := by
  rw [object, dict, vacantAt_map_iff]
  refine or_congr (by simp) ⟨?_, ?_⟩
  · rintro ⟨e, mem, rest, inside⟩
    obtain ⟨f, present, rfl⟩ := List.mem_map.1 mem
    obtain ⟨g, listed, written⟩ := List.mem_filterMap.1 present
    obtain ⟨y, there, rfl⟩ := Option.map_eq_some_iff.1 written
    rcases inside with ⟨rfl, inside⟩ | ⟨-, inside⟩
    · exact ⟨g, listed, y, there, rest, rfl, inside⟩
    · exact absurd inside (full_text _ _ _)
  · rintro ⟨e, mem, y, there, rest, rfl, inside⟩
    have there : e.2 = some y := there
    refine ⟨(.text e.1, y), List.mem_map.2 ⟨(e.1, y), List.mem_filterMap.2 ⟨e, mem, ?_⟩, rfl⟩, rest,
      .inl ⟨rfl, inside⟩⟩
    rw [there, Option.map_some]

/-- What is vacant in an entry that is there. -/
theorem vacantIn_some_iff {key : String} {y : Yaml} :
    VacantIn path v key (some y) ↔
      ∃ rest, path = .under (.text key) :: rest ∧ VacantAt rest v y := by
  simp [VacantIn]

/-- What is vacant in an entry that is written for a value, if there is one. -/
theorem vacantIn_map_iff {key : String} {o : Option α} {f : α → Yaml} :
    VacantIn path v key (o.map f) ↔
      ∃ a ∈ o, ∃ rest, path = .under (.text key) :: rest ∧ VacantAt rest v (f a) := by
  cases o <;> simp [VacantIn]

/-- Nothing is vacant in an entry that is full. -/
theorem vacantIn_iff_false {key : String} {o : Option Yaml} (full : FullIfAny o) :
    VacantIn path v key o ↔ False :=
  iff_false_intro fun ⟨y, there, rest, _, inside⟩ => full y there rest v inside

/-- An object is full when it has an entry and its entries are full. -/
@[simp] theorem full_object_iff {es : List (String × Option Yaml)} :
    Full (object es) ↔ (∃ e ∈ es, e.2.isSome = true) ∧ ∀ e ∈ es, FullIfAny e.2 := by
  constructor
  · intro full
    constructor
    · refine Classical.byContradiction fun none => ?_
      refine full [] _ (vacantAt_object_iff.2 (.inl ⟨rfl, rfl, fun e mem => ?_⟩))
      simpa using fun some => none ⟨e, mem, some⟩
    · intro e mem y there path v vacant
      exact full _ v (vacantAt_object_iff.2 (.inr ⟨e, mem, y, there, path, rfl, vacant⟩))
  · rintro ⟨⟨e, mem, there⟩, entries⟩ path v vacant
    rcases vacantAt_object_iff.1 vacant with ⟨-, -, none⟩ | ⟨e, mem, inside⟩
    · simp [none e mem] at there
    · exact (vacantIn_iff_false (entries e mem)).1 inside

/-! ## Values that may be missing -/

@[simp] theorem fullIfAny_none : FullIfAny none := nofun
@[simp] theorem fullIfAny_some {y : Yaml} : FullIfAny (some y) ↔ Full y := by simp [FullIfAny]

/-- A mapping with text keys is full when it has entries and they are full. -/
@[simp] theorem full_dict_iff {es : List (String × Yaml)} :
    Full (dict es) ↔ es ≠ [] ∧ ∀ e ∈ es, Full e.2 := by
  rw [dict_eq_object, full_object_iff, List.forall_mem_map]
  refine and_congr ?_ (by simp only [fullIfAny_some])
  cases es <;> simp

theorem fullIfAny_map {o : Option α} {f : α → Yaml} (full : ∀ a, Full (f a)) :
    FullIfAny (o.map f) := by
  cases o <;> simp [full]

theorem fullIfAny_bind {o : Option α} {f : α → Option Yaml} (full : ∀ a, FullIfAny (f a)) :
    FullIfAny (o.bind f) := by
  cases o <;> simp [full]

@[simp] theorem fullIfAny_map_text (o : Option String) : FullIfAny (o.map text) :=
  fullIfAny_map full_text

@[simp] theorem fullIfAny_map_flag (o : Option Bool) : FullIfAny (o.map flag) :=
  fullIfAny_map full_flag

@[simp] theorem fullIfAny_map_ofInt32 (o : Option Int32) : FullIfAny (o.map ofInt32) :=
  fullIfAny_map full_ofInt32

@[simp] theorem fullIfAny_map_ofInt64 (o : Option Int64) : FullIfAny (o.map ofInt64) :=
  fullIfAny_map full_ofInt64

@[simp] theorem fullIfAny_map_ofIntOrText (o : Option IntOrText) : FullIfAny (o.map ofIntOrText) :=
  fullIfAny_map full_ofIntOrText

@[simp] theorem fullIfAny_map_ofWord [Vocabulary α] (o : Option α) : FullIfAny (o.map ofWord) :=
  fullIfAny_map full_ofWord

@[simp] theorem fullIfAny_bind_ofFilled (o : Option String) : FullIfAny (o.bind ofFilled) :=
  fullIfAny_bind fun _ => fullIfAny_map_text _

@[simp] theorem fullIfAny_ofFlag (b : Bool) : FullIfAny (ofFlag b) := by
  cases b <;> simp [ofFlag]

@[simp] theorem isSome_ofItems (ys : List Yaml) : (ofItems ys).isSome = !ys.isEmpty := by
  cases ys <;> rfl

/-- What is vacant in items that are written if there are any: what is vacant in an item. -/
theorem vacantIn_ofItems_iff {key : String} {ys : List Yaml} :
    VacantIn path v key (ofItems ys) ↔
      ∃ (i : Nat) (y : Yaml) (rest : List Step), ys[i]? = some y ∧
        path = .under (.text key) :: .item i :: rest ∧ VacantAt rest v y := by
  cases ys with
  | nil => simp [VacantIn]
  | cons y ys =>
    simp only [VacantIn, ofItems_cons, Option.mem_def, Option.some.injEq, exists_eq_left',
      vacantAt_seq_iff]
    constructor
    · rintro ⟨_, rfl, ⟨-, -, empty⟩ | ⟨i, z, rest, there, rfl, inside⟩⟩
      · cases empty
      · exact ⟨i, z, rest, there, rfl, inside⟩
    · rintro ⟨i, z, rest, there, rfl, inside⟩
      exact ⟨_, rfl, .inr ⟨i, z, rest, there, rfl, inside⟩⟩

/-- Items that are written if there are any are full when each one is. -/
@[simp] theorem fullIfAny_ofItems {ys : List Yaml} :
    FullIfAny (ofItems ys) ↔ ∀ y ∈ ys, Full y := by
  cases ys <;> simp

@[simp] theorem fullIfAny_ofTexts (ss : List String) : FullIfAny (ofTexts ss) := by
  simp [ofTexts]

/-- A dictionary that is not empty is full. -/
theorem full_ofDictionary {d : Dictionary} (filled : d.isEmpty = false) :
    Full (ofDictionary d) := by
  rw [ofDictionary, full_dict_iff, List.forall_mem_map]
  exact ⟨by simpa [Dictionary.isEmpty] using filled, fun e _ => full_text _⟩

/-- A dictionary that is written unless it is empty is full. -/
@[simp] theorem fullIfAny_ofDictionary (d : Dictionary) :
    FullIfAny (if d.isEmpty then none else some (ofDictionary d)) := by
  split
  · exact fullIfAny_none
  · next filled => exact fullIfAny_some.2 (full_ofDictionary (by simpa using filled))

end WorkloadForms.Yaml
