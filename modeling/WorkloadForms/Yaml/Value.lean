import WorkloadForms.Number.Shortest

/-!
# YAML values

A YAML value as a tree. A mapping keeps its entries in order; its keys are values too. A value
with a tag of its own is `tagged`; the accessors `items?`, `entries?`, `int?`, `flag?` and `get?`
look at what is under the tags, while `text?` gives the text of a scalar without a tag only.
-/

namespace WorkloadForms

/-- A YAML value. -/
inductive Yaml where
  | null
  | flag (value : Bool)
  | int (value : Int)
  | real (value : Double)
  | text (value : String)
  | seq (items : List Yaml)
  | map (entries : List (Yaml × Yaml))
  | tagged (tag : String) (content : Yaml)
  deriving Repr, Inhabited

namespace Yaml

/-- The value under all tags. -/
def untagged : Yaml → Yaml
  | .tagged _ y => untagged y
  | y => y

/-- The items of a sequence. -/
def items? (y : Yaml) : Option (List Yaml) :=
  match y.untagged with
  | .seq items => some items
  | _ => none

/-- The entries of a mapping. -/
def entries? (y : Yaml) : Option (List (Yaml × Yaml)) :=
  match y.untagged with
  | .map entries => some entries
  | _ => none

/-- Whether the value is a mapping. -/
def isMap (y : Yaml) : Bool := y.entries?.isSome

/-- The integer of an integer scalar. -/
def int? (y : Yaml) : Option Int :=
  match y.untagged with
  | .int n => some n
  | _ => none

/-- The truth value of a boolean scalar. -/
def flag? (y : Yaml) : Option Bool :=
  match y.untagged with
  | .flag b => some b
  | _ => none

/-- The text of a text, number or boolean that has no tag. -/
def text? : Yaml → Option String
  | .text s => some s
  | .int n => some (toString n)
  | .real x => some x.toText
  | .flag true => some "true"
  | .flag false => some "false"
  | _ => none

/-- Whether the value is the text `s` without a tag. -/
def isText (s : String) : Yaml → Bool
  | .text t => t == s
  | _ => false

/-- The value under a text key. -/
def find? (key : String) (entries : List (Yaml × Yaml)) : Option Yaml :=
  (entries.find? fun e => e.1.isText key).map (·.2)

/-- The value under a text key of a mapping. -/
def get? (y : Yaml) (key : String) : Option Yaml := y.entries?.bind (find? key)

/-- The value at the end of a path of keys. -/
def at? (y : Yaml) : List String → Option Yaml
  | [] => some y
  | key :: path => (y.get? key).bind (·.at? path)

/-- A mapping with text keys. -/
def dict (entries : List (String × Yaml)) : Yaml := .map (entries.map fun e => (.text e.1, e.2))

/-- A mapping of the entries that are present. -/
def object (entries : List (String × Option Yaml)) : Yaml :=
  dict (entries.filterMap fun e => e.2.map (e.1, ·))

/-- A sequence of texts. -/
def texts (items : List String) : Yaml := .seq (items.map .text)

mutual

/-- Equality of values: numbers as numbers, and mappings without regard to the order. -/
def same : Yaml → Yaml → Bool
  | .null, .null => true
  | .flag a, .flag b => a == b
  | .int a, .int b => a == b
  | .real a, .real b => a.same b
  | .text a, .text b => a == b
  | .seq a, .seq b => sameItems a b
  | .map a, .map b => a.length == b.length && coveredBy b a
  | .tagged s a, .tagged t b => s == t && same a b
  | _, _ => false
termination_by structural y => y

/-- Equality of sequences item by item. -/
def sameItems : List Yaml → List Yaml → Bool
  | [], [] => true
  | a :: as, b :: bs => same a b && sameItems as bs
  | _, _ => false
termination_by structural ys => ys

/-- Every entry of the second list is among those of the first. -/
def coveredBy (all : List (Yaml × Yaml)) : List (Yaml × Yaml) → Bool
  | [] => true
  | (k, v) :: rest => all.any (fun e => same k e.1 && same v e.2) && coveredBy all rest
termination_by structural es => es

end

/-! ## Deciding equality -/

mutual

/-- Whether two values are the same in every respect, the order of entries included. -/
def identical : Yaml → Yaml → Bool
  | .null, .null => true
  | .flag a, .flag b => a == b
  | .int a, .int b => a == b
  | .real a, .real b => a == b
  | .text a, .text b => a == b
  | .seq a, .seq b => identicalItems a b
  | .map a, .map b => identicalEntries a b
  | .tagged s a, .tagged t b => s == t && identical a b
  | _, _ => false
termination_by structural y => y

/-- Whether two lists of values are the same in every respect. -/
def identicalItems : List Yaml → List Yaml → Bool
  | [], [] => true
  | a :: as, b :: bs => identical a b && identicalItems as bs
  | _, _ => false
termination_by structural ys => ys

/-- Whether two lists of entries are the same in every respect. -/
def identicalEntries : List (Yaml × Yaml) → List (Yaml × Yaml) → Bool
  | [], [] => true
  | (k, v) :: es, e :: es' => identical k e.1 && identical v e.2 && identicalEntries es es'
  | _, _ => false
termination_by structural es => es

end

mutual

theorem identical_iff : ∀ a b : Yaml, identical a b = true ↔ a = b
  | .null, b | .flag _, b | .int _, b | .real _, b | .text _, b => by cases b <;> simp [identical]
  | .seq as, b => by cases b <;> simp [identical, identicalItems_iff as]
  | .map es, b => by cases b <;> simp [identical, identicalEntries_iff es]
  | .tagged _ a, b => by cases b <;> simp [identical, identical_iff a]

theorem identicalItems_iff : ∀ as bs : List Yaml, identicalItems as bs = true ↔ as = bs
  | [], bs => by cases bs <;> simp [identicalItems]
  | a :: as, bs => by cases bs <;> simp [identicalItems, identical_iff a, identicalItems_iff as]

theorem identicalEntries_iff :
    ∀ es es' : List (Yaml × Yaml), identicalEntries es es' = true ↔ es = es'
  | [], es' => by cases es' <;> simp [identicalEntries]
  | (k, v) :: es, es' => by
    cases es' <;> simp [identicalEntries, identical_iff k, identical_iff v, identicalEntries_iff es,
      Prod.ext_iff]

end

instance : DecidableEq Yaml := fun a b => decidable_of_iff _ (identical_iff a b)

end Yaml

end WorkloadForms
