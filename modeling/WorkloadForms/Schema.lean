import WorkloadForms.Number.IntOrText
import WorkloadForms.Number.Word
import WorkloadForms.Text.Time
import WorkloadForms.Yaml.Value

/-!
# Schemas of the objects in a manifest

A schema says which YAML values are objects of a type. An object of a type is accepted or refused
as a whole: keys that the schema does not know are of no account, a null is a missing field, but a
known field of the wrong type spoils the object. `Schema.read?` gives a value that is accepted, and
the readings after it take fields out of such a value.
-/

namespace WorkloadForms

/-- A type of values in a manifest. -/
inductive Schema where
  | text
  | int32
  | int64
  | flag
  | quantity
  | intOrText
  | time
  | any
  | list (item : Schema)
  | dictionary (value : Schema)
  | object (fields : List (String × Schema))
  deriving Repr, Inhabited

namespace Yaml

/-- The text of a text under any tags. -/
def string? (y : Yaml) : Option String :=
  match y.untagged with
  | .text s => some s
  | _ => none

/-- Whether a value is null without a tag. -/
def isNull : Yaml → Bool
  | .null => true
  | _ => false

/-- Whether nothing but null is under the tags. -/
def holdsNull (y : Yaml) : Bool := y.untagged.isNull

/-- An amount: a text, or an integer written out. -/
def quantity? : Yaml → Option String
  | .text s => some s
  | .int n => some (toString n)
  | _ => none

/-- A number of 32 bits or a text. -/
def intOrText? : Yaml → Option IntOrText
  | .text s => some (.name s)
  | .int n => (Number.int32? n).map .number
  | _ => none

/-- A number of 32 bits under any tags. -/
def int32? (y : Yaml) : Option Int32 := y.int?.bind Number.int32?

/-- A number of 64 bits under any tags. -/
def int64? (y : Yaml) : Option Int64 := y.int?.bind Number.int64?

/-- The value that an object has under a key: the last one, and none when that is null. -/
def field? (y : Yaml) (key : String) : Option Yaml := do
  let entries ← y.entries?
  let entry ← (entries.filter fun e => e.1.string? == some key).getLast?
  if entry.2.isNull then none else some entry.2

end Yaml

namespace Schema

mutual

/-- Whether a value is of a type. -/
def accepts : Schema → Yaml → Bool
  | .text, y => y.string?.isSome
  | .int32, y => y.int32?.isSome
  | .int64, y => y.int64?.isSome
  | .flag, y => y.flag?.isSome
  | .quantity, y => y.quantity?.isSome
  | .intOrText, y => y.intOrText?.isSome
  | .time, y => y.string?.any Text.isTime
  | .any, _ => true
  | .list item, y => y.holdsNull || y.items?.any fun ys => ys.all fun y => accepts item y
  | .dictionary value, y =>
    y.holdsNull || y.entries?.any fun es =>
      es.all fun e => e.1.string?.isSome && accepts value e.2
  | .object fields, y =>
    y.holdsNull || y.entries?.any fun es =>
      es.all (·.1.string?.isSome) && acceptsFields fields es

/-- Whether every known entry is null or of its type. -/
def acceptsFields : List (String × Schema) → List (Yaml × Yaml) → Bool
  | [], _ => true
  | (name, schema) :: fields, es =>
    es.all (fun e => e.1.string? != some name || e.2.isNull || accepts schema e.2)
      && acceptsFields fields es

end

/-- The entries of an object are null or of the types of their fields. -/
theorem acceptsFields_eq_all (fields : List (String × Schema)) (es : List (Yaml × Yaml)) :
    acceptsFields fields es = fields.all fun f =>
      es.all fun e => e.1.string? != some f.1 || e.2.isNull || accepts f.2 e.2 := by
  induction fields with
  | nil => rw [acceptsFields, List.all_nil]
  | cons f fields ih => rw [acceptsFields, ih, List.all_cons]

/-- A list is of a type when its items are. -/
theorem accepts_list (item : Schema) (y : Yaml) :
    (list item).accepts y = (y.holdsNull || y.items?.any fun ys => ys.all item.accepts) := by
  rw [accepts]

/-- A value that is there and of a type. -/
def read? (schema : Schema) (y : Option Yaml) : Option Yaml :=
  y.bind fun y => if !y.holdsNull && schema.accepts y then some y else none

end Schema

namespace Yaml

/-- The text of a field. -/
def fieldText? (y : Yaml) (key : String) : Option String := (y.field? key).bind string?

/-- The text of a required field, empty when it is missing. -/
def fieldText (y : Yaml) (key : String) : String := (y.fieldText? key).getD ""

/-- The number of a field. -/
def fieldInt32? (y : Yaml) (key : String) : Option Int32 := (y.field? key).bind int32?

/-- The number of a required field, zero when it is missing. -/
def fieldInt32 (y : Yaml) (key : String) : Int32 := (y.fieldInt32? key).getD 0

/-- The items of a field. -/
def fieldItems (y : Yaml) (key : String) : List Yaml := ((y.field? key).bind items?).getD []

/-- The texts of a field. -/
def fieldTexts (y : Yaml) (key : String) : List String := (y.fieldItems key).filterMap string?

/-- The flag of a field, not set when it is missing. -/
def fieldFlag (y : Yaml) (key : String) : Bool := ((y.field? key).bind flag?).getD false

end Yaml

end WorkloadForms
