import WorkloadForms.Schema
import WorkloadForms.Text.Blank
import WorkloadForms.Text.Dictionary
import WorkloadForms.Vocabulary
import WorkloadForms.Form.Descriptor

/-!
# Entries of a manifest

What is written for a setting of a form, and how a setting is read from an entry of a manifest. An
empty text and an empty list are not written. In reading, an entry that is missing or of another
type counts as not set, and an item of a list that is not of its type is dropped.
-/

namespace WorkloadForms

/-- The text itself, unless it is empty. -/
def filled (s : String) : Option String := if s.isEmpty then none else some s

namespace Yaml

/-- A text, unless it is empty. -/
def ofFilled (s : String) : Option Yaml := (filled s).map .text

/-- A sequence, unless it is empty. -/
def ofItems : List Yaml → Option Yaml
  | [] => none
  | items => some (.seq items)

/-- A sequence of texts, unless it is empty. -/
def ofTexts (ss : List String) : Option Yaml := ofItems (ss.map .text)

/-- A flag, unless it is not set. -/
def ofFlag (b : Bool) : Option Yaml := if b then some (.flag true) else none

/-- A number of 32 bits. -/
def ofInt32 (n : Int32) : Yaml := .int n.toInt

/-- A number of 64 bits. -/
def ofInt64 (n : Int64) : Yaml := .int n.toInt

/-- A number or a text. -/
def ofIntOrText : IntOrText → Yaml
  | .number n => ofInt32 n
  | .name s => .text s

/-- The word of a value of a closed vocabulary. -/
def ofWord [Vocabulary α] (a : α) : Yaml := .text (Vocabulary.word a)

/-- A dictionary as a mapping. -/
def ofDictionary (d : Dictionary) : Yaml := dict (d.entries.map fun e => (e.1, .text e.2))

/-- The text under a key. -/
def textAt? (y : Yaml) (key : String) : Option String := (y.get? key).bind text?

/-- The number of 32 bits under a key. -/
def int32At? (y : Yaml) (key : String) : Option Int32 := (y.get? key).bind int32?

/-- The number of 64 bits under a key. -/
def int64At? (y : Yaml) (key : String) : Option Int64 := (y.get? key).bind int64?

/-- Whether the flag under a key is set. -/
def flagAt (y : Yaml) (key : String) : Bool := ((y.get? key).bind flag?).getD false

/-- The word of a closed vocabulary under a key. -/
def wordAt? [Vocabulary α] (y : Yaml) (key : String) : Option α :=
  (y.textAt? key).bind Vocabulary.ofWord?

/-- The items under a key. -/
def itemsAt (y : Yaml) (key : String) : List Yaml := ((y.get? key).bind items?).getD []

/-- A command under a key, one word a line. -/
def linesAt (y : Yaml) (key : String) : String :=
  Text.joined '\n' ((y.itemsAt key).filterMap text?)

/-- The entries of a mapping whose keys and values are texts. -/
def rowsOf (y : Yaml) : List (String × String) :=
  (y.entries?.getD []).filterMap fun e => do return (← e.1.text?, ← e.2.text?)

/-- The rows under a key. -/
def rowsAt (y : Yaml) (key : String) : List (String × String) := ((y.get? key).map rowsOf).getD []

/-- Whether a key has a value that is neither null nor blank. -/
def hasKey (y : Yaml) (key : String) : Bool :=
  match y.get? key with
  | none => false
  | some .null => false
  | some (.text s) => !Text.blank s
  | some _ => true

/-- The word of a closed vocabulary in a field of an object. -/
def fieldWord? [Vocabulary α] (y : Yaml) (key : String) : Option α :=
  (y.fieldText? key).bind Vocabulary.ofWord?

end Yaml

/-- The object of a type under a key. -/
def Schema.at? (schema : Schema) (y : Yaml) (key : String) : Option Yaml :=
  schema.read? (y.get? key)

/-- The items of a type under a key that have all the keys required. -/
def Schema.itemsAt (schema : Schema) (required : List String) (y : Yaml) (key : String) :
    List Yaml :=
  (y.itemsAt key).filter fun item =>
    required.all item.hasKey && !item.holdsNull && schema.accepts item

end WorkloadForms
