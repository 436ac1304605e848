import WorkloadForms.Yaml.Value
import WorkloadForms.Yaml.Quoting

/-!
# Writing YAML

`Yaml.write` writes a value in block style: two spaces for every level, a sequence under a key at
the indentation of the key, a mapping or sequence in an item on the line of its dash. Empty
collections are `[]` and `{}`. A key that has a line break or takes more than `simpleKeyLimit`
octets follows a question mark.
-/

namespace WorkloadForms.Yaml

/-- The longest key, in octets, that stands in front of its colon. -/
def simpleKeyLimit : Nat := 128

/-- A text in the form chosen for it, with the break that ends its line. -/
def textLine (indent : Nat) (s : String) : List Char :=
  match ScalarForm.choose s with
  | .plain => s.toList ++ ['\n']
  | .single => singleQuoted indent s.toList ++ ['\n']
  | .double => doubleQuoted s.toList ++ ['\n']
  | .literal => literal indent s.toList

/-- Whether a key stands in front of its colon. -/
def isSimpleKey (s : String) : Bool := !s.toList.any isBreak && s.utf8ByteSize ≤ simpleKeyLimit

/-- A scalar or an empty collection, with the break that ends its line. -/
def scalarLine (indent : Nat) : Yaml → List Char
  | .null => "null\n".toList
  | .flag true => "true\n".toList
  | .flag false => "false\n".toList
  | .int n => (toString n).toList ++ ['\n']
  | .real x => x.toText.toList ++ ['\n']
  | .text s => textLine indent s
  | .seq _ => "[]\n".toList
  | .map _ => "\x7b\x7d\n".toList
  | .tagged .. => ['\n']

/-- A key up to its colon. A key that is not a text is written as its text. -/
def keyChars (indent : Nat) (k : Yaml) : List Char :=
  match k with
  | .text s =>
    if isSimpleKey s then (textLine (indent + 2) s).dropLast
    else '?' :: ' ' :: textLine (indent + 2) s ++ pad indent
  | k => (scalarLine (indent + 2) k).dropLast

mutual

/-- What follows the dash of an item or the colon behind a key with a question mark; `indent` is
that of the dash. -/
def afterDash (indent : Nat) : Yaml → List Char
  | .seq (item :: items) => ' ' :: itemLines (indent + 2) (item :: items)
  | .map (entry :: entries) => ' ' :: entryLines (indent + 2) (entry :: entries)
  | .tagged tag content => ' ' :: '!' :: tag.toList ++ afterDash indent content
  | scalar => ' ' :: scalarLine (indent + 2) scalar

/-- What follows the colon of a key; `indent` is that of the key. -/
def afterColon (indent : Nat) : Yaml → List Char
  | .seq (item :: items) => '\n' :: pad indent ++ itemLines indent (item :: items)
  | .map (entry :: entries) =>
    '\n' :: pad (indent + 2) ++ entryLines (indent + 2) (entry :: entries)
  | .tagged tag content => ' ' :: '!' :: tag.toList ++ afterColon indent content
  | scalar => ' ' :: scalarLine (indent + 2) scalar

/-- Items, the first one without its indentation. -/
def itemLines (indent : Nat) : List Yaml → List Char
  | [] => []
  | [item] => '-' :: afterDash indent item
  | item :: items => '-' :: afterDash indent item ++ pad indent ++ itemLines indent items

/-- Entries, the first one without its indentation. -/
def entryLines (indent : Nat) : List (Yaml × Yaml) → List Char
  | [] => []
  | [(k, v)] => keyChars indent k ++ ':' :: afterColon indent v
  | (k, v) :: entries =>
    keyChars indent k ++ ':' :: afterColon indent v ++ pad indent ++ entryLines indent entries

end

/-- The text of a document. -/
def write (y : Yaml) : String :=
  String.ofList <| match y with
  | .seq (item :: items) => itemLines 0 (item :: items)
  | .map (entry :: entries) => entryLines 0 (entry :: entries)
  | .tagged tag content => '!' :: tag.toList ++ afterColon 0 content
  | scalar => scalarLine 2 scalar

end WorkloadForms.Yaml
