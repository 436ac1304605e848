import WorkloadForms.Record.Source
import WorkloadForms.Text.Dictionary
import WorkloadForms.Vocabulary

/-!
# Codecs

A codec writes the values of a type as JSON and reads them from a source. The codec of a record is
made of its fields: each has a name, a codec for its value and a rule for when it is left out. In
reading a record unknown names are passed over, a name that stands twice is a mismatch, and a
missing field keeps the value of the record that the reading starts from, unless it is required.
-/

namespace WorkloadForms

/-- How the values of a type are written and read. -/
structure Codec (β : Type) where
  write : β → Json
  read : Source → Reading β

namespace Codec

/-- A text. -/
def text : Codec String := ⟨.text, Source.text⟩

/-- An integer of 32 bits. -/
def int32 : Codec Int32 where
  write n := .int n.toInt
  read s := do Source.orMismatch (Number.int32? (← s.int))

/-- An integer of 64 bits. -/
def int64 : Codec Int64 where
  write n := .int n.toInt
  read s := do Source.orMismatch (Number.int64? (← s.int))

/-- A truth value. -/
def flag : Codec Bool := ⟨.bool, Source.flag⟩

/-- A number of 32 bits or a text. -/
def intOrText : Codec IntOrText where
  write
    | .number n => .int n.toInt
    | .name s => .text s
  read := Source.intOrText

/-- A list kept in one text, which may be given as a list too. -/
def separated (sep : Char) : Codec String := ⟨.text, Source.separated sep⟩

/-- A word of a closed vocabulary. -/
def word [Vocabulary α] : Codec α where
  write a := .text (Vocabulary.word a)
  read := Source.word Vocabulary.ofWord?

/-- A value that may be absent. -/
def option (c : Codec β) : Codec (Option β) where
  write
    | some b => c.write b
    | none => .null
  read s := do
    let s ← s.resolved
    if ← s.isAbsent then return none else return some (← c.read s)

/-- A list. -/
def list (c : Codec β) : Codec (List β) where
  write bs := .list (bs.map c.write)
  read s := do
    let (items, closed) ← s.items
    let bs ← items.mapM c.read
    if closed then return bs else throw .malformed

/-- A dictionary of texts; of entries with the same key the last one stays. -/
def dictionary : Codec Dictionary where
  write d := .object (d.entries.map fun e => (e.1, .text e.2))
  read s := do
    let (members, closed) ← s.members
    let entries ← members.mapM fun m => do return (m.1, ← m.2.text)
    if closed then return Dictionary.ofList entries else throw .malformed

end Codec

/-- A field of records of type `R`. -/
structure Field (R : Type) where
  name : String
  /-- What is written for the field, nothing when it is left out. -/
  write : R → Option Json
  /-- Reads the field into a record. -/
  read : Source → R → Reading R
  required : Bool

namespace Field

/-- A field with the codec of its value; it is left out where `leaveOut` says so. -/
def of (name : String) (c : Codec β) (get : R → β) (set : β → R → R) (leaveOut : β → Bool) :
    Field R where
  name := name
  write r := if leaveOut (get r) then none else some (c.write (get r))
  read s r := do return set (← c.read s) r
  required := false

/-- A field that is always written. -/
def always (name : String) (c : Codec β) (get : R → β) (set : β → R → R) : Field R :=
  of name c get set fun _ => false

/-- A field that is always written and must be given. -/
def needed (name : String) (c : Codec β) (get : R → β) (set : β → R → R) : Field R :=
  { always name c get set with required := true }

/-- A field that may be absent. -/
def optional (name : String) (c : Codec β) (get : R → Option β) (set : Option β → R → R) :
    Field R :=
  of name c.option get set Option.isNone

/-- A list that is left out when it is empty. -/
def list (name : String) (c : Codec β) (get : R → List β) (set : List β → R → R) : Field R :=
  of name c.list get set List.isEmpty

/-- A flag that is left out when it is not set. -/
def flag (name : String) (get : R → Bool) (set : Bool → R → R) : Field R :=
  of name Codec.flag get set (!·)

/-- Reads named members into a record; the names of the fields read are collected. -/
def readNamed (fields : List (Field R)) :
    List (String × Source) → List String → R → Reading (List String × R)
  | [], seen, r => return (seen, r)
  | (name, s) :: rest, seen, r =>
    match fields.find? (·.name == name) with
    | none => do
      s.skip
      readNamed fields rest seen r
    | some f =>
      if seen.contains name then throw .mismatch
      else do readNamed fields rest (name :: seen) (← f.read s r)

/-- Reads fields in order into a record. -/
def readPositional (closed : Bool) (surplus : ReadFault) :
    List (Field R) → List Source → R → Reading R
  | f :: fields, s :: rest, r => do readPositional closed surplus fields rest (← f.read s r)
  | [], _ :: _, _ => throw surplus
  | fields, [], r =>
    if !closed then throw .malformed
    else if fields.any (·.required) then throw .mismatch
    else return r

end Field

/-- The codec of a record with these fields; `start` holds the values of missing fields. -/
def Codec.record (fields : List (Field R)) (start : R) : Codec R where
  write r := .object (fields.filterMap fun f => (f.write r).map (f.name, ·))
  read s := do
    match ← s.layout with
    | .named members closed =>
      let (seen, r) ← Field.readNamed fields members [] start
      if !closed then throw .malformed
      else if fields.any fun f => f.required && !seen.contains f.name then throw .mismatch
      else return r
    | .positional items closed surplus => Field.readPositional closed surplus fields items start

namespace Codec

/-- Reads a JSON value. -/
def ofJson? (c : Codec β) (j : Json) : Option β :=
  match c.read (Source.ofJson j) 0 with
  | .ok (b, _) => some b
  | .error _ => none

/-- Reads a JSON text in the order in which it arrives. -/
def ofJsonText (c : Codec β) (s : String) : Except ReadFault β :=
  let (d, ended) := Json.Document.ofText s
  match c.read (.json true d) 0 with
  | .ok (b, _) => if ended then .ok b else .error .malformed
  | .error e => .error e

/-- Reads a YAML text. -/
def ofYamlText? (c : Codec β) (s : String) : Option β := do
  let g ← Yaml.Graph.ofText? s
  match c.read (.yaml g Yaml.depthLimit g.root) g.allowance with
  | .ok (b, _) => some b
  | .error _ => none

end Codec

end WorkloadForms
