import WorkloadForms.Json.Document
import WorkloadForms.Number.IntOrText
import WorkloadForms.Number.Word
import WorkloadForms.Text.Token
import WorkloadForms.Yaml.Reading

/-!
# Places that records are read from

A source is a place in a JSON value, in a JSON text that is read while it arrives, or in a YAML
document. The readings below take one value of a given type from a source.

A reading of a JSON text stops at the first fault in the order of the text: `malformed` where the
text is no JSON, `mismatch` where it is JSON of another shape. A reading of YAML spends from the
document's allowance of aliases.
-/

namespace WorkloadForms

/-- Why a reading stops. -/
inductive ReadFault where
  | malformed
  | mismatch
  deriving DecidableEq, Repr

/-- Reading steps; the state is the allowance of aliases. -/
abbrev Reading := StateT Nat (Except ReadFault)

/-- A place in a document. A JSON document is either the text as it arrives or a whole value. A
YAML node stands where so many collections may still be opened. -/
inductive Source where
  | json (arriving : Bool) (document : Json.Document)
  | yaml (graph : Yaml.Graph) (depth : Nat) (node : Yaml.Node)

/-- The fault of a value of another type than the one asked for. -/
def Json.Document.fault : Json.Document → ReadFault
  | .broken => .malformed
  | .unusable => .malformed
  | _ => .mismatch

/-- Whether a fault of the text stands inside of the value. -/
def Json.Document.isBroken : Json.Document → Bool
  | .broken => true
  | .list _ closed => !closed
  | .object _ closed => !closed
  | _ => false

mutual

/-- A value as a document without faults. -/
def Json.Document.ofJson : Json → Json.Document
  | .null => .null
  | .bool b => .bool b
  | .int n => .int n
  | .decimal l => .decimal l
  | .text s => .text s
  | .list items => .list (Json.Document.ofItems items) true
  | .object members => .object (Json.Document.ofMembers members) true

/-- Every item as a document. -/
def Json.Document.ofItems : List Json → List Json.Document
  | [] => []
  | j :: js => Json.Document.ofJson j :: Json.Document.ofItems js

/-- Every member as a document. -/
def Json.Document.ofMembers : List (String × Json) → List (String × Json.Document)
  | [] => []
  | (name, j) :: ms => (name, Json.Document.ofJson j) :: Json.Document.ofMembers ms

end

/-- What a record is read from: named members, or its fields in order. `closed` says that the text
goes on behind them, and `surplus` is the fault of an item too many. -/
inductive Layout where
  | named (members : List (String × Source)) (closed : Bool)
  | positional (items : List Source) (closed : Bool) (surplus : ReadFault)

namespace Source

/-- A whole JSON value. -/
def ofJson (j : Json) : Source := .json false (Json.Document.ofJson j)

/-- The fault of a surplus in a JSON document. -/
def surplusFault (arriving : Bool) : ReadFault := if arriving then .malformed else .mismatch

/-- A step that spends from the allowance of aliases. -/
def spending (step : Yaml.Spending α) : Reading α := fun allowance =>
  match step allowance with
  | some r => .ok r
  | none => .error .mismatch

/-- The value that is there, or a mismatch. -/
def orMismatch : Option α → Reading α
  | some a => pure a
  | none => throw .mismatch

/-- The source itself, or the one that an alias means. -/
def resolved : Source → Reading Source
  | .yaml g depth n => do return .yaml g depth (← spending (g.deref n)).1
  | s => pure s

/-- The node that a YAML node means. -/
def target (g : Yaml.Graph) (n : Yaml.Node) : Reading Yaml.Node := do
  return (← spending (g.deref n)).1

/-- Whether a value is null, or a plain YAML scalar that says so. -/
def isAbsent : Source → Reading Bool
  | .json _ .null => pure true
  | .json .. => pure false
  | .yaml _ _ (.scalar s .plain tag) =>
    match tag with
    | none => pure (s.isEmpty || Yaml.Scalar.isNullWord s)
    | some t =>
      if t == Yaml.coreTag "null" then
        if Yaml.Scalar.isNullWord s then pure true else throw .mismatch
      else pure false
  | .yaml .. => pure false

/-- A text. In YAML every scalar is one, as it is written. -/
def text : Source → Reading String
  | .json _ (.text s) => pure s
  | .json _ d => throw d.fault
  | .yaml g _ n => do
    match ← target g n with
    | .scalar s _ _ => return s
    | _ => throw .mismatch

/-- Whether a scalar is plain, or a literal one with this tag of the core set. -/
def isTyped (type : String) (style : Yaml.Style) (tag : Option String) : Bool :=
  style == .plain || (style == .literal && tag == some (Yaml.coreTag type))

/-- An integer of any size. -/
def int : Source → Reading Int
  | .json _ (.int n) => pure n
  | .json _ d => throw d.fault
  | .yaml g _ n => do
    match ← target g n with
    | .scalar s style tag =>
      if isTyped "int" style tag then orMismatch (Yaml.Scalar.integer? s.toList)
      else throw .mismatch
    | _ => throw .mismatch

/-- A truth value. -/
def flag : Source → Reading Bool
  | .json _ (.bool b) => pure b
  | .json _ d => throw d.fault
  | .yaml g _ n => do
    match ← target g n with
    | .scalar s style tag =>
      if isTyped "bool" style tag then orMismatch (Yaml.Scalar.flag? s) else throw .mismatch
    | _ => throw .mismatch

/-- A plain YAML scalar of which nothing is written. -/
def isBlankNode : Yaml.Node → Bool
  | .scalar s .plain _ => s.isEmpty
  | _ => false

/-- The items of a list, and whether it is closed. -/
def items : Source → Reading (List Source × Bool)
  | .json arriving (.list ds closed) => pure (ds.map (.json arriving), closed)
  | .json _ d => throw d.fault
  | .yaml g depth n => do
    match ← target g n, depth with
    | .seq _ ns, depth + 1 => return (ns.map (.yaml g depth), true)
    | n, _ => if isBlankNode n then return ([], true) else throw .mismatch

/-- The members of an object, and whether it is closed. -/
def members : Source → Reading (List (String × Source) × Bool)
  | .json arriving (.object ms closed) => pure (ms.map fun m => (m.1, .json arriving m.2), closed)
  | .json _ d => throw d.fault
  | .yaml g depth n => do
    match ← target g n, depth with
    | .map _ entries, depth + 1 => do
      let ms ← entries.mapM fun e => do return (← text (.yaml g depth e.1), .yaml g depth e.2)
      return (ms, true)
    | n, _ => if isBlankNode n then return ([], true) else throw .mismatch

/-- What a record is read from. -/
def layout : Source → Reading Layout
  | .json arriving (.list ds closed) =>
    pure (.positional (ds.map (.json arriving)) closed (surplusFault arriving))
  | s => do
    let (ms, closed) ← s.members
    return .named ms closed

/-- Passes over a value. -/
def skip : Source → Reading Unit
  | .json _ d => if d.isBroken then throw .malformed else pure ()
  | .yaml .. => pure ()

/-- A closed vocabulary: a word, or an object whose one member has the word as its name and is
null. In YAML a tag of the document's own in front of a null is the word. -/
def word (ofWord? : String → Option α) : Source → Reading α
  | .json _ (.text s) => orMismatch (ofWord? s)
  | .json arriving (.object ((name, content) :: rest) closed) => do
    let a ← orMismatch (ofWord? name)
    match content with
    | .null => if rest.isEmpty && closed then return a else throw (surplusFault arriving)
    | d => throw d.fault
  | .json arriving _ => throw (surplusFault arriving)
  | .yaml g _ n => do
    match ← target g n with
    | .scalar s style tag =>
      match Yaml.localTag? tag with
      | some name => do
        let a ← orMismatch (ofWord? name)
        if style == .plain && (s.isEmpty || Yaml.Scalar.isNullWord s) then return a
        else throw .mismatch
      | none => orMismatch (ofWord? s)
    | _ => throw .mismatch

/-- Whether the content of a variant may be read as a record. -/
def isPayload (arriving : Bool) : Json.Document → Bool
  | .object .. => true
  | _ => arriving

/-- A variant with a record as its content: an object with one member, named for the variant. In
YAML a tag of the document's own names the variant. -/
def variant (payload : String → Option (Source → Reading α)) : Source → Reading α
  | .json _ (.text _) => throw .mismatch
  | .json arriving (.object ((name, content) :: rest) closed) => do
    let read ← orMismatch (payload name)
    if isPayload arriving content then
      let a ← read (.json arriving content)
      if rest.isEmpty && closed then return a else throw (surplusFault arriving)
    else throw .mismatch
  | .json arriving _ => throw (surplusFault arriving)
  | .yaml g depth n => do
    let n ← target g n
    match Yaml.localTag? n.tag? with
    | some name => (← orMismatch (payload name)) (.yaml g depth n)
    | none => throw .mismatch

/-- The text of a JSON text or of a YAML text without a tag. -/
def yamlText? : Yaml → Option String
  | .text s => some s
  | _ => none

/-- A list given as a text, as a list of texts, or as nothing: the texts with the separator
between them. -/
def separated (sep : Char) : Source → Reading String
  | .json _ d =>
    match d.toJson? with
    | some .null => pure ""
    | some (.text s) => pure s
    | some (.list js) => do return Text.joined sep (← orMismatch (js.mapM Json.text?))
    | some _ => throw .mismatch
    | none => throw .malformed
  | .yaml g depth n => do
    let n ← target g n
    if ← isAbsent (.yaml g depth n) then return ""
    else match ← spending (g.value depth false n) with
      | .text s => return s
      | .seq ys => do return Text.joined sep (← orMismatch (ys.mapM yamlText?))
      | _ => throw .mismatch

/-- A number of 32 bits or a text. In YAML the scalar is given its type first. -/
def intOrText : Source → Reading IntOrText
  | .json _ (.int n) => do return .number (← orMismatch (Number.int32? n))
  | .json _ (.text s) => pure (.name s)
  | .json _ d => throw d.fault
  | .yaml g depth n => do
    match ← spending (g.value depth false n) with
    | .int n => return .number (← orMismatch (Number.int32? n))
    | .text s => return .name s
    | _ => throw .mismatch

end Source

end WorkloadForms
