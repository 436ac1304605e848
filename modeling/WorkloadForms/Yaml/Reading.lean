import WorkloadForms.Yaml.Scalar
import WorkloadForms.Yaml.Node
import WorkloadForms.Yaml.Token.Scan

/-!
# Reading YAML values

The value of a document: scalars get their types, aliases are replaced by the nodes they mean.
Refused are a key that stands twice in a mapping, collections nested more than `depthLimit` deep,
and more replacements of aliases than a hundred for every part of the document.

`Yaml.ofText?` reads a text.
-/

namespace WorkloadForms.Yaml

/-- How deeply collections may be nested. -/
def depthLimit : Nat := 128

/-- How many aliases may be replaced for every part of a document. -/
def aliasesPerPart : Nat := 100

/-- The name of a tag of the document's own, which starts with an exclamation mark. -/
def localTag? (tag : Option String) : Option String :=
  match tag.map String.toList with
  | some ['!'] => some "!"
  | some ('!' :: name) => some (String.ofList name)
  | _ => none

/-- The full name of a tag of the core set. -/
def coreTag (name : String) : String := "tag:yaml.org,2002:" ++ name

/-- The value of a plain scalar. -/
def ofPlain? (s : String) : Option Yaml :=
  match Scalar.resolve s with
  | .null => some .null
  | .flag b => some (.flag b)
  | .int n => some (.int n)
  | .wide => none
  | .real x => some (.real x)
  | .text => some (.text s)

/-- The value of a scalar without regard to a tag. -/
def ofScalar? (s : String) (style : Style) : Option Yaml :=
  if style == .plain then ofPlain? s else some (.text s)

/-- The value of a scalar with a tag that is not the document's own. A tag of the core set demands
its type, any other makes a text. -/
def ofTaggedScalar? (tag s : String) : Option Yaml :=
  if tag == coreTag "bool" then (Scalar.flag? s).map .flag
  else if tag == coreTag "int" then
    match Scalar.integral? s with
    | some (.int n) => some (.int n)
    | _ => none
  else if tag == coreTag "float" then (Scalar.real? s.toList).map .real
  else if tag == coreTag "null" then if Scalar.isNullWord s then some .null else none
  else some (.text s)

/-- The value of a scalar; `named` says that its tag has been dealt with. -/
def scalarValue? (named : Bool) (s : String) (style : Style) (tag : Option String) :
    Option Yaml :=
  match named, tag with
  | false, some t => ofTaggedScalar? t s
  | _, _ => ofScalar? s style

/-- Steps that may fail and that spend from an allowance of aliases. -/
abbrev Spending := StateT Nat Option

/-- Takes one alias from the allowance. -/
def spend : Spending Unit := do
  match ← get with
  | 0 => failure
  | n + 1 => set n

/-- The node itself, or the one that an alias means, with whether it was one. -/
def Graph.deref (g : Graph) : Node → Spending (Node × Bool)
  | .alias number => do
    spend
    match g.anchors.node? number with
    | some n => return (n, true)
    | none => failure
  | n => return (n, false)

/-- The entries of a mapping without a key that stands twice. -/
def distinctEntries? : List (Yaml × Yaml) → Option (List (Yaml × Yaml))
  | [] => some []
  | (k, v) :: rest =>
    if rest.any fun e => same k e.1 then none else (distinctEntries? rest).map ((k, v) :: ·)

/-- The value of a node, where `inner` gives the values of the nodes inside and is missing when no
more collections may be opened; `named` says that the tag of the node has been dealt with. In a
mapping with a tag of its own the tags of the keys have no effect. -/
def Graph.valueWith (g : Graph) (inner : Option (Bool → Node → Spending Yaml)) (named : Bool)
    (node : Node) : Spending Yaml := do
  let (node, aliased) ← g.deref node
  let named := named && !aliased
  let own := if named then none else localTag? node.tag?
  let wrap (y : Yaml) : Yaml := match own with
    | some name => .tagged name y
    | none => y
  let named := named || own.isSome
  match node, inner with
  | .scalar s style tag, _ => return wrap (← (scalarValue? named s style tag : Option Yaml))
  | .seq _ items, some value => return wrap (.seq (← items.mapM (value false)))
  | .map _ entries, some value => do
    let entries ← entries.mapM fun e => do return (← value named e.1, ← value false e.2)
    return wrap (.map (← (distinctEntries? entries : Option (List (Yaml × Yaml)))))
  | _, _ => failure

/-- The value of a node; `depth` is how many collections may still be opened. -/
def Graph.value (g : Graph) : Nat → Bool → Node → Spending Yaml
  | 0 => g.valueWith none
  | depth + 1 => g.valueWith (some (g.value depth))

/-- The allowance of aliases of a document. -/
def Graph.allowance (g : Graph) : Nat := g.size * aliasesPerPart

/-- The document that a text writes. -/
def Graph.ofText? (s : String) : Option Graph := (Token.ofText? s).bind Graph.ofTokens?

/-- The value that a text writes. -/
def ofText? (s : String) : Option Yaml := do
  let g ← Graph.ofText? s
  (g.value depthLimit false g.root).run' g.allowance

/-- The value that a text writes is found by its characters. -/
theorem ofText?_of_toList {s : String} {cs : List Char} (chars : s.toList = cs) :
    ofText? s = (Token.ofChars? cs).bind fun ts => (Graph.ofTokens? ts).bind fun g =>
      (g.value depthLimit false g.root).run' g.allowance := by
  rw [← chars, ofText?, Graph.ofText?, Token.ofText?, Option.bind_eq_bind, Option.bind_assoc]

end WorkloadForms.Yaml
