import WorkloadForms.Yaml.Token

/-!
# Nodes of a YAML document

The nodes that the tokens of a text form, before scalars are given a type: a scalar with its style
and tag, a sequence, a mapping, or an alias of another node. `Graph.ofTokens?` reads the single
document of a text.

An alias refers to the number of an anchor. An anchor takes the count of the names known so far as
its number, so that a name which is given again may share its number with the name after it; the
node that started last with a number is the one that its aliases mean.
-/

namespace WorkloadForms.Yaml

/-- A node. -/
inductive Node where
  | scalar (content : String) (style : Style) (tag : Option String)
  | seq (tag : Option String) (items : List Node)
  | map (tag : Option String) (entries : List (Node × Node))
  | alias (number : Nat)
  deriving Repr, Inhabited

namespace Node

/-- The node of a place where nothing is written. -/
def absent : Node := .scalar "" .plain none

/-- The tag of a node. -/
def tag? : Node → Option String
  | .scalar _ _ t => t
  | .seq t _ => t
  | .map t _ => t
  | .alias _ => none

end Node

/-- The anchors of a document: the number of every name, and for every number the nodes that have
it, the one that started last in front. -/
structure Anchors where
  names : List (String × Nat)
  owners : List (Nat × Nat)
  nodes : List (Nat × Node)
  count : Nat
  deriving Repr, Inhabited

namespace Anchors

/-- No anchors. -/
def none : Anchors := ⟨[], [], [], 0⟩

/-- Gives a name to the node that starts now; the serial number of the node is returned. -/
def start (a : Anchors) (name : String) : Nat × Anchors :=
  let number := a.names.length
  let others := a.names.filter (·.1 != name)
  (a.count,
    { a with
      names := (name, number) :: others, owners := (number, a.count) :: a.owners
      count := a.count + 1 })

/-- Records the node of a serial number. -/
def finish (a : Anchors) (serial : Nat) (node : Node) : Anchors :=
  { a with nodes := (serial, node) :: a.nodes }

/-- The node that an alias of this number means. -/
def node? (a : Anchors) (number : Nat) : Option Node :=
  (a.owners.lookup number).bind fun serial => a.nodes.lookup serial

end Anchors

/-- A document: its root, its anchors, and how many scalars, aliases and ends of collections it
has. -/
structure Graph where
  root : Node
  anchors : Anchors
  size : Nat
  deriving Repr, Inhabited

namespace Graph

/-- What remains to be read, the expansions of the tag handles, and the anchors so far. -/
structure Reading where
  tokens : List Token
  handles : List (String × String)
  anchors : Anchors
  size : Nat

/-- Reading steps that may fail. -/
abbrev Step := StateT Reading Option

/-- The next token. -/
def peek : Step (Option Token) := do return (← get).tokens.head?

/-- Moves behind the next token. -/
def skip : Step Unit := modify fun r => { r with tokens := r.tokens.drop 1 }

/-- Counts a part of the document. -/
def tick : Step Unit := modify fun r => { r with size := r.size + 1 }

/-- A sequence, whose start and end are two parts. -/
def sequence (tag : Option String) (items : List Node) : Step Node := do
  tick; tick; return .seq tag items

/-- A mapping, whose start and end are two parts. -/
def mapping (tag : Option String) (entries : List (Node × Node)) : Step Node := do
  tick; tick; return .map tag entries

/-- A node of which only the anchor or the tag is written. -/
def bare (anchored : Bool) (tag : Option String) : Step Node := do
  if anchored || tag.isSome then do tick; return .scalar "" .plain tag
  else failure

/-- Moves behind the next token if it is `t`. -/
def accept (t : Token) : Step Bool := do
  if (← peek) == some t then skip; return true else return false

/-- Whether a comma stands in front of an item or entry, which the first one does not need. -/
def separated (first : Bool) : Step Bool := if first then return true else accept .flowEntry

/-- A place where nothing is written. -/
def absent : Step Node := do tick; return .absent

/-- Whether the next token is one of these, or the end. -/
def endsAt (ts : List Token) : Step Bool := do
  match ← peek with
  | some t => return ts.contains t
  | none => return true

/-- The full name of a tag. -/
def expand (t : TagText) : Step String := do
  if t.handle.isEmpty then return t.suffix
  else match (← get).handles.lookup t.handle with
    | some expansion => return expansion ++ t.suffix
    | none => failure

/-- An anchor and a tag in front of a node, in either order. -/
def properties : Step (Option String × Option TagText) := do
  match ← peek with
  | some (.anchor name) =>
    skip
    match ← peek with
    | some (.tag t) => skip; return (some name, some t)
    | _ => return (some name, none)
  | some (.tag t) =>
    skip
    match ← peek with
    | some (.anchor name) => skip; return (some name, some t)
    | _ => return (none, some t)
  | _ => return (none, none)

/-- Reads a node under its anchor. -/
def anchored (name : Option String) (read : Step Node) : Step Node := do
  match name with
  | none => read
  | some name =>
    let (serial, anchors) := (← get).anchors.start name
    modify fun r => { r with anchors }
    let node ← read
    modify fun r => { r with anchors := r.anchors.finish serial node }
    return node

/-- The alias of a name that has been given. -/
def aliasOf (name : String) : Step Node := do
  match (← get).anchors.names.lookup name with
  | some number => tick; return .alias number
  | none => failure

mutual

/-- A node. In a block it may be a block collection; as the key or value of a block mapping it may
be a sequence whose dashes stand at the indentation of the mapping. -/
def node (inBlock dashes : Bool) : Nat → Step Node
  | 0 => failure
  | n + 1 => do
    match ← peek with
    | some (.alias name) => skip; aliasOf name
    | _ =>
      let (anchor, tagText) ← properties
      let tag ← match tagText with
        | some t => do pure (some (← expand t))
        | none => pure none
      anchored anchor do
        match ← peek with
        | some .blockEntry =>
          if dashes then do sequence tag (← dashItems n) else bare anchor.isSome tag
        | some (.scalar s style) => do skip; tick; return .scalar s style tag
        | some .flowSequenceStart => do skip; sequence tag (← flowItems true n)
        | some .flowMappingStart => do skip; mapping tag (← flowEntries true n)
        | some .blockSequenceStart =>
          if inBlock then do skip; sequence tag (← blockItems n) else bare anchor.isSome tag
        | some .blockMappingStart =>
          if inBlock then do skip; mapping tag (← blockEntries n) else bare anchor.isSome tag
        | _ => bare anchor.isSome tag

/-- The items of a block sequence up to its end. -/
def blockItems : Nat → Step (List Node)
  | 0 => failure
  | n + 1 => do
    if ← accept .blockEntry then
      let item ← if ← endsAt [.blockEntry, .blockEnd] then absent else node true false n
      return item :: (← blockItems n)
    else if ← accept .blockEnd then return []
    else failure

/-- The items of a sequence whose dashes stand at the indentation of the mapping around it. -/
def dashItems : Nat → Step (List Node)
  | 0 => failure
  | n + 1 => do
    if ← accept .blockEntry then
      let item ←
        if ← endsAt [.blockEntry, .key, .value, .blockEnd] then absent else node true false n
      return item :: (← dashItems n)
    else return []

/-- The entries of a block mapping up to its end. -/
def blockEntries : Nat → Step (List (Node × Node))
  | 0 => failure
  | n + 1 => do
    if ← accept .key then
      let key ← if ← endsAt [.key, .value, .blockEnd] then absent else node true true n
      let value ←
        if ← accept .value then
          if ← endsAt [.key, .value, .blockEnd] then absent else node true true n
        else absent
      return (key, value) :: (← blockEntries n)
    else if ← accept .blockEnd then return []
    else failure

/-- The items of a flow sequence up to its bracket. An item with a key is a mapping of one
entry. -/
def flowItems (first : Bool) : Nat → Step (List Node)
  | 0 => failure
  | n + 1 => do
    if ← accept .flowSequenceEnd then return []
    else if !(← separated first) then failure
    else if ← accept .key then
      let item ← flowPair n
      return item :: (← flowItems false n)
    else if ← accept .flowSequenceEnd then return []
    else
      let item ← node false false n
      return item :: (← flowItems false n)

/-- The mapping of one entry in a flow sequence, behind the mark of its key. An indicator where
the key is missing is passed over. -/
def flowPair : Nat → Step Node
  | 0 => failure
  | n + 1 => do
    let missing := (← peek).any [.value, .flowEntry, .flowSequenceEnd].contains
    let key ← if missing then do skip; absent else node false false n
    let value ←
      if ← accept .value then
        if ← endsAt [.flowEntry, .flowSequenceEnd] then absent else node false false n
      else absent
    mapping none [(key, value)]

/-- The entries of a flow mapping up to its brace. -/
def flowEntries (first : Bool) : Nat → Step (List (Node × Node))
  | 0 => failure
  | n + 1 => do
    if ← accept .flowMappingEnd then return []
    else if !(← separated first) then failure
    else if ← accept .key then
      let key ←
        if ← endsAt [.value, .flowEntry, .flowMappingEnd] then absent else node false false n
      let value ←
        if ← accept .value then
          if ← endsAt [.flowEntry, .flowMappingEnd] then absent else node false false n
        else absent
      return (key, value) :: (← flowEntries false n)
    else if ← accept .flowMappingEnd then return []
    else
      let key ← node false false n
      let value ← absent
      return (key, value) :: (← flowEntries false n)

end

/-- The directives in front of a document; `n` bounds their number. A version other than 1.1 and
1.2, a second version and a second expansion of one handle are refused. -/
def directives (version : Bool) (handles : List (String × String)) :
    List Token → Option (List (String × String) × List Token)
  | .version major minor :: ts =>
    if version || major != 1 || (minor != 1 && minor != 2) then none
    else directives true handles ts
  | .tagHandle handle expansion :: ts =>
    if handles.any (·.1 == handle) then none
    else directives version (handles ++ [(handle, expansion)]) ts
  | ts => some (handles, ts)

/-- The handles that every document knows, behind those it declares. -/
def allHandles (declared : List (String × String)) : List (String × String) :=
  declared ++ [("!", "!"), ("!!", "tag:yaml.org,2002:")]

/-- A token behind which a document has not begun. -/
def startsNoContent : Token → Bool
  | .documentStart => true
  | .documentEnd => true
  | .version .. => true
  | .tagHandle .. => true
  | _ => false

/-- The document of a text: nothing but ends of documents may follow it. -/
def ofTokens? (ts : List Token) : Option Graph := do
  let (handles, rest) ← directives false [] ts
  let declared := rest.length != ts.length
  let (explicit, rest) ← match rest with
    | .documentStart :: rest => some (true, rest)
    | rest => if declared then none else some (false, rest)
  let reading : Reading := ⟨rest, allHandles handles, .none, 0⟩
  let isEmpty := rest.isEmpty || (explicit && rest.head?.any startsNoContent)
  let (root, reading) ← (if isEmpty then absent else node true false (3 * rest.length + 3)) reading
  if (reading.tokens.dropWhile (· == .documentEnd)).isEmpty then
    return ⟨root, reading.anchors, reading.size⟩
  else none

end Graph

end WorkloadForms.Yaml
