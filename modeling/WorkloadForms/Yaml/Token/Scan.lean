import WorkloadForms.Yaml.Token.Tag
import WorkloadForms.Yaml.Token.Quoted
import WorkloadForms.Yaml.Token.Plain
import WorkloadForms.Yaml.Token.Block

/-!
# Cutting a text into tokens

The scanner keeps the indentation of the open block collections and, for every open flow
collection, the last place where a simple key may have started: only at the colon behind it does
it show that it was one. A simple key stands on one line and takes at most 1024 characters.

`Token.ofText?` gives the tokens of a text, or nothing when the text cannot be cut.
-/

namespace WorkloadForms.Yaml

/-- A place where a simple key may have started. It is required where only a key can start: in a
block at the indentation of the mapping. -/
structure KeyCandidate where
  required : Bool
  tokenNumber : Nat
  index : Nat
  line : Nat
  column : Nat
  deriving Repr, Inhabited

/-- The state of the scanner. The tokens are in reverse. The candidate of the innermost flow
collection comes first in `candidates`, that of the block around all is the last. -/
structure Scanner where
  cursor : Cursor
  tokens : List Token
  tokenCount : Nat
  indent : Int
  outerIndents : List Int
  flowDepth : Nat
  keyAllowed : Bool
  candidates : List (Option KeyCandidate)
  deriving Repr, Inhabited

namespace Scanner

/-- The state at the start of a text. -/
def start (s : List Char) : Scanner := ⟨Cursor.start s, [], 0, -1, [], 0, true, [none]⟩

/-- Whether the scanner is inside a flow collection. -/
def inFlow (s : Scanner) : Bool := s.flowDepth != 0

/-- Adds a token. -/
def push (s : Scanner) (t : Token) : Scanner :=
  { s with tokens := t :: s.tokens, tokenCount := s.tokenCount + 1 }

/-- Inserts a token as the one with this number. -/
def insertAt (s : Scanner) (number : Nat) (t : Token) : Scanner :=
  let back := s.tokenCount - number
  { s with tokens := s.tokens.take back ++ t :: s.tokens.drop back, tokenCount := s.tokenCount + 1 }

/-- Adds a token of `n` characters and moves behind it. -/
def pushChars (s : Scanner) (t : Token) (n : Nat) : Scanner :=
  { s.push t with cursor := s.cursor.skip n }

/-- Forgets the candidate of the innermost collection; a required one is a fault. -/
def dropKey (s : Scanner) : Option Scanner :=
  match s.candidates with
  | some k :: rest => if k.required then none else some { s with candidates := none :: rest }
  | _ => some s

/-- Notes that a simple key may start here. -/
def saveKey (s : Scanner) : Option Scanner :=
  if s.keyAllowed then do
    let s ← s.dropKey
    let k : KeyCandidate :=
      { required := !s.inFlow && s.indent == (s.cursor.column : Int)
        tokenNumber := s.tokenCount
        index := s.cursor.index
        line := s.cursor.line
        column := s.cursor.column }
    return { s with candidates := some k :: s.candidates.drop 1 }
  else some s

/-- Whether a candidate can no longer be a simple key. -/
def isStale (s : Scanner) (k : KeyCandidate) : Bool :=
  k.line < s.cursor.line || k.index + 1024 < s.cursor.index

/-- Forgets the candidates that can no longer be simple keys; a required one is a fault. -/
def dropStale (s : Scanner) : Option Scanner :=
  let stale (k : Option KeyCandidate) : Bool := k.any s.isStale
  if s.candidates.any fun k => stale k && k.any (·.required) then none
  else some { s with candidates := s.candidates.map fun k => if stale k then none else k }

/-- Closes the block collections that are indented more than `column`. -/
def closeBlocks (s : Scanner) (column : Int) : List Int → Scanner
  | [] => s
  | outer :: rest =>
    if column < s.indent then
      closeBlocks { s.push .blockEnd with indent := outer, outerIndents := rest } column rest
    else s

/-- Closes the block collections that end at a column; flow collections ignore indentation. -/
def unroll (s : Scanner) (column : Int) : Scanner :=
  if s.inFlow then s else s.closeBlocks column s.outerIndents

/-- Opens a block collection at a column that is indented more, with the token at its place. -/
def roll (s : Scanner) (column : Nat) (number : Option Nat) (t : Token) : Scanner :=
  if s.inFlow || (column : Int) ≤ s.indent then s
  else
    let s := { s with indent := column, outerIndents := s.indent :: s.outerIndents }
    match number with
    | some n => s.insertAt n t
    | none => s.push t

/-- Moves to the next token over blanks, comments and line breaks; `n` bounds their number. Where
a simple key may start, a tab is no blank. -/
def toNextToken : Nat → Scanner → Scanner
  | 0, s => s
  | n + 1, s =>
    let c := s.cursor
    let c := if c.index == 0 && c.sees byteOrderMark then c.skip 1 else c
    let c := c.skipWhile fun x => x == ' ' || (x == '\t' && (s.inFlow || !s.keyAllowed))
    let c := if c.sees '#' then c.skipWhile (!isBreak ·) else c
    match c.break? with
    | some (_, c) => toNextToken n { s with cursor := c, keyAllowed := s.keyAllowed || !s.inFlow }
    | none => { s with cursor := c }

/-- A document marker or a directive closes all blocks. -/
def atDocumentEdge (s : Scanner) : Option Scanner := do
  let s ← (s.unroll (-1)).dropKey
  return { s with keyAllowed := false }

/-- A scalar, an alias, an anchor or a tag may start a simple key. -/
def node (s : Scanner) (read : Cursor → Option (Token × Cursor)) : Option Scanner := do
  let s ← s.saveKey
  let (t, c) ← read s.cursor
  return { s.push t with cursor := c, keyAllowed := false }

/-- A plain scalar; behind one that ends with its line a simple key may start. -/
def plain (n : Nat) (s : Scanner) : Option Scanner := do
  let s ← s.saveKey
  let (w, broken, c) ←
    readPlainWords s.inFlow (s.indent + 1).toNat n [] (.inline []) s.cursor
  return { s.push (.scalar (String.ofList w) .plain) with cursor := c, keyAllowed := broken }

/-- The start of a flow collection. -/
def openFlow (s : Scanner) (t : Token) : Option Scanner := do
  let s ← s.saveKey
  return { s.pushChars t 1 with
    flowDepth := s.flowDepth + 1, candidates := none :: s.candidates, keyAllowed := true }

/-- The end of a flow collection. -/
def closeFlow (s : Scanner) (t : Token) : Option Scanner := do
  let s ← s.dropKey
  let s := if s.inFlow then
    { s with flowDepth := s.flowDepth - 1, candidates := s.candidates.drop 1 } else s
  return { s.pushChars t 1 with keyAllowed := false }

/-- The dash of a block sequence. -/
def blockEntry (s : Scanner) : Option Scanner := do
  if !s.inFlow && !s.keyAllowed then none
  else
    let s ← (s.roll s.cursor.column none .blockSequenceStart).dropKey
    return { s.pushChars .blockEntry 1 with keyAllowed := true }

/-- The question mark in front of a key. -/
def explicitKey (s : Scanner) : Option Scanner := do
  if !s.inFlow && !s.keyAllowed then none
  else
    let s ← (s.roll s.cursor.column none .blockMappingStart).dropKey
    return { s.pushChars .key 1 with keyAllowed := !s.inFlow }

/-- The colon in front of a value: the candidate turns out to be a simple key, if there is one. -/
def value (s : Scanner) : Option Scanner :=
  match s.candidates with
  | some k :: rest =>
    let s := (s.insertAt k.tokenNumber .key).roll k.column (some k.tokenNumber) .blockMappingStart
    some { s.pushChars .value 1 with candidates := none :: rest, keyAllowed := false }
  | _ =>
    if !s.inFlow && !s.keyAllowed then none
    else
      let s := s.roll s.cursor.column none .blockMappingStart
      some { s.pushChars .value 1 with keyAllowed := !s.inFlow }

/-- The token at the cursor, which stands at a character that is not blank; `n` is greater than
the length of what remains. -/
def tokenAt (n : Nat) (s : Scanner) (x : Char) : Option Scanner :=
  let c := s.cursor
  let next := c.peek 1
  if c.column == 0 && x == '%' then do
    let s ← s.atDocumentEdge
    let (t, c) ← readDirective s.cursor
    return { s.push t with cursor := c }
  else if c.atMarker '-' then do return (← s.atDocumentEdge).pushChars .documentStart 3
  else if c.atMarker '.' then do return (← s.atDocumentEdge).pushChars .documentEnd 3
  else if x == '[' then s.openFlow .flowSequenceStart
  else if x == '\x7b' then s.openFlow .flowMappingStart
  else if x == ']' then s.closeFlow .flowSequenceEnd
  else if x == '\x7d' then s.closeFlow .flowMappingEnd
  else if x == ',' then do
    return { (← s.dropKey).pushChars .flowEntry 1 with keyAllowed := true }
  else if x == '-' && endsWord next then s.blockEntry
  else if x == '?' && (s.inFlow || endsWord next) then s.explicitKey
  else if x == ':' && (s.inFlow || endsWord next) then s.value
  else if x == '*' then s.node fun c => (readAnchorName c).map fun (w, c) => (.alias w, c)
  else if x == '&' then s.node fun c => (readAnchorName c).map fun (w, c) => (.anchor w, c)
  else if x == '!' then s.node fun c => (readTag s.inFlow c).map fun (t, c) => (.tag t, c)
  else if (x == '|' || x == '>') && !s.inFlow then do
    let s ← s.dropKey
    let (t, c) ← readBlock n s.indent s.cursor
    return { s.push t with cursor := c, keyAllowed := true }
  else if x == '\'' || x == '"' then s.node (readQuoted n)
  else if startsPlain s.inFlow x next then s.plain n
  else none

/-- The tokens up to the end of the text; `n` is greater than the length of what remains, and a
token takes a character at least. -/
def run : Nat → Scanner → Option (List Token)
  | 0, _ => none
  | n + 1, s => do
    let s := toNextToken (n + 1) s
    let s ← s.dropStale
    let s := s.unroll s.cursor.column
    match s.cursor.rest.head? with
    | some x => run n (← s.tokenAt (n + 1) x)
    | none => return (← s.atDocumentEdge).tokens.reverse

end Scanner

/-- The text without a mark of byte order at its start. -/
def withoutMark : List Char → List Char
  | c :: rest => if c = byteOrderMark then rest else c :: rest
  | [] => []

/-- The tokens of the characters of a text. -/
def Token.ofChars? (cs : List Char) : Option (List Token) :=
  let cs := withoutMark cs
  if cs.all isPermitted then (Scanner.start cs).run (cs.length + 2) else none

/-- The tokens of a text. -/
def Token.ofText? (s : String) : Option (List Token) := Token.ofChars? s.toList

end WorkloadForms.Yaml
