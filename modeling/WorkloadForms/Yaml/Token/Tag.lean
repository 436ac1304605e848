import WorkloadForms.Yaml.Token
import WorkloadForms.Yaml.Cursor
import WorkloadForms.Text.Percent

/-!
# Reading directives, anchors and tags

Each reader takes the cursor at the indicator and gives what it read together with the cursor
behind it, or nothing when the text is not well formed there.
-/

namespace WorkloadForms.Yaml

/-- The word at the cursor and the place behind it. -/
def Cursor.word (c : Cursor) : List Char × Cursor :=
  let w := c.rest.takeWhile Text.isWord
  (w, c.skip w.length)

/-- A character of the name of a tag. -/
def isTagChar (c : Char) : Bool :=
  Text.isWord c || ";/?:@&=+$.%!~*'()".toList.contains c

/-- A character of a verbatim tag or of the expansion of a handle. -/
def isVerbatimTagChar (c : Char) : Bool := isTagChar c || c == ',' || c == '[' || c == ']'

/-- The name of a tag made of characters that satisfy `p`, with its percent escapes decoded, and
how many characters it takes. -/
def Cursor.tagName (c : Cursor) (p : Char → Bool) : Option (List Char × Cursor) := do
  let raw := c.rest.takeWhile p
  return (← Text.decodePercents? raw, c.skip raw.length)

/-- A handle: an exclamation mark, or two with a word between them. Without the second one the
characters read belong to the name of the tag. -/
def Cursor.tagHandle (c : Cursor) : Option (List Char × Cursor) :=
  if c.sees '!' then
    let (w, c) := (c.skip 1).word
    if c.sees '!' then some ('!' :: w ++ ['!'], c.skip 1) else some ('!' :: w, c)
  else none

/-- The tag at the cursor. -/
def readTag (inFlow : Bool) (c : Cursor) : Option (TagText × Cursor) := do
  let (t, c) ←
    if c.peek 1 == some '<' then do
      let (name, c) ← (c.skip 2).tagName isVerbatimTagChar
      if name.isEmpty || !c.sees '>' then none
      else some (TagText.mk "" (String.ofList name), c.skip 1)
    else do
      let (handle, c) ← c.tagHandle
      if handle.length > 1 && handle.getLast? == some '!' then do
        let (name, c) ← c.tagName isTagChar
        if name.isEmpty then none
        else some (TagText.mk (String.ofList handle) (String.ofList name), c)
      else do
        let (name, c) ← c.tagName isTagChar
        let suffix := handle.drop 1 ++ name
        if suffix.isEmpty then some (TagText.mk "" "!", c)
        else some (TagText.mk "!" (String.ofList suffix), c)
  if endsWord (c.peek 0) || (inFlow && c.sees ',') then some (t, c) else none

/-- The name behind `&` or `*`. -/
def readAnchorName (c : Cursor) : Option (String × Cursor) :=
  let (w, c) := (c.skip 1).word
  let closed := endsWord (c.peek 0) || match c.peek 0 with
    | some x => "?:,]\x7d%@\x60".toList.contains x
    | none => true
  if w.isEmpty || !closed then none else some (String.ofList w, c)

/-- A number of at most nine digits. -/
def Cursor.shortNumber (c : Cursor) : Option (Nat × Cursor) := do
  let ds := c.rest.takeWhile Text.isDigit
  let n ← Text.number? 10 ds
  if ds.length ≤ 9 then some (n, c.skip ds.length) else none

/-- What a `%YAML` directive says. -/
def readVersion (c : Cursor) : Option (Token × Cursor) := do
  let (major, c) ← (c.skipWhile isGap).shortNumber
  if c.sees '.' then
    let (minor, c) ← (c.skip 1).shortNumber
    return (.version major minor, c)
  else none

/-- What a `%TAG` directive says. -/
def readHandle (c : Cursor) : Option (Token × Cursor) := do
  let (handle, c) ← (c.skipWhile isGap).tagHandle
  if handle.length > 1 && handle.getLast? != some '!' then none
  else if !(c.rest.head?.any isGap) then none
  else
    let (expansion, c) ← (c.skipWhile isGap).tagName isVerbatimTagChar
    if expansion.isEmpty || !endsWord (c.peek 0) then none
    else return (.tagHandle (String.ofList handle) (String.ofList expansion), c)

/-- The directive at the cursor, which stands at a percent sign. -/
def readDirective (c : Cursor) : Option (Token × Cursor) := do
  let (name, c) := (c.skip 1).word
  if name.isEmpty || !endsWord (c.peek 0) then none
  else
    let (token, c) ←
      if name == "YAML".toList then readVersion c
      else if name == "TAG".toList then readHandle c
      else none
    return (token, ← c.nextLine?)

end WorkloadForms.Yaml
