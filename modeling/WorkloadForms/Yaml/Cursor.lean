import WorkloadForms.Yaml.Character

/-!
# Places in a text

A cursor is what remains of a text, with the place where that starts: how many characters lie
before it, its line and its column.
-/

namespace WorkloadForms.Yaml

/-- A place in a text and what remains from there. -/
structure Cursor where
  rest : List Char
  index : Nat
  line : Nat
  column : Nat
  deriving Repr, Inhabited

namespace Cursor

/-- The start of a text. -/
def start (s : List Char) : Cursor := ⟨s, 0, 0, 0⟩

/-- The character `n` places ahead. -/
def peek (c : Cursor) (n : Nat) : Option Char := c.rest[n]?

/-- Whether the next character is `x`. -/
def sees (c : Cursor) (x : Char) : Bool := c.rest.head? == some x

/-- The place `n` characters further on the same line. -/
def skip (c : Cursor) (n : Nat) : Cursor := ⟨c.rest.drop n, c.index + n, c.line, c.column + n⟩

/-- The line break at this place, read as a line feed unless it is a separator, and the place
behind it. A carriage return takes a line feed behind it along. -/
def break? (c : Cursor) : Option (Char × Cursor) :=
  match c.rest with
  | '\r' :: '\n' :: rest => some ('\n', ⟨rest, c.index + 2, c.line + 1, 0⟩)
  | x :: rest =>
    if isBreak x then
      some (if isSeparator x then x else '\n', ⟨rest, c.index + 1, c.line + 1, 0⟩)
    else none
  | [] => none

/-- The place behind the characters at the front that satisfy `p`. -/
def skipWhile (c : Cursor) (p : Char → Bool) : Cursor := c.skip (c.rest.takeWhile p).length

/-- The place behind blanks and a comment, if one follows. -/
def skipToLineEnd (c : Cursor) : Cursor :=
  let c := c.skipWhile isGap
  if c.sees '#' then c.skipWhile (!isBreak ·) else c

/-- The place of the next line, when nothing but blanks and a comment remains on this one. -/
def nextLine? (c : Cursor) : Option Cursor :=
  let c := c.skipToLineEnd
  match c.break? with
  | some (_, c) => some c
  | none => if c.rest.isEmpty then some c else none

/-- Whether a line starts here with the three characters of a document marker. -/
def atMarker (c : Cursor) (x : Char) : Bool :=
  c.column == 0 && c.peek 0 == some x && c.peek 1 == some x && c.peek 2 == some x
    && endsWord (c.peek 3)

/-- Whether a marker of the start or the end of a document is here. -/
def atAnyMarker (c : Cursor) : Bool := c.atMarker '-' || c.atMarker '.'

end Cursor

end WorkloadForms.Yaml
