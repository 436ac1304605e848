import WorkloadForms.Yaml.Cursor

/-!
# Blanks between the words of a scalar

Between two words of a plain or quoted scalar stand blanks and line breaks. Blanks on one line
are kept; a line break is folded: a single line feed reads as a space, further ones are kept and
the blanks around them are lost.
-/

namespace WorkloadForms.Yaml

/-- What stands between two words: blanks on one line, or the first break (nothing for one that
is escaped) and the breaks that follow it. The lists are in reverse. -/
inductive Gap where
  | inline (blanks : List Char)
  | folded (first : List Char) (more : List Char)
  deriving Repr, Inhabited

namespace Gap

/-- Whether the gap has a line break. -/
def isFolded : Gap → Bool
  | .folded .. => true
  | .inline _ => false

/-- What the gap is read as, in reverse. -/
def text : Gap → List Char
  | .inline blanks => blanks
  | .folded ['\n'] [] => [' ']
  | .folded ['\n'] more => more
  | .folded first more => more ++ first

/-- The gap with a further blank. -/
def blank (g : Gap) (x : Char) : Gap :=
  match g with
  | .inline blanks => .inline (x :: blanks)
  | g => g

/-- The gap with a further line break. -/
def lineBreak (g : Gap) (x : Char) : Gap :=
  match g with
  | .inline _ => .folded [x] []
  | .folded first more => .folded first (x :: more)

/-- Reads blanks and breaks; `n` bounds their number. A tab to the left of `margin` on a
continuation line is refused. -/
def read (margin : Nat) : Nat → Gap → Cursor → Option (Gap × Cursor)
  | 0, g, c => some (g, c)
  | n + 1, g, c =>
    match c.break? with
    | some (x, c) => read margin n (g.lineBreak x) c
    | none =>
      match c.peek 0 with
      | some x =>
        if isGap x then
          if g.isFolded && c.column < margin && x == '\t' then none
          else read margin n (g.blank x) (c.skip 1)
        else some (g, c)
      | none => some (g, c)

end Gap

end WorkloadForms.Yaml
