import WorkloadForms.Yaml.Cursor
import WorkloadForms.Yaml.Token
import WorkloadForms.Text.Ascii

/-!
# Reading block scalars

A literal scalar keeps its line breaks; a folded one reads a single break between two lines that
do not start with a blank as a space. The indicators behind `|` or `>` give the indentation and
say what happens to the breaks at the end.
-/

namespace WorkloadForms.Yaml

/-- What happens to the line breaks at the end of a block scalar. -/
inductive Chomping where
  | strip
  | clip
  | keep
  deriving DecidableEq, Repr

/-- The chomping indicator at the cursor. -/
def Cursor.chomping? (c : Cursor) : Option (Chomping × Cursor) :=
  if c.sees '+' then some (.keep, c.skip 1)
  else if c.sees '-' then some (.strip, c.skip 1)
  else none

/-- The indentation indicator at the cursor, absent when there is none; a zero is refused. -/
def Cursor.indentation? (c : Cursor) : Option (Option Nat × Cursor) :=
  match c.peek 0 with
  | some x =>
    if x == '0' then none
    else if Text.isDigit x then some (some (x.toNat - '0'.toNat), c.skip 1)
    else some (none, c)
  | none => some (none, c)

/-- The indicators of a block scalar, in either order. -/
def Cursor.blockHeader? (c : Cursor) : Option (Chomping × Option Nat × Cursor) :=
  match c.chomping? with
  | some (chomping, c) => do
    let (indentation, c) ← c.indentation?
    return (chomping, indentation, c)
  | none => do
    let (indentation, c) ← c.indentation?
    match indentation, c.chomping? with
    | some _, some (chomping, c) => return (chomping, indentation, c)
    | _, _ => return (.clip, indentation, c)

/-- Blank lines and the indentation of the line after them: the breaks in reverse, the widest
indentation seen, and the place. An unknown indentation takes all spaces; a tab in it is
refused. -/
def readBlankLines (indent : Option Nat) :
    Nat → List Char → Nat → Cursor → Option (List Char × Nat × Cursor)
  | 0, breaks, widest, c => some (breaks, widest, c)
  | n + 1, breaks, widest, c =>
    let spaces := (c.rest.takeWhile (· == ' ')).length
    let c := c.skip (match indent with
      | some width => min spaces (width - c.column)
      | none => spaces)
    let widest := max widest c.column
    if c.sees '\t' && indent.all (c.column < ·) then none
    else match c.break? with
      | some (x, c) => readBlankLines indent n (x :: breaks) widest c
      | none => some (breaks, widest, c)

/-- The lines of a block scalar. `acc` holds the text so far in reverse, `lead` the break that
ended the last line, `breaks` the blank lines behind it in reverse, and `leadBlank` says whether
the last line started with a blank. -/
def readBlockLines (literal : Bool) (indent : Nat) :
    Nat → List Char → List Char → List Char → Bool → Cursor →
      Option (List Char × List Char × List Char × Cursor)
  | 0, acc, lead, breaks, _, c => some (acc, lead, breaks, c)
  | n + 1, acc, lead, breaks, leadBlank, c =>
    if c.column != indent || c.rest.isEmpty then some (acc, lead, breaks, c)
    else do
      let startsBlank := c.rest.head?.any isGap
      let joint :=
        if !literal && lead == ['\n'] && !leadBlank && !startsBlank then
          if breaks.isEmpty then [' '] else breaks
        else breaks ++ lead
      let line := c.rest.takeWhile (!isBreak ·)
      let acc := line.reverse ++ joint ++ acc
      let c := c.skip line.length
      let (lead, c) := match c.break? with
        | some (x, c) => ([x], c)
        | none => ([], c)
      let (breaks, _, c) ← readBlankLines (some indent) n [] 0 c
      readBlockLines literal indent n acc lead breaks startsBlank c

/-- The block scalar at the cursor, which stands at its indicator; `parent` is the indentation of
the collection around it, -1 outside of all, and `n` is greater than the length of what remains. -/
def readBlock (n : Nat) (parent : Int) (c : Cursor) : Option (Token × Cursor) := do
  let literal := c.sees '|'
  let (chomping, indentation, c) ← (c.skip 1).blockHeader?
  let c ← c.nextLine?
  let fixed := indentation.map fun width => (max parent 0).toNat + width
  let (breaks, widest, c) ← readBlankLines fixed n [] 0 c
  let indent := fixed.getD (max (max widest (parent + 1).toNat) 1)
  let (acc, lead, breaks, c) ←
    readBlockLines literal indent n [] [] breaks false c
  let ending := match chomping with
    | .strip => []
    | .clip => lead
    | .keep => breaks ++ lead
  let style := if literal then .literal else .folded
  return (.scalar (String.ofList (ending ++ acc).reverse) style, c)

end WorkloadForms.Yaml
