import WorkloadForms.Yaml.Token.Fold

/-!
# Reading plain scalars

A plain scalar is words with blanks between them. It ends at a comment, at a colon with a blank
behind it, in a flow collection at a bracket or comma, and in a block at a line that is not
indented deeply enough.
-/

namespace WorkloadForms.Yaml

/-- The characters of a word at the front of the text. In a flow collection a colon in front of a
bracket, a comma or a question mark is refused. -/
def plainWord (inFlow : Bool) : List Char → Option (List Char)
  | [] => some []
  | x :: rest =>
    if isGapOrBreak x then some []
    else if inFlow && x == ':' && rest.head?.any (fun y => isFlowIndicator y || y == '?') then none
    else if x == ':' && endsWord rest.head? then some []
    else if inFlow && isFlowIndicator x then some []
    else (plainWord inFlow rest).map (x :: ·)

/-- Whether a plain scalar may start with `x`, when `next` stands behind it. -/
def startsPlain (inFlow : Bool) (x : Char) (next : Option Char) : Bool :=
  if x == '-' then !next.any isGap
  else if x == '?' || x == ':' then !inFlow && !endsWord next
  else !(isGapOrBreak x || isFlowIndicator x || "#&*!|>'\"%@\x60".toList.contains x)

/-- Reads the words of a plain scalar. `acc` holds the text so far in reverse, `gap` what stands
in front of the cursor; the place behind the last word is known by its text alone, so the cursor
given back is behind the blanks that follow it. Lines to the left of `margin` end a scalar in a
block. The truth value says whether the scalar was followed by a line break. -/
def readPlainWords (inFlow : Bool) (margin : Nat) :
    Nat → List Char → Gap → Cursor → Option (List Char × Bool × Cursor)
  | 0, _, _, _ => none
  | n + 1, acc, gap, c =>
    if c.atAnyMarker || c.sees '#' then some (acc.reverse, gap.isFolded, c)
    else do
      let w ← plainWord inFlow c.rest
      if w.isEmpty then some (acc.reverse, gap.isFolded, c)
      else
        let acc := w.reverse ++ gap.text ++ acc
        let c := c.skip w.length
        if c.rest.head?.any isGapOrBreak then
          let (gap, c) ← Gap.read margin n (.inline []) c
          if !inFlow && c.column < margin then some (acc.reverse, gap.isFolded, c)
          else readPlainWords inFlow margin n acc gap c
        else some (acc.reverse, false, c)

end WorkloadForms.Yaml
