import WorkloadForms.Yaml.Token
import WorkloadForms.Yaml.Token.Fold
import WorkloadForms.Text.Ascii

/-!
# Reading quoted scalars

In single quotes only a doubled quote is special; in double quotes a backslash starts an escape or
joins two lines.
-/

namespace WorkloadForms.Yaml

/-- The characters that stand for themselves or for a control character behind a backslash. -/
def shortEscape? : Char → Option Char
  | '0' => some (Char.ofNat 0)
  | 'a' => some (Char.ofNat 7)
  | 'b' => some (Char.ofNat 8)
  | 't' => some '\t'
  | '\t' => some '\t'
  | 'n' => some '\n'
  | 'v' => some (Char.ofNat 11)
  | 'f' => some (Char.ofNat 12)
  | 'r' => some '\r'
  | 'e' => some (Char.ofNat 27)
  | ' ' => some ' '
  | '"' => some '"'
  | '/' => some '/'
  | '\\' => some '\\'
  | 'N' => some nextLine
  | '_' => some (Char.ofNat 0xA0)
  | 'L' => some (Char.ofNat 0x2028)
  | 'P' => some (Char.ofNat 0x2029)
  | _ => none

/-- How many hexadecimal digits an escape takes. -/
def escapeWidth? : Char → Option Nat
  | 'x' => some 2
  | 'u' => some 4
  | 'U' => some 8
  | _ => none

/-- The character of an escape whose backslash has been read, and how many characters the escape
takes behind it. -/
def readEscape (s : List Char) : Option (Char × Nat) :=
  match s with
  | [] => none
  | x :: rest =>
    match shortEscape? x with
    | some y => some (y, 1)
    | none => do
      let width ← escapeWidth? x
      let ds := rest.take width
      let code ← Text.number? 16 ds
      if ds.length < width ∨ (0xD800 ≤ code ∧ code ≤ 0xDFFF) ∨ 0x10FFFF < code then none
      else return (Char.ofNat code, width + 1)

/-- Reads a scalar in single quotes behind the opening quote; `acc` holds the text so far in
reverse. -/
def readSingleQuoted : Nat → List Char → Cursor → Option (List Char × Cursor)
  | 0, _, _ => none
  | n + 1, acc, c =>
    if c.atAnyMarker then none
    else match c.rest with
      | [] => none
      | '\'' :: '\'' :: _ => readSingleQuoted n ('\'' :: acc) (c.skip 2)
      | '\'' :: _ => some (acc.reverse, c.skip 1)
      | x :: _ =>
        if isGapOrBreak x then do
          let (g, c) ← Gap.read 0 n (.inline []) c
          readSingleQuoted n (g.text ++ acc) c
        else readSingleQuoted n (x :: acc) (c.skip 1)

/-- Reads a scalar in double quotes behind the opening quote; `acc` holds the text so far in
reverse. -/
def readDoubleQuoted : Nat → List Char → Cursor → Option (List Char × Cursor)
  | 0, _, _ => none
  | n + 1, acc, c =>
    if c.atAnyMarker then none
    else match c.rest with
      | [] => none
      | '"' :: _ => some (acc.reverse, c.skip 1)
      | '\\' :: rest =>
        match (c.skip 1).break? with
        | some (_, c) => do
          let (g, c) ← Gap.read 0 n (.folded [] []) c
          readDoubleQuoted n (g.text ++ acc) c
        | none => do
          let (x, width) ← readEscape rest
          readDoubleQuoted n (x :: acc) (c.skip (width + 1))
      | x :: _ =>
        if isGapOrBreak x then do
          let (g, c) ← Gap.read 0 n (.inline []) c
          readDoubleQuoted n (g.text ++ acc) c
        else readDoubleQuoted n (x :: acc) (c.skip 1)

/-- The quoted scalar at the cursor, which stands at a quote; `n` is greater than the length of
what remains. -/
def readQuoted (n : Nat) (c : Cursor) : Option (Token × Cursor) := do
  let (s, c) ←
    if c.sees '"' then readDoubleQuoted n [] (c.skip 1) else readSingleQuoted n [] (c.skip 1)
  return (Token.scalar (String.ofList s) .quoted, c)

end WorkloadForms.Yaml
