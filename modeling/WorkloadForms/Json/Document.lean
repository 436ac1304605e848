import WorkloadForms.Json.Value
import WorkloadForms.Number.Double
import WorkloadForms.Number.Word
import WorkloadForms.Text.Ascii

/-!
# JSON texts, faulty ones included

A text is read as far as it goes. `Document.broken` stands where the reading stopped, and the
lists and objects around it are marked as not closed, so that a reader of the document meets what
comes before the fault first. `Document.unusable` stands for a value that is well formed but
cannot be held: a number out of range, a text with half of a surrogate pair, a container nested
too deeply. `Document.toJson?` gives the value of a text without any fault.
-/

namespace WorkloadForms.Json

/-- What was read of a JSON text. -/
inductive Document where
  | null
  | bool (value : Bool)
  | int (value : Int)
  | decimal (literal : String)
  | text (value : String)
  | list (items : List Document) (closed : Bool)
  | object (members : List (String × Document)) (closed : Bool)
  | unusable
  | broken
  deriving Repr, Inhabited

namespace Document

/-- The depth from which on a container is unusable. -/
def depthLimit : Nat := 128

/-- A blank of JSON. -/
def isSpace (c : Char) : Bool := c == ' ' || c == '\n' || c == '\t' || c == '\r'

/-- The rest of the text behind blanks. -/
def skipSpace (s : List Char) : List Char := s.dropWhile isSpace

/-- The single character escapes. -/
def plainEscape? : Char → Option Char
  | '"' => some '"'
  | '\\' => some '\\'
  | '/' => some '/'
  | 'b' => some (Char.ofNat 8)
  | 'f' => some (Char.ofNat 12)
  | 'n' => some '\n'
  | 'r' => some '\r'
  | 't' => some '\t'
  | _ => none

/-- A piece of a quoted text: a character, or a unit of sixteen bits by its number. -/
inductive Piece where
  | char (c : Char)
  | unit (n : Nat)
  deriving DecidableEq, Repr, Inhabited

/-- The pieces up to the closing quote, and what follows it; `none` when they are not well
formed. -/
def pieces : List Char → Option (List Piece × List Char)
  | [] => none
  | '"' :: rest => some ([], rest)
  | '\\' :: 'u' :: a :: b :: c :: d :: rest => do
    let n ← Text.number? 16 [a, b, c, d]
    (pieces rest).map fun r => (.unit n :: r.1, r.2)
  | '\\' :: c :: rest => do
    let x ← plainEscape? c
    (pieces rest).map fun r => (.char x :: r.1, r.2)
  | c :: rest =>
    if c.toNat < 32 then none else (pieces rest).map fun r => (.char c :: r.1, r.2)

/-- Whether a unit is half of a surrogate pair. -/
def isSurrogate (n : Nat) : Bool := 0xD800 ≤ n && n ≤ 0xDFFF

/-- The character of a surrogate pair. -/
def pairChar? (upper lower : Nat) : Option Char :=
  if upper < 0xDC00 ∧ 0xDC00 ≤ lower ∧ lower ≤ 0xDFFF then
    some (Char.ofNat (0x10000 + (upper - 0xD800) * 0x400 + (lower - 0xDC00)))
  else none

/-- The characters of pieces, none when half of a surrogate pair stands alone. -/
def pieceChars : List Piece → Option (List Char)
  | [] => some []
  | .char c :: ps => (pieceChars ps).map (c :: ·)
  | .unit n :: ps =>
    if isSurrogate n then
      match ps with
      | .unit m :: ps => do return (← pairChar? n m) :: (← pieceChars ps)
      | _ => none
    else (pieceChars ps).map (Char.ofNat n :: ·)

/-- The text up to the closing quote, `none` when it cannot be held as characters, and what
follows it; `none` when it is not well formed. -/
def quotedText (s : List Char) : Option (Option (List Char) × List Char) :=
  (pieces s).map fun r => (pieceChars r.1, r.2)

/-- The decimal digits at the front. -/
def digits (s : List Char) : List Char × List Char :=
  (s.takeWhile Text.isDigit, s.dropWhile Text.isDigit)

/-- The exponent of a number, or nothing when there is none; `none` when it has no digits. -/
def exponentPart : List Char → Option (Option Int × List Char)
  | c :: rest =>
    if c = 'e' ∨ c = 'E' then
      let (negative, rest) := match rest with
        | '-' :: r => (true, r)
        | '+' :: r => (false, r)
        | r => (false, r)
      let (ds, rest) := digits rest
      (Text.number? 10 ds).map fun n => (some (if negative then -(n : Int) else n), rest)
    else some (none, c :: rest)
  | [] => some (none, [])

/-- The fraction of a number, or nothing when there is none; `none` when it has no digits. -/
def fractionPart : List Char → Option (Option (List Char) × List Char)
  | '.' :: rest =>
    let (ds, rest) := digits rest
    if ds.isEmpty then none else some (some ds, rest)
  | rest => some (none, rest)

/-- A number from its parts. -/
def numberOf (negative : Bool) (whole : List Char) (fraction : Option (List Char))
    (exponent : Option Int) (literal : List Char) : Document :=
  let plain := fraction.isNone && exponent.isNone
  let mantissa := (Text.number? 10 (whole ++ fraction.getD [])).getD 0
  let n : Int := if negative then -(mantissa : Int) else mantissa
  if plain && !(negative && mantissa == 0) && Number.fits64 n then .int n
  else
    let scale := exponent.getD 0 - ((fraction.getD []).length : Int)
    if (Double.ofDecimal negative mantissa scale).isFinite then .decimal (String.ofList literal)
    else .unusable

/-- A number at the front of the text. -/
def number (s : List Char) : Option (Document × List Char) := do
  let (negative, r) := match s with
    | '-' :: r => (true, r)
    | r => (false, r)
  let (whole, r) := digits r
  if whole.isEmpty || (whole.length > 1 && whole.head? == some '0') then none
  else
    let (fraction, r) ← fractionPart r
    let (exponent, r) ← exponentPart r
    let literal := s.take (s.length - r.length)
    return (numberOf negative whole fraction exponent literal, r)

/-- A word at the front of the text. -/
def word (w : List Char) (d : Document) (s : List Char) : Document × Option (List Char) :=
  if w.isPrefixOf s then (d, some (s.drop w.length)) else (.broken, none)

/-- A container, unusable when it stands too deep. A fault inside is met in either case. -/
def container (depth : Nat) (d : Document) (rest : Option (List Char)) :
    Document × Option (List Char) :=
  if depth < depthLimit then (d, rest)
  else (if rest.isSome then .unusable else .broken, rest)

mutual

/-- A value at the front of the text and what follows it; nothing follows a fault. -/
def value (depth : Nat) : Nat → List Char → Document × Option (List Char)
  | 0, _ => (.broken, none)
  | n + 1, s =>
    match skipSpace s with
    | [] => (.broken, none)
    | 'n' :: r => word "null".toList .null ('n' :: r)
    | 't' :: r => word "true".toList (.bool true) ('t' :: r)
    | 'f' :: r => word "false".toList (.bool false) ('f' :: r)
    | '"' :: r =>
      match quotedText r with
      | some (some cs, rest) => (.text (String.ofList cs), some rest)
      | some (none, rest) => (.unusable, some rest)
      | none => (.broken, none)
    | '[' :: r =>
      match skipSpace r with
      | ']' :: rest => container (depth + 1) (.list [] true) (some rest)
      | r =>
        let (items, rest) := listItems (depth + 1) n r
        container (depth + 1) (.list items rest.isSome) rest
    | '{' :: r =>
      match skipSpace r with
      | '}' :: rest => container (depth + 1) (.object [] true) (some rest)
      | r =>
        let (members, rest) := objectMembers (depth + 1) n r
        container (depth + 1) (.object members rest.isSome) rest
    | r =>
      match number r with
      | some (d, rest) => (d, some rest)
      | none => (.broken, none)

/-- The items of a list up to its bracket. -/
def listItems (depth : Nat) : Nat → List Char → List Document × Option (List Char)
  | 0, _ => ([], none)
  | n + 1, s =>
    match value depth n s with
    | (d, none) => ([d], none)
    | (d, some r) =>
      match skipSpace r with
      | ']' :: rest => ([d], some rest)
      | ',' :: r =>
        match skipSpace r with
        | ']' :: _ => ([d], none)
        | [] => ([d], none)
        | r =>
          let (items, rest) := listItems depth n r
          (d :: items, rest)
      | _ => ([d], none)

/-- The members of an object up to its brace. -/
def objectMembers (depth : Nat) : Nat → List Char → List (String × Document) × Option (List Char)
  | 0, _ => ([], none)
  | n + 1, s =>
    match skipSpace s with
    | '"' :: r =>
      match quotedText r with
      | some (some name, r) =>
        let name := String.ofList name
        match skipSpace r with
        | ':' :: r =>
          match value depth n r with
          | (d, none) => ([(name, d)], none)
          | (d, some r) =>
            match skipSpace r with
            | '}' :: rest => ([(name, d)], some rest)
            | ',' :: r =>
              let (members, rest) := objectMembers depth n r
              ((name, d) :: members, rest)
            | _ => ([(name, d)], none)
        | _ => ([(name, .broken)], none)
      | _ => ([], none)
    | _ => ([], none)

end

/-- What was read of a text, and whether the text ends there. -/
def ofText (s : String) : Document × Bool :=
  let cs := s.toList
  match value 0 (2 * cs.length + 2) cs with
  | (d, some rest) => (d, (skipSpace rest).isEmpty)
  | (d, none) => (d, false)

mutual

/-- The value of a document without faults. -/
def toJson? : Document → Option Json
  | .null => some .null
  | .bool b => some (.bool b)
  | .int n => some (.int n)
  | .decimal l => some (.decimal l)
  | .text s => some (.text s)
  | .list items true => (itemsToJson? items).map .list
  | .object members true => (membersToJson? members).map .object
  | _ => none

/-- The values of all items. -/
def itemsToJson? : List Document → Option (List Json)
  | [] => some []
  | d :: ds => do return (← toJson? d) :: (← itemsToJson? ds)

/-- The values of all members. -/
def membersToJson? : List (String × Document) → Option (List (String × Json))
  | [] => some []
  | (name, d) :: ds => do return (name, ← toJson? d) :: (← membersToJson? ds)

end

end Document

/-- The value that a text writes. -/
def ofText? (s : String) : Option Json :=
  match Document.ofText s with
  | (d, true) => d.toJson?
  | _ => none

end WorkloadForms.Json
