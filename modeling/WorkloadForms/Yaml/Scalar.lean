import WorkloadForms.Yaml.Value
import WorkloadForms.Text.Ascii
import WorkloadForms.Number.Word

/-!
# The types of plain scalars

What a scalar written without quotes means. A word is tried as null, as a boolean, as an integer,
as a floating point number, in this order, and is a text when it is none of them. Digits with a
leading zero are never a number.
-/

namespace WorkloadForms.Yaml

/-- What a plain scalar stands for. An integer that needs more than 64 bits, but no more than
128, has no value. -/
inductive Scalar where
  | null
  | flag (value : Bool)
  | int (value : Int)
  | wide
  | real (value : Double)
  | text
  deriving DecidableEq, Repr

namespace Scalar

/-- The words for null. -/
def isNullWord (s : String) : Bool := s == "~" || s == "null" || s == "Null" || s == "NULL"

/-- The words for a truth value. -/
def flag? (s : String) : Option Bool :=
  if s == "true" || s == "True" || s == "TRUE" then some true
  else if s == "false" || s == "False" || s == "FALSE" then some false
  else none

/-- The text without its sign, and whether the sign is a minus. -/
def signed : List Char → Bool × List Char
  | '-' :: rest => (true, rest)
  | '+' :: rest => (false, rest)
  | s => (false, s)

/-- Two digits or more of which the first is a zero, with or without a sign. -/
def hasLeadingZero (s : List Char) : Bool :=
  match (signed s).2 with
  | '0' :: rest => !rest.isEmpty && rest.all Text.isDigit
  | _ => false

/-- The magnitude of an integer: hexadecimal, octal and binary after `0x`, `0o` and `0b`. -/
def magnitude? (s : List Char) : Option Nat :=
  match s with
  | '0' :: 'x' :: ds => Text.number? 16 ds
  | '0' :: 'o' :: ds => Text.number? 8 ds
  | '0' :: 'b' :: ds => Text.number? 2 ds
  | ds => Text.number? 10 ds

/-- The integer that a word writes, of any size. -/
def integer? (s : List Char) : Option Int :=
  if hasLeadingZero s then none
  else
    let (negative, ds) := signed s
    (magnitude? ds).map fun n => if negative then -(n : Int) else n

/-- The decimal digits at the front, and the rest. -/
def spanDigits (s : List Char) : List Char × List Char :=
  (s.takeWhile Text.isDigit, s.dropWhile Text.isDigit)

/-- The exponent after the mantissa, zero when there is none. -/
def exponent? : List Char → Option Int
  | [] => some 0
  | c :: rest =>
    if c = 'e' ∨ c = 'E' then
      let (negative, ds) := signed rest
      (Text.number? 10 ds).map fun n => if negative then -(n : Int) else n
    else none

/-- The number written by digits with an optional point and an optional exponent. -/
def decimal? (negative : Bool) (s : List Char) : Option Double := do
  let (whole, rest) := spanDigits s
  let (fraction, rest) := match rest with
    | '.' :: r => spanDigits r
    | r => ([], r)
  let mantissa ← Text.number? 10 (whole ++ fraction)
  let exponent ← exponent? rest
  let x := Double.ofDecimal negative mantissa (exponent - (fraction.length : Int))
  if x.isFinite then some x else none

/-- The floating point number that a word writes. -/
def real? (s : List Char) : Option Double :=
  let (negative, rest) := signed s
  if rest = ".inf".toList ∨ rest = ".Inf".toList ∨ rest = ".INF".toList then
    some (.infinite negative)
  else if s = ".nan".toList ∨ s = ".NaN".toList ∨ s = ".NAN".toList then some .notANumber
  else decimal? negative rest

/-- The integer scalar of a value, as far as it fits. -/
def ofInteger? (n : Int) : Option Scalar :=
  if Number.fits64 n then some (.int n)
  else if Number.fits128 n then some .wide
  else none

/-- The integer scalar that a word writes. -/
def integral? (s : String) : Option Scalar := (integer? s.toList).bind ofInteger?

/-- The meaning of a plain scalar. -/
def resolve (s : String) : Scalar :=
  if s.isEmpty || isNullWord s then .null
  else match flag? s with
  | some b => .flag b
  | none =>
    match integral? s with
    | some r => r
    | none =>
      if hasLeadingZero s.toList then .text
      else match real? s.toList with
      | some x => .real x
      | none => .text

/-- Whether a plain scalar with this text is read as the text itself. -/
def readsAsText (s : String) : Bool := !hasLeadingZero s.toList && resolve s == .text

end Scalar

end WorkloadForms.Yaml
