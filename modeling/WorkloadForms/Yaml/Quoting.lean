import WorkloadForms.Yaml.Scalar
import WorkloadForms.Yaml.Character

/-!
# How a text is written as a scalar

A text with a line feed is written as a literal block, a text that would be read as something
else between single quotes, any other one plain. Where the form does not suit the characters, the
next one in the order plain, single quotes, double quotes takes its place; double quotes, with
escapes, suit every text.
-/

namespace WorkloadForms.Yaml

/-- The forms of a text. -/
inductive ScalarForm where
  | plain
  | single
  | double
  | literal
  deriving DecidableEq, Repr

namespace ScalarForm

/-- Whether two neighbouring characters satisfy `p` and `q`. -/
def hasPair (p q : Char → Bool) : List Char → Bool
  | a :: b :: rest => (p a && q b) || hasPair p q (b :: rest)
  | _ => false

/-- A space; a tab is never written as it stands. -/
def isSpace (c : Char) : Bool := c == ' '

/-- The characters that a plain scalar cannot start with. -/
def isIndicator (c : Char) : Bool := "#,[]\x7b\x7d&*!|>'\"%@\x60".toList.contains c

/-- The characters that start a plain scalar only in front of a character of a word. -/
def isWeakIndicator (c : Char) : Bool := c == '?' || c == ':' || c == '-'

/-- A text whose beginning would be taken for an indicator or a document marker. -/
def startsAsIndicator (s : List Char) : Bool :=
  "---".toList.isPrefixOf s || "...".toList.isPrefixOf s || s.head?.any isIndicator
    || (s.head?.any isWeakIndicator && endsWord s[1]?)

/-- A colon at the end of a word or a number sign at the start of one. -/
def holdsIndicator (s : List Char) : Bool :=
  s.getLast? == some ':' || hasPair (· == ':') isGapOrBreak s || hasPair isGapOrBreak (· == '#') s

/-- Whether all characters are written as they stand. -/
def allPrintable (s : List Char) : Bool := s.all isPrintable

/-- Whether a text can be written plain. -/
def suitsPlain (s : List Char) : Bool :=
  allPrintable s && !s.any isBreak && !s.head?.any isSpace && !s.getLast?.any isSpace
    && !startsAsIndicator s && !holdsIndicator s

/-- Whether a text can be written between single quotes. -/
def suitsSingle (s : List Char) : Bool :=
  allPrintable s && !hasPair isSpace isBreak s && !hasPair isBreak isSpace s

/-- Whether a text can be written as a literal block. -/
def suitsLiteral (s : List Char) : Bool :=
  allPrintable s && !hasPair isSpace isBreak s && !s.getLast?.any isSpace

/-- The form that suits the characters. -/
def quotedFor (s : List Char) : ScalarForm := if suitsSingle s then .single else .double

/-- The form of a text. -/
def choose (s : String) : ScalarForm :=
  let cs := s.toList
  if cs.contains '\n' then if suitsLiteral cs then .literal else .double
  else if Scalar.readsAsText s && suitsPlain cs then .plain
  else quotedFor cs

end ScalarForm

/-- The spaces of an indentation. -/
def pad (n : Nat) : List Char := List.replicate n ' '

/-- A hexadecimal digit in upper case. -/
def upperHexDigit (n : Nat) : Char := (Nat.digitChar (n % 16)).toUpper

/-- The last `width` hexadecimal digits of a number. -/
def upperHex : Nat → Nat → List Char
  | 0, _ => []
  | width + 1, n => upperHex width (n / 16) ++ [upperHexDigit n]

/-- The letter that stands for a character behind a backslash. -/
def escapeLetter? (c : Char) : Option Char :=
  match c.toNat with
  | 0x00 => some '0'
  | 0x07 => some 'a'
  | 0x08 => some 'b'
  | 0x09 => some 't'
  | 0x0A => some 'n'
  | 0x0B => some 'v'
  | 0x0C => some 'f'
  | 0x0D => some 'r'
  | 0x1B => some 'e'
  | 0x22 => some '"'
  | 0x5C => some '\\'
  | 0x85 => some 'N'
  | 0x2028 => some 'L'
  | 0x2029 => some 'P'
  | _ => none

/-- A character between double quotes; one that needs an escape takes at most four digits. -/
def escaped (c : Char) : List Char :=
  match escapeLetter? c with
  | some x => ['\\', x]
  | none =>
    if isPrintable c then [c]
    else if c.toNat ≤ 0xFF then '\\' :: 'x' :: upperHex 2 c.toNat
    else '\\' :: 'u' :: upperHex 4 c.toNat

/-- A text between double quotes. -/
def doubleQuoted (s : List Char) : List Char := '"' :: s.flatMap escaped ++ ['"']

/-- The lines of a text behind its line breaks: every line with text is indented; `atStart` says
that the place is the start of a line. -/
def indented (indent : Nat) (atStart : Bool) (write : Char → List Char) :
    List Char → List Char
  | [] => []
  | c :: rest =>
    if isBreak c then c :: indented indent true write rest
    else (if atStart then pad indent else []) ++ write c ++ indented indent false write rest

/-- A character between single quotes: a quote is written twice. -/
def singleQuotedChar (c : Char) : List Char := if c = '\'' then ['\'', '\''] else [c]

/-- A text between single quotes. -/
def singleQuoted (indent : Nat) (s : List Char) : List Char :=
  '\'' :: indented indent false singleQuotedChar s
    ++ (if s.getLast?.any isBreak then pad indent else []) ++ ['\'']

/-- The indicators behind the bar of a literal block: the indentation when the text starts with a
space or a break, and what happens to the breaks at the end. -/
def literalHints (s : List Char) : List Char :=
  let indentation := if s.head?.any fun c => c == ' ' || isBreak c then ['2'] else []
  let chomping :=
    if !s.getLast?.any isBreak then ['-']
    else if s.dropLast.isEmpty || s.dropLast.getLast?.any isBreak then ['+']
    else []
  indentation ++ chomping

/-- A text as a literal block, up to the break at its end. -/
def literal (indent : Nat) (s : List Char) : List Char :=
  '|' :: literalHints s ++ '\n' :: indented indent true ([·]) s
    ++ (if s.getLast?.any isBreak then [] else ['\n'])

end WorkloadForms.Yaml
