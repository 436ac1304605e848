import WorkloadForms.Console.Message

/-!
# Media types

A media type is `type/subtype` with parameters behind semicolons. `declaresJson` says whether the
value of a content type header declares JSON: the type is `application`, and the subtype is `json`
or ends in `+json`.
-/

namespace WorkloadForms.Console

/-- A character of a token. -/
def isTokenChar (c : Char) : Bool :=
  Text.isDigit c || ('a' ≤ c && c ≤ 'z') || ('A' ≤ c && c ≤ 'Z')
    || "!#$%&'*+-.^_\x60|~".toList.contains c

/-- A character between quotes. -/
def isQuotedChar (c : Char) : Bool := 31 < c.toNat && c.toNat != 127

/-- What follows the quote that closes a value. The first character of a value is never its end. -/
def afterQuoted? : List Char → Option (List Char)
  | [] => none
  | c :: rest =>
    if isQuotedChar c then
      match rest.dropWhile fun c => isQuotedChar c && c != '"' with
      | '"' :: rest => some rest
      | _ => none
    else none

/-- What follows the value of a parameter up to its semicolon, nothing at the end of the text. -/
def afterValue? : List Char → Option (List Char)
  | '"' :: s => do
    match (← afterQuoted? s).dropWhile (· == ' ') with
    | [] => some []
    | ';' :: rest => some rest
    | _ => none
  | s =>
    match s.takeWhile isTokenChar, s.dropWhile isTokenChar with
    | _, [] => some []
    | _ :: _, ';' :: rest => some rest
    | _, _ => none

/-- Whether a text is a list of parameters; `n` bounds their number. -/
def areParameters : Nat → List Char → Bool
  | _, [] => true
  | 0, _ => false
  | n + 1, s =>
    let s := s.dropWhile (· == ' ')
    match s, s.takeWhile isTokenChar, s.dropWhile isTokenChar with
    | [], _, _ => true
    | _, _ :: _, '=' :: rest => (afterValue? rest).any (areParameters n)
    | _, _, _ => false

/-- The type and the subtype of a media type that is well formed. -/
def mediaType? (s : List Char) : Option (List Char × List Char) :=
  match s.takeWhile isTokenChar, s.dropWhile isTokenChar with
  | c :: cs, '/' :: rest =>
    let subtype := rest.takeWhile isTokenChar
    match subtype, rest.dropWhile isTokenChar with
    | _, [] => some (c :: cs, subtype)
    | _ :: _, ';' :: parameters =>
      if areParameters (parameters.length + 1) parameters then some (c :: cs, subtype) else none
    | _, _ => none
  | _, _ => none

/-- A subtype up to its last plus sign, and what follows that. A plus sign at the start is none. -/
def splitSuffix (subtype : List Char) : List Char × Option (List Char) :=
  match subtype with
  | [] => ([], none)
  | c :: cs =>
    let suffix := (cs.reverse.takeWhile (· != '+')).reverse
    if suffix.length < cs.length then
      (c :: cs.take (cs.length - suffix.length - 1), some suffix)
    else (c :: cs, none)

/-- Whether the value of a content type header declares JSON. -/
def declaresJson (s : String) : Bool :=
  isReadable s && (mediaType? (Text.lower s).toList).any fun (type, subtype) =>
    let (base, suffix) := splitSuffix subtype
    type == "application".toList && (base == "json".toList || suffix == some "json".toList)

end WorkloadForms.Console
