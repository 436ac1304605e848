/-!
# Options of a command line

An option has a long and a short name and takes one value: `--name value`, `--name=value`,
`-n value`, `-nvalue` or `-n=value`. A value that starts with a hyphen, other than a hyphen alone,
has to be attached. An option that stands twice, one that is not known and a word that belongs to
no option are refused.
-/

namespace WorkloadForms.Command

/-- An option. -/
structure CommandOption where
  long : String
  short : Char
  deriving DecidableEq, Repr, Inhabited

/-- What words say about options: their values under the long names, or that help is asked for. -/
inductive Options where
  | given (values : List (String × String))
  | help
  deriving DecidableEq, Repr, Inhabited

namespace Options

/-- Whether a word cannot be the value of an option in front of it. -/
def isOptionLike (word : List Char) : Bool :=
  match word with
  | '-' :: _ :: _ => true
  | _ => false

/-- What stands behind an equals sign, if there is one. -/
def afterEquals : List Char → Option String
  | '=' :: value => some (String.ofList value)
  | _ => none

/-- The long name or the short name that a word gives, with a value attached to it. Help is the
option without a long name. -/
def ofWord? (known : List CommandOption) : List Char → Option (String × Option String)
  | '-' :: '-' :: word =>
    let name := String.ofList (word.takeWhile (· != '='))
    let value := afterEquals (word.dropWhile (· != '='))
    if known.any (·.long == name) then some (name, value)
    else if name == "help" && value.isNone then some ("", none)
    else none
  | '-' :: c :: rest =>
    match known.find? (·.short == c), rest with
    | some o, [] => some (o.long, none)
    | some o, rest => some (o.long, some ((afterEquals rest).getD (String.ofList rest)))
    | none, _ => if c == 'h' then some ("", none) else none
  | _ => none

/-- The value of an option, attached to it or the next word, and the words behind it. -/
def takeValue? (attached : Option String) (rest : List String) : Option (String × List String) :=
  match attached, rest with
  | some value, rest => some (value, rest)
  | none, value :: rest => if isOptionLike value.toList then none else some (value, rest)
  | none, [] => none

/-- Reads words as options; `n` is greater than their number. -/
def read? (known : List CommandOption) :
    Nat → List (String × String) → List String → Option Options
  | _, values, [] => some (.given values)
  | 0, _, _ => none
  | n + 1, values, word :: rest =>
    if word == "--" then if rest.isEmpty then some (.given values) else none
    else do
      let (name, attached) ← ofWord? known word.toList
      if name.isEmpty then return .help
      else
        let (value, rest) ← takeValue? attached rest
        if values.any (·.1 == name) then none else read? known n ((name, value) :: values) rest

end Options

end WorkloadForms.Command
