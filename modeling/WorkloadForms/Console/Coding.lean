import WorkloadForms.Console.Message
import WorkloadForms.Text.Blank
import WorkloadForms.Text.Token

/-!
# Content codings

A response of `leastCompressed` octets or more is compressed when the request prefers that. The
codings that count are gzip, under either of its names, and identity; the one of the greatest
weight wins, gzip when both have the same, and a weight of zero rules a coding out.
-/

namespace WorkloadForms.Console

/-- The least number of octets of a response that is compressed. -/
def leastCompressed : Nat := 32

/-- The thousandths that up to three digits behind a point stand for. -/
def thousandths? (ds : List Char) : Option Nat :=
  if ds.length ≤ 3 ∧ ds.all Text.isDigit then
    some (((Text.number? 10 ds).getD 0) * Nat.pow 10 (3 - ds.length))
  else none

/-- A weight in thousandths. -/
def weight? : List Char → Option Nat
  | q :: '=' :: digit :: rest => do
    let whole ← if digit = '0' then some 0 else if digit = '1' then some 1000 else none
    let fraction ← match rest with
      | [] => some 0
      | '.' :: ds => thousandths? ds
      | _ => none
    if (q = 'q' ∨ q = 'Q') ∧ whole + fraction ≤ 1000 then some (whole + fraction) else none
  | _ => none

/-- Whether a coding is gzip, for the codings that count. -/
def isGzip? (name : List Char) : Option Bool :=
  match Text.lower (String.ofList name) with
  | "gzip" => some true
  | "x-gzip" => some true
  | "identity" => some false
  | _ => none

/-- A coding of the list that counts, and its weight. -/
def coding? (item : List Char) : Option (Bool × Nat) := do
  let name := item.takeWhile (· != ';')
  let gzip ← isGzip? (Text.trim name)
  match item.drop name.length with
  | [] => return (gzip, 1000)
  | parameter => return (gzip, ← weight? (Text.trim (parameter.drop 1)))

/-- The greatest weight of the codings that are gzip, or of those that are not. -/
def greatestWeight (gzip : Bool) (codings : List (Bool × Nat)) : Nat :=
  ((codings.filter (·.1 == gzip)).map (·.2)).foldl max 0

/-- Whether the values of the accept encoding headers prefer gzip. -/
def prefersGzip (values : List String) : Bool :=
  let codings :=
    ((values.filter isReadable).flatMap fun s => Text.split ',' s.toList).filterMap coding?
  let gzip := greatestWeight true codings
  0 < gzip && greatestWeight false codings ≤ gzip

/-- The response as it is sent: a large one depends on the codings that the request accepts. -/
def Response.encoded (r : Response) (q : Request) : Response :=
  if r.body.size < leastCompressed then r
  else
    let r := r.withHeader "vary" "accept-encoding"
    if prefersGzip (q.headerValues "accept-encoding") then r.withHeader "content-encoding" "gzip"
    else r

end WorkloadForms.Console
