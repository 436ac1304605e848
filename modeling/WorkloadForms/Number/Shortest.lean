import WorkloadForms.Number.Double

/-!
# The shortest decimal of a double

`Double.shortest` finds the decimal with the fewest digits that still rounds to the double, and
among those the nearest one. `Double.toText` writes it: positional when the decimal point falls
within the first sixteen digits or at most five places before them, with an exponent otherwise,
and always recognisable as a number that is not an integer.
-/

namespace WorkloadForms.Double

/-- The numbers that round to a positive double, as natural multiples of `2 ^ unit`: the ends of
the interval, the double between them, and whether the ends belong to it. -/
structure Interval where
  low : Nat
  value : Nat
  high : Nat
  unit : Int
  closed : Bool

/-- The interval of `m · 2 ^ e`. Below a power of two the gap is half as wide. -/
def interval (m : Nat) (e : Int) : Interval :=
  let low := if m = leastNormal ∧ leastExponent < e then 4 * m - 1 else 4 * m - 2
  ⟨low, 4 * m, 4 * m + 2, e - 2, m % 2 = 0⟩

/-- `a · 2 ^ u` compared with `b · 10 ^ t`, both sides scaled to natural numbers. -/
def compareAt (a : Nat) (u : Int) (b : Nat) (t : Int) : Ordering :=
  let left := a * Nat.pow 2 u.toNat * Nat.pow 10 (-t).toNat
  let right := b * Nat.pow 10 t.toNat * Nat.pow 2 (-u).toNat
  compare left right

/-- Whether `b · 10 ^ t` rounds to the double of the interval. -/
def Interval.holds (i : Interval) (b : Nat) (t : Int) : Bool :=
  match compareAt i.low i.unit b t, compareAt i.high i.unit b t with
  | .lt, .gt => true
  | .eq, .gt => i.closed
  | .lt, .eq => i.closed
  | _, _ => false

/-- The greatest multiple of `10 ^ t` that is at most the double. -/
def Interval.floorAt (i : Interval) (t : Int) : Nat :=
  i.value * Nat.pow 2 i.unit.toNat * Nat.pow 10 (-t).toNat /
    (Nat.pow 10 t.toNat * Nat.pow 2 (-i.unit).toNat)

/-- The neighbour of the double on the grid of `10 ^ t` that rounds to it; of two the nearer, of
two equally near the even one. -/
def Interval.onGrid (i : Interval) (t : Int) : Option Nat :=
  let b := i.floorAt t
  let up := b + 1
  match i.holds b t, i.holds up t with
  | true, true =>
    match compareAt (2 * i.value) i.unit (b + up) t with
    | .lt => some b
    | .gt => some up
    | .eq => some (if b % 2 = 0 then b else up)
  | true, false => some b
  | false, true => some up
  | false, false => none

/-- The first grid, from coarse to fine, with a decimal of the interval. -/
def Interval.search (i : Interval) : Nat → Int → Nat × Int
  | 0, t => (i.floorAt t, t)
  | n + 1, t =>
    match i.onGrid t with
    | some b => (b, t)
    | none => i.search n (t - 1)

/-- The exponent of the leading decimal digit of `m · 2 ^ e`, or one more. -/
def leadingExponent (m : Nat) (e : Int) : Int :=
  let bits : Int := m.log2 + e
  bits * 30103 / 100000 + 1

/-- Drops the zeros at the end of the digits. -/
def stripZeros : Nat → Nat × Int → Nat × Int
  | 0, p => p
  | n + 1, (b, t) => if b ≠ 0 ∧ b % 10 = 0 then stripZeros n (b / 10, t + 1) else (b, t)

/-- The digits and the decimal exponent of the shortest decimal of `m · 2 ^ e`, where `m` is not
zero. -/
def shortest (m : Nat) (e : Int) : Nat × Int :=
  stripZeros 20 ((interval m e).search 20 (leadingExponent m e))

/-- A decimal text of `digits · 10 ^ exponent` that is not read as an integer. -/
def writeDecimal (digits : Nat) (exponent : Int) : String :=
  let ds := Nat.toDigits 10 digits
  let count : Int := ds.length
  let point := count + exponent
  if 0 ≤ exponent ∧ point ≤ 16 then
    String.ofList (ds ++ List.replicate exponent.toNat '0' ++ ['.', '0'])
  else if 0 < point ∧ point ≤ 16 then
    String.ofList (ds.take point.toNat ++ '.' :: ds.drop point.toNat)
  else if -5 < point ∧ point ≤ 0 then
    String.ofList (['0', '.'] ++ List.replicate (-point).toNat '0' ++ ds)
  else
    let fraction := match ds.drop 1 with
      | [] => []
      | rest => '.' :: rest
    String.ofList (ds.take 1 ++ fraction ++ ['e']) ++ toString (point - 1)

/-- The text of a double as a scalar. -/
def toText : Double → String
  | .notANumber => ".nan"
  | .infinite false => ".inf"
  | .infinite true => "-.inf"
  | .finite negative m e =>
    let unsigned := if m = 0 then "0.0" else
      let (digits, exponent) := shortest m e
      writeDecimal digits exponent
    if negative then "-" ++ unsigned else unsigned

end WorkloadForms.Double
