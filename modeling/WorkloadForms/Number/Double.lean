/-!
# Binary floating point of double width

A finite double is a sign and `significand · 2 ^ exponent`; the significand has at most 53 bits
and the exponent is as small as that allows, but not below -1074. `ofRatio` and `ofDecimal` round
an exact number to the nearest double, a tie to the even significand. All arithmetic is exact.
-/

namespace WorkloadForms

/-- A number of the binary format of 64 bits. -/
inductive Double where
  | finite (negative : Bool) (significand : Nat) (exponent : Int)
  | infinite (negative : Bool)
  | notANumber
  deriving DecidableEq, Repr, Inhabited

namespace Double

/-- The exponent of the smallest double. -/
def leastExponent : Int := -1074

/-- The greatest exponent of a finite double. -/
def greatestExponent : Int := 971

/-- The least significand that no double has: two to the power of 53. -/
def significandBound : Nat := 9007199254740992

/-- The least significand of a double above the least exponent: half of `significandBound`. -/
def leastNormal : Nat := 4503599627370496

/-- Zero with a sign. -/
def zero (negative : Bool) : Double := .finite negative 0 leastExponent

/-- Whether the number is finite. -/
def isFinite : Double → Bool
  | .finite .. => true
  | _ => false

/-- Numbers compared as numbers, so that the two zeros agree, and not-a-number with itself. -/
def same : Double → Double → Bool
  | .finite s m e, .finite s' m' e' => m == m' && e == e' && (m == 0 || s == s')
  | .infinite s, .infinite s' => s == s'
  | .notANumber, .notANumber => true
  | _, _ => false

/-- `num / (den · 2 ^ e)` as a fraction of natural numbers. -/
def scaled (num den : Nat) (e : Int) : Nat × Nat :=
  if 0 ≤ e then (num, den * Nat.pow 2 e.toNat) else (num * Nat.pow 2 (-e).toNat, den)

/-- The natural number nearest to a fraction, a tie to the even one. -/
def roundHalfEven (num den : Nat) : Nat :=
  let q := num / den
  let r := num % den
  if 2 * r < den then q else if den < 2 * r then q + 1 else if q % 2 = 0 then q else q + 1

/-- The double with a significand of at most 54 bits, renormalised after rounding up. -/
def ofScaled (negative : Bool) (m : Nat) (e : Int) : Double :=
  let (m, e) := if m = significandBound then (leastNormal, e + 1) else (m, e)
  if greatestExponent < e then .infinite negative else .finite negative m e

/-- The double nearest to `num / den`, where `den` is not zero. -/
def ofRatio (negative : Bool) (num den : Nat) : Double :=
  if num = 0 then zero negative
  else
    let guess : Int := (num.log2 : Int) - (den.log2 : Int) - 53
    let (n, d) := scaled num den guess
    let e := max (if significandBound ≤ n / d then guess + 1 else guess) leastExponent
    let (n, d) := scaled num den e
    ofScaled negative (roundHalfEven n d) e

/-- The number of decimal digits of a positive number, and one for zero. -/
def digitCount (n : Nat) : Nat := (Nat.toDigits 10 n).length

/-- The double nearest to `digits · 10 ^ exponent`. Numbers beyond the range of the format are
recognised by their size before any power is computed. -/
def ofDecimal (negative : Bool) (digits : Nat) (exponent : Int) : Double :=
  if digits = 0 then zero negative
  else
    let size : Int := digitCount digits + exponent
    if 310 < size then .infinite negative
    else if size < -325 then zero negative
    else if 0 ≤ exponent then ofRatio negative (digits * Nat.pow 10 exponent.toNat) 1
    else ofRatio negative digits (Nat.pow 10 (-exponent).toNat)

end Double

end WorkloadForms
