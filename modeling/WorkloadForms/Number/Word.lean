/-!
# Integers of 32 and 64 bits

Reading an integer as a word of fixed width: it succeeds exactly on the integers of the width,
and every word is read from its own value (`int32?_toInt`, `int64?_toInt`).
-/

namespace WorkloadForms.Number

/-- The word of 32 bits with this value. -/
def int32? (n : Int) : Option Int32 :=
  if -2147483648 ≤ n ∧ n < 2147483648 then some (Int32.ofInt n) else none

/-- The word of 64 bits with this value. -/
def int64? (n : Int) : Option Int64 :=
  if -9223372036854775808 ≤ n ∧ n < 9223372036854775808 then some (Int64.ofInt n) else none

/-- Whether 64 bits hold the integer, with a sign or without one. -/
def fits64 (n : Int) : Bool :=
  decide (-9223372036854775808 ≤ n) && decide (n < 18446744073709551616)

/-- Whether 128 bits hold the integer, with a sign or without one. -/
def fits128 (n : Int) : Bool :=
  decide (-170141183460469231731687303715884105728 ≤ n) &&
    decide (n < 340282366920938463463374607431768211456)

@[simp] theorem int32?_toInt (x : Int32) : int32? x.toInt = some x := by
  have lower := x.le_toInt
  have upper := x.toInt_lt
  rw [int32?, if_pos (by omega), Int32.ofInt_toInt]

@[simp] theorem int64?_toInt (x : Int64) : int64? x.toInt = some x := by
  have lower := x.le_toInt
  have upper := x.toInt_lt
  rw [int64?, if_pos (by omega), Int64.ofInt_toInt]

end WorkloadForms.Number
