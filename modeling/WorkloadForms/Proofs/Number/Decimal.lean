import WorkloadForms.Yaml.Scalar

/-!
# Integers in decimal

An integer that is written in decimal is read back as itself (`Scalar.integer?_toString`), and a
plain scalar with its digits stands for it (`Scalar.resolve_toString`).
-/

namespace WorkloadForms

namespace Text

/-- A decimal digit in the sense of the library is one here. -/
theorem isDigit_of_mem_toDigits {n : Nat} {c : Char} (h : c ∈ Nat.toDigits 10 n) :
    isDigit c = true := by
  have digit := Nat.isDigit_of_mem_toDigits (by decide) (by decide) h
  simpa [Char.isDigit, isDigit, Char.le_def] using digit

/-- The digits of a number write the number. -/
theorem number?_toDigits (n : Nat) : number? 10 (Nat.toDigits 10 n) = some n := by
  have value (d : Nat) (h : d < 10) : digitValue? 10 (Nat.digitChar d) = some d := by
    decide +revert +kernel
  have fold : (Nat.toDigits 10 n).foldl
      (fun acc c => do return (← acc) * 10 + (← digitValue? 10 c)) (some 0) = some n := by
    induction n using Nat.strongRecOn with
    | ind n ih =>
      rcases Nat.lt_or_ge n 10 with small | large
      · rw [Nat.toDigits_of_lt_base small]
        simp [value n small]
      · rw [Nat.toDigits_of_base_le (by decide) large, List.foldl_append,
          ih (n / 10) (by omega)]
        have digit := value (n % 10) (by omega)
        simp [digit]
        omega
  rw [number?, fold]
  simp [Nat.toDigits_ne_nil]

/-- Only zero starts with a zero. -/
theorem eq_zero_of_head?_toDigits {n : Nat} (h : (Nat.toDigits 10 n).head? = some '0') : n = 0 := by
  induction n using Nat.strongRecOn with
  | ind n ih =>
    rcases Nat.lt_or_ge n 10 with small | large
    · rw [Nat.toDigits_of_lt_base small] at h
      have zero : ∀ d < 10, Nat.digitChar d = '0' → d = 0 := by decide
      exact zero n small (Option.some.inj h)
    · rw [Nat.toDigits_of_base_le (by decide) large, List.head?_append] at h
      have filled : (Nat.toDigits 10 (n / 10)).head?.isSome = true := by
        simp [Nat.toDigits_ne_nil]
      obtain ⟨c, first⟩ := Option.isSome_iff_exists.1 filled
      rw [first, Option.some_or] at h
      have := ih (n / 10) (by omega) (by rw [first, h])
      omega

end Text

namespace Yaml.Scalar

open Text

/-- The digits of a number: a zero, or digits that start with another one. -/
theorem toDigits_cases (n : Nat) :
    Nat.toDigits 10 n = ['0'] ∨
      ∃ d ds, Nat.toDigits 10 n = d :: ds ∧ d ≠ '0' ∧ isDigit d = true := by
  rcases Nat.eq_zero_or_pos n with rfl | pos
  · exact .inl (Nat.toDigits_zero 10)
  · obtain ⟨d, ds, digits⟩ := List.exists_cons_of_ne_nil (Nat.toDigits_ne_nil (n := n) (b := 10))
    refine .inr ⟨d, ds, digits, fun zero => ?_, isDigit_of_mem_toDigits (n := n) (by simp [digits])⟩
    have := eq_zero_of_head?_toDigits (n := n) (by rw [digits, zero]; rfl)
    omega

/-- Digits have no sign. -/
theorem signed_toDigits (n : Nat) : signed (Nat.toDigits 10 n) = (false, Nat.toDigits 10 n) := by
  rcases toDigits_cases n with zero | ⟨d, ds, digits, -, digit⟩
  · rw [zero]; rfl
  · have minus : d ≠ '-' := by rintro rfl; exact absurd digit (by decide)
    have plus : d ≠ '+' := by rintro rfl; exact absurd digit (by decide)
    rw [digits]
    simp [signed, minus, plus]

/-- The digits of a number are its magnitude. -/
theorem magnitude?_toDigits (n : Nat) : magnitude? (Nat.toDigits 10 n) = some n := by
  rw [← number?_toDigits n]
  rcases toDigits_cases n with zero | ⟨d, ds, digits, nonzero, -⟩
  · rw [zero]; rfl
  · rw [digits]
    simp [magnitude?, nonzero]

/-- The digits behind a sign have no leading zero. -/
theorem hasLeadingZero_eq_false {s : List Char} {n : Nat}
    (h : (signed s).2 = Nat.toDigits 10 n) : hasLeadingZero s = false := by
  rw [hasLeadingZero, h]
  rcases toDigits_cases n with zero | ⟨d, ds, digits, nonzero, -⟩
  · rw [zero]; rfl
  · rw [digits]
    simp [nonzero]

/-- The characters of an integer: digits, behind a minus if it is negative. -/
theorem toList_toString (n : Int) :
    (toString n).toList = if n < 0 then '-' :: Nat.toDigits 10 n.natAbs
      else Nat.toDigits 10 n.natAbs := by
  cases n with
  | ofNat m =>
    have : ¬ (Int.ofNat m < 0) := by simp
    rw [if_neg this]
    exact Nat.toList_repr
  | negSucc m =>
    rw [if_pos (Int.negSucc_lt_zero m)]
    simp [toString, Int.repr, Nat.toList_repr]

/-- An integer is read back from its decimal text. -/
theorem integer?_toString (n : Int) : integer? (toString n).toList = some n := by
  rw [toList_toString]
  split
  · next negative =>
    have split : signed ('-' :: Nat.toDigits 10 n.natAbs) = (true, Nat.toDigits 10 n.natAbs) := rfl
    rw [integer?, hasLeadingZero_eq_false (congrArg Prod.snd split), split]
    have value : -(n.natAbs : Int) = n := by omega
    simp only [Bool.false_eq_true, if_false, magnitude?_toDigits, if_true]
    exact congrArg some value
  · next positive =>
    rw [integer?, hasLeadingZero_eq_false (congrArg Prod.snd (signed_toDigits _)), signed_toDigits]
    have value : (n.natAbs : Int) = n := by omega
    simp only [Bool.false_eq_true, if_false, magnitude?_toDigits]
    exact congrArg some value

/-- The text of an integer starts with a digit or a minus. -/
theorem head?_toString (n : Int) :
    ∃ c, (toString n).toList.head? = some c ∧ (c = '-' ∨ isDigit c = true) := by
  rw [toList_toString]
  split
  · exact ⟨'-', rfl, .inl rfl⟩
  · rcases toDigits_cases n.natAbs with zero | ⟨d, ds, digits, -, digit⟩
    · exact ⟨'0', by rw [zero]; rfl, .inr (by decide)⟩
    · exact ⟨d, by rw [digits]; rfl, .inr digit⟩

/-- The text of an integer is no word that starts with another character. -/
theorem toString_ne (n : Int) {s : String}
    (other : s.toList.head?.all (fun c => c != '-' && !isDigit c) = true) :
    (toString n == s) = false := by
  refine beq_false_of_ne fun same => ?_
  obtain ⟨c, first, kind⟩ := head?_toString n
  rw [← same, first] at other
  rcases kind with rfl | digit
  · cases other
  · simp [digit] at other

/-- The text of an integer is not empty. -/
theorem isEmpty_toString (n : Int) : (toString n).isEmpty = false := by
  refine Bool.eq_false_iff.2 fun empty => ?_
  obtain ⟨c, first, -⟩ := head?_toString n
  rw [String.isEmpty_iff.1 empty] at first
  cases first

/-- The text of an integer is no word for null. -/
theorem isNullWord_toString (n : Int) : isNullWord (toString n) = false := by
  rw [isNullWord, toString_ne n (by decide), toString_ne n (by decide), toString_ne n (by decide),
    toString_ne n (by decide)]
  rfl

/-- A plain scalar with the digits of an integer of 64 bits stands for the integer. -/
theorem resolve_toString {n : Int} (fits : Number.fits64 n = true) :
    resolve (toString n) = .int n := by
  have flag : flag? (toString n) = none := by
    rw [flag?, toString_ne n (by decide), toString_ne n (by decide), toString_ne n (by decide),
      toString_ne n (by decide), toString_ne n (by decide), toString_ne n (by decide)]
    rfl
  rw [resolve, isEmpty_toString, isNullWord_toString, flag, integral?, integer?_toString]
  simp [ofInteger?, fits]

end Yaml.Scalar

end WorkloadForms
