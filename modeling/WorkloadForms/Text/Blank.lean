/-!
# Blank characters

The characters of the Unicode property White_Space, and trimming of them from both ends of a
text. `trim_eq_nil_iff` says that trimming leaves nothing exactly when every character is blank.
-/

namespace WorkloadForms.Text

/-- The Unicode property White_Space. -/
def isBlank (c : Char) : Bool :=
  let n := c.toNat
  (0x09 ≤ n && n ≤ 0x0D) || n == 0x20 || n == 0x85 || n == 0xA0 || n == 0x1680
    || (0x2000 ≤ n && n ≤ 0x200A) || n == 0x2028 || n == 0x2029 || n == 0x202F
    || n == 0x205F || n == 0x3000

/-- The text without its leading blank characters. -/
def trimLeft (s : List Char) : List Char := s.dropWhile isBlank

/-- The text without its trailing blank characters. -/
def trimRight (s : List Char) : List Char := (trimLeft s.reverse).reverse

/-- The text without the blank characters at its two ends. -/
def trim (s : List Char) : List Char := trimRight (trimLeft s)

/-- `trim` on strings. -/
def trimmed (s : String) : String := String.ofList (trim s.toList)

/-- A text is blank when all its characters are. -/
def AllBlank (s : List Char) : Prop := ∀ c ∈ s, isBlank c = true

instance (s : List Char) : Decidable (AllBlank s) :=
  inferInstanceAs (Decidable (∀ c ∈ s, isBlank c = true))

/-- Whether a string holds no character that is not blank. -/
def blank (s : String) : Bool := s.toList.all isBlank

theorem blank_eq_true_iff {s : String} : blank s = true ↔ AllBlank s.toList := by
  simp [blank, AllBlank]

theorem trimLeft_eq_nil_iff {s : List Char} : trimLeft s = [] ↔ AllBlank s := by
  induction s with
  | nil => simp [trimLeft, AllBlank]
  | cons c s ih =>
    by_cases h : isBlank c
    · simp_all [trimLeft, AllBlank]
    · simp_all [trimLeft, AllBlank]

theorem trimRight_eq_nil_iff {s : List Char} : trimRight s = [] ↔ AllBlank s := by
  rw [trimRight, List.reverse_eq_nil_iff, trimLeft_eq_nil_iff]
  simp [AllBlank]

theorem trimLeft_eq_self_iff {s : List Char} :
    trimLeft s = s ↔ ∀ c, s.head? = some c → isBlank c = false := by
  cases s with
  | nil => simp [trimLeft]
  | cons c s =>
    by_cases h : isBlank c
    · simp only [trimLeft, h, List.dropWhile_cons_of_pos, List.head?_cons, Option.some.injEq,
        forall_eq', Bool.true_eq_false, iff_false]
      intro e
      have := (List.dropWhile_sublist isBlank (l := s)).length_le
      rw [e] at this
      simp only [List.length_cons] at this
      omega
    · simp_all [trimLeft]

/-- What is left of leading blanks starts with a character that is not blank. -/
theorem head?_trimLeft {s : List Char} {c : Char} (h : (trimLeft s).head? = some c) :
    isBlank c = false := by
  have := List.head?_dropWhile_not isBlank s
  rw [trimLeft] at h
  simp_all

/-- Trimming leaves nothing exactly when every character is blank. -/
theorem trim_eq_nil_iff {s : List Char} : trim s = [] ↔ AllBlank s := by
  rw [trim, trimRight_eq_nil_iff]
  constructor
  · intro h
    rw [← trimLeft_eq_nil_iff]
    cases e : trimLeft s with
    | nil => rfl
    | cons c r =>
      have hc : isBlank c = false := head?_trimLeft (by rw [e]; rfl)
      have := h c (by simp [e])
      simp_all
  · intro h
    rw [trimLeft_eq_nil_iff.2 h]
    simp [AllBlank]

end WorkloadForms.Text
