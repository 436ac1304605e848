import WorkloadForms.Text.Blank

/-!
# Separated lists held in one text

A list of words is kept in one text with a separator between them: a line feed for commands, a
comma for selector values and name servers. `tokens` reads such a text, trimming every part and
dropping the blank ones, and `joined` writes one.
-/

namespace WorkloadForms.Text

/-- The parts of a text between the separators; there is always at least one. -/
def split (sep : Char) : List Char → List (List Char)
  | [] => [[]]
  | c :: s =>
    if c = sep then [] :: split sep s
    else match split sep s with
      | [] => [[c]]
      | part :: parts => (c :: part) :: parts

/-- The trimmed parts of a text that are not blank. -/
def tokenChars (sep : Char) (s : List Char) : List (List Char) :=
  ((split sep s).map trim).filter (!·.isEmpty)

/-- `tokenChars` on strings. -/
def tokens (sep : Char) (s : String) : List String :=
  (tokenChars sep s.toList).map String.ofList

/-- The parts in order with the separator between them. -/
def joinChars (sep : Char) : List (List Char) → List Char
  | [] => []
  | [part] => part
  | part :: parts => part ++ sep :: joinChars sep parts

/-- `joinChars` on strings. -/
def joined (sep : Char) (parts : List String) : String :=
  String.ofList (joinChars sep (parts.map String.toList))

/-- The words of a command, one a line. -/
def lines (s : String) : List String := tokens '\n' s

/-- The values of a comma separated list. -/
def commas (s : String) : List String := tokens ',' s

theorem split_ne_nil (sep : Char) (s : List Char) : split sep s ≠ [] := by
  cases s with
  | nil => simp [split]
  | cons c s =>
    by_cases h : c = sep
    · simp [split, h]
    · rw [split, if_neg h]
      cases split sep s <;> simp

/-- Every token is trimmed text with something in it. -/
theorem ne_nil_of_mem_tokenChars {sep : Char} {s t : List Char} (h : t ∈ tokenChars sep s) :
    t ≠ [] := by
  simp only [tokenChars, List.mem_filter] at h
  cases t <;> simp_all

end WorkloadForms.Text
