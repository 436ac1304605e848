/-!
# Closed vocabularies

A closed vocabulary is a finite list of words for the values of a type.
-/

namespace WorkloadForms

/-- A type whose values have words. -/
class Vocabulary (α : Type) where
  /-- The word of a value. -/
  word : α → String
  /-- All values. -/
  all : List α

/-- The value with a word, if there is one. -/
def Vocabulary.ofWord? [Vocabulary α] (s : String) : Option α :=
  (all : List α).find? (word · == s)

end WorkloadForms
