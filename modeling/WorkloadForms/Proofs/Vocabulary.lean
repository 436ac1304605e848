import WorkloadForms.Form.Terms
import WorkloadForms.Kind

/-!
# Words are read as the values they stand for

In a lawful vocabulary every value is found again by its word. The vocabularies of workloads are
lawful, so a manifest that holds the word of a value holds the value.
-/

namespace WorkloadForms

/-- A vocabulary in which every value is found by its word. -/
class LawfulVocabulary (α : Type) [Vocabulary α] : Prop where
  ofWord?_word (a : α) : Vocabulary.ofWord? (Vocabulary.word a) = some a

export LawfulVocabulary (ofWord?_word)

attribute [simp] ofWord?_word

namespace Form

instance : LawfulVocabulary PullPolicy := ⟨by intro a; cases a <;> decide⟩

instance : LawfulVocabulary PodManagement := ⟨by intro a; cases a <;> decide⟩

instance : LawfulVocabulary Protocol := ⟨by intro a; cases a <;> decide⟩

instance : LawfulVocabulary Scheme := ⟨by intro a; cases a <;> decide⟩

instance : LawfulVocabulary DnsPolicy := ⟨by intro a; cases a <;> decide⟩

instance : LawfulVocabulary Concurrency := ⟨by intro a; cases a <;> decide⟩

instance : LawfulVocabulary StrategyType := ⟨by intro a; cases a <;> decide⟩

instance : LawfulVocabulary TolerationOperator := ⟨by intro a; cases a <;> decide⟩

instance : LawfulVocabulary SelectorOperator := ⟨by intro a; cases a <;> decide⟩

instance : LawfulVocabulary ProbeType := ⟨by intro a; cases a <;> decide⟩

instance : LawfulVocabulary VolumeType := ⟨by intro a; cases a <;> decide⟩

end Form

/-- A kind is found by its canonical name. -/
@[simp] theorem Kind.ofName?_name (k : Kind) : Kind.ofName? k.name = some k := by
  cases k <;> decide +kernel

end WorkloadForms
