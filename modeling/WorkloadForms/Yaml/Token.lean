/-!
# Tokens of YAML texts

The tokens into which a text is cut. The starts and the ends of block collections are tokens too,
although no character stands for them: they follow from the indentation.
-/

namespace WorkloadForms.Yaml

/-- How a scalar is written. -/
inductive Style where
  | plain
  | quoted
  | literal
  | folded
  deriving DecidableEq, Repr, Inhabited

/-- A tag as it is written: the handle, empty for a verbatim tag, and what follows it. -/
structure TagText where
  handle : String
  suffix : String
  deriving DecidableEq, Repr, Inhabited

/-- A token. -/
inductive Token where
  | version (major minor : Nat)
  | tagHandle (handle expansion : String)
  | documentStart
  | documentEnd
  | blockSequenceStart
  | blockMappingStart
  | blockEnd
  | flowSequenceStart
  | flowSequenceEnd
  | flowMappingStart
  | flowMappingEnd
  | blockEntry
  | flowEntry
  | key
  | value
  | alias (name : String)
  | anchor (name : String)
  | tag (name : TagText)
  | scalar (content : String) (style : Style)
  deriving DecidableEq, Repr, Inhabited

end WorkloadForms.Yaml
