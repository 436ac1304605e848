/-!
# Numbers that may be given by name

A port is a number or the name of a port, a limit a number or a percentage.
-/

namespace WorkloadForms

/-- A number of 32 bits or a text. -/
inductive IntOrText where
  | number (value : Int32)
  | name (value : String)
  deriving DecidableEq, Repr, Inhabited

end WorkloadForms
