import WorkloadForms.Text.Blank

/-!
# Settings of the console

Settings are read from variables of the environment; the blanks around a value are dropped, and a
variable that is not set or blank leaves the default.
-/

namespace WorkloadForms.Console

/-- The settings. -/
structure Config where
  /-- The namespace of a new workload. -/
  defaultNamespace : String := "default"
  /-- The origin that responses are shared with. -/
  allowedOrigin : String := "http://localhost:3000"
  deriving DecidableEq, Repr, Inhabited

namespace Config

/-- A value without the blanks around it, unless nothing is left. -/
def setting? (value : Option String) : Option String :=
  (value.map Text.trimmed).bind fun s => if s.isEmpty then none else some s

/-- The settings of an environment. -/
def ofEnvironment (lookup : String → Option String) : Config :=
  let default : Config := {}
  { defaultNamespace :=
      (setting? (lookup "CONSOLE_DEFAULT_NAMESPACE")).getD default.defaultNamespace
    allowedOrigin := (setting? (lookup "CONSOLE_ALLOWED_ORIGIN")).getD default.allowedOrigin }

end Config

end WorkloadForms.Console
