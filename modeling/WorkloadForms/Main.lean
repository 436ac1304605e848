import WorkloadForms.Command

/-!
# The program

Runs a command line on the input, the output and the files of the system.
-/

namespace WorkloadForms

/-- Runs an action, or gives nothing when it fails. -/
def attempt (action : IO α) : IO (Option α) := do
  try return some (← action) catch _ => return none

/-- The host of the program. -/
def systemHost : Host IO where
  Handle := IO.FS.Handle
  fed := do attempt (← IO.getStdin).readToEnd
  read name := attempt (IO.FS.readFile name)
  print text := do (← IO.getStdout).putStr text
  openToWrite name := attempt (IO.FS.Handle.mk name .write)
  write handle text := handle.putStr text

end WorkloadForms

/-- Runs the program on the words of its command line. -/
def main (words : List String) : IO UInt32 :=
  return (← WorkloadForms.performWords WorkloadForms.systemHost words).toUInt32
