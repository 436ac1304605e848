import WorkloadForms.Command.Files
import WorkloadForms.Command.Options
import WorkloadForms.Json.Printer
import WorkloadForms.Manifest

/-!
# Commands

The commands of the program: `render` writes the manifest of a descriptor, `parse` prints the
descriptor of a manifest, and `template` prints the manifest that a new workload starts from. A
command that fails prints nothing and changes no file.

`Command.ofWords?` reads a command line and `performWords` runs it on a host, which says how texts
are read, printed and written. `runWords` is what that comes to on a tree of files.
-/

namespace WorkloadForms

/-- A command. -/
inductive Command where
  | render (kind : Kind) (file output : Option String)
  | parse (file : Option String)
  | template (kind : Kind) (space : String)
  | serve (port : Nat)
  deriving DecidableEq, Repr, Inhabited

/-- What a command line asks for. -/
inductive Invocation where
  | version
  | help
  | command (c : Command)
  deriving DecidableEq, Repr, Inhabited

/-- Where a command takes its input from. -/
inductive Input where
  | nothing
  | fed
  | file (name : String)
  deriving DecidableEq, Repr, Inhabited

/-- The input that is named by an option: a file, or without one what the command is fed. -/
def Input.ofOption : Option String → Input
  | some name => .file name
  | none => .fed

/-- The text of an input, for a command that is fed octets and finds files. -/
def Input.text? (fed : ByteArray) (fs : Files) : Input → Option String
  | .nothing => some ""
  | .fed => String.fromUTF8? fed
  | .file name => fs.read? name

/-- What commands run on. -/
structure Host (m : Type → Type) where
  /-- What stands for a file that is open. -/
  Handle : Type
  /-- The text that the command is fed, if it is one. -/
  fed : m (Option String)
  /-- The text of a file, if it can be opened and read, and is one. -/
  read (name : String) : m (Option String)
  /-- Prints a text. -/
  print (text : String) : m Unit
  /-- Opens a file to be written, if that can be done: it is made or emptied. -/
  openToWrite (name : String) : m (Option Handle)
  /-- Writes a text to a file that is open. -/
  write (handle : Handle) (text : String) : m Unit

/-- What a program runs in: what it is fed, what it has printed, and the files. -/
structure World where
  fed : ByteArray
  printed : String
  files : Files

/-- The host of programs that run in a world. -/
def World.host : Host (StateM World) where
  Handle := Nat
  fed := return String.fromUTF8? (← get).fed
  read name := return (← get).files.read? name
  print text := modify fun w => { w with printed := w.printed ++ text }
  openToWrite name := do
    match (← get).files.openToWrite? name with
    | some (number, opened) =>
      modify fun w => { w with files := opened }
      return some number
    | none => return none
  write number text := modify fun w => { w with files := w.files.write number text.toByteArray }

/-- What running a program leaves: the code, what is printed, and the files. -/
structure Outcome where
  code : Nat
  printed : String
  files : Files

/-- What a program leaves that is fed octets and finds files. -/
def Outcome.of (program : StateM World Nat) (fed : ByteArray) (fs : Files) : Outcome :=
  let (code, world) := (program.run ⟨fed, "", fs⟩).run
  ⟨code, world.printed, world.files⟩

namespace Command

/-- The name and the version of the program. -/
def versionText : String := "kube-console 0.1.0\n"

/-- The option that names a kind. -/
def kindOption : CommandOption := ⟨"kind", 'k'⟩

/-- The option that names a file to read. -/
def fileOption : CommandOption := ⟨"file", 'f'⟩

/-- The option that names a file to write. -/
def outputOption : CommandOption := ⟨"output", 'o'⟩

/-- The option that names a namespace. -/
def namespaceOption : CommandOption := ⟨"namespace", 'n'⟩

/-- The option that gives a port. -/
def portOption : CommandOption := ⟨"port", 'p'⟩

/-- A port: a number of sixteen bits. -/
def port? (s : String) : Option Nat :=
  let digits := match s.toList with
    | '+' :: ds => ds
    | ds => ds
  (Text.number? 10 digits).filter (· < 65536)

/-- The kind among the values of options. -/
def kindOf? (values : List (String × String)) : Option Kind :=
  (values.lookup "kind").bind Kind.ofName?

/-- The options of a command and what it is with their values. -/
def named? : String → Option (List CommandOption × (List (String × String) → Option Command))
  | "render" =>
    some ([kindOption, fileOption, outputOption], fun values => do
      return .render (← kindOf? values) (values.lookup "file") (values.lookup "output"))
  | "parse" => some ([fileOption], fun values => some (.parse (values.lookup "file")))
  | "template" =>
    some ([kindOption, namespaceOption], fun values => do
      return .template (← kindOf? values) ((values.lookup "namespace").getD "default"))
  | "server" =>
    some ([portOption], fun values => do
      return .serve (← port? ((values.lookup "port").getD "9090")))
  | _ => none

/-- What the words of a command line ask for, if they are well formed. -/
def ofWords? : List String → Option Invocation
  | [] => none
  | word :: rest =>
    match word.toList with
    | '-' :: 'V' :: _ => some .version
    | '-' :: 'h' :: _ => some .help
    | '-' :: '-' :: _ =>
      if word == "--version" then some .version
      else if word == "--help" then some .help
      else none
    | _ =>
      if word == "help" && rest.all fun name => (named? name).isSome || name == "help" then
        some .help
      else do
        let (known, make) ← named? word
        match ← Options.read? known (rest.length + 1) [] rest with
        | .help => return .help
        | .given values => return .command (← make values)

/-- The input of a command. -/
def input : Command → Input
  | .render _ file _ => .ofOption file
  | .parse file => .ofOption file
  | .template .. => .nothing
  | .serve _ => .nothing

/-- The file that a command writes; without one it prints. -/
def output? : Command → Option String
  | .render _ _ output => output
  | _ => none

/-- What a command makes of its input. Serving is not done on texts. -/
def result? (input : String) : Command → Option String
  | .render kind _ _ => (Descriptor.codec.ofYamlText? input).map (·.render kind)
  | .parse _ =>
    (Manifest.ofText input).toOption.map fun m =>
      (Descriptor.codec.write m.descriptor).pretty ++ "\n"
  | .template kind space => some ((Descriptor.template kind space).render kind)
  | .serve _ => none

section

variable {m : Type → Type} [Monad m] (host : Host m)

/-- Reads an input on a host. -/
def readInput : Input → m (Option String)
  | .nothing => return some ""
  | .fed => host.fed
  | .file name => host.read name

/-- Performs a command on a host, and gives its code. The file that is written is not opened before
it is clear what to write. -/
def perform (c : Command) : m Nat := do
  match (← readInput host c.input).bind fun input => c.result? input with
  | none => return 1
  | some text =>
    match c.output? with
    | none =>
      host.print text
      return 0
    | some name =>
      match ← host.openToWrite name with
      | none => return 1
      | some handle =>
        host.write handle text
        return 0

end

/-- Runs a command. -/
def run (c : Command) (fed : ByteArray) (fs : Files) : Outcome :=
  .of (c.perform World.host) fed fs

/-- What a command leaves. -/
theorem run_eq (c : Command) (fed : ByteArray) (fs : Files) :
    c.run fed fs = match (c.input.text? fed fs).bind c.result?, c.output? with
      | none, _ => ⟨1, "", fs⟩
      | some text, none => ⟨0, text, fs⟩
      | some text, some name =>
        match fs.openToWrite? name with
        | none => ⟨1, "", fs⟩
        | some (number, opened) => ⟨0, "", opened.write number text.toByteArray⟩ := by
  have input : (readInput World.host c.input).run ⟨fed, "", fs⟩ =
      pure (c.input.text? fed fs, ⟨fed, "", fs⟩) := by
    cases c.input <;> rfl
  rw [run, Outcome.of, perform, StateT.run_bind, input, pure_bind]
  cases made : (c.input.text? fed fs).bind c.result? with
  | none => rfl
  | some text =>
    cases target : c.output? with
    | none => simp [World.host]
    | some name => cases opened : fs.openToWrite? name <;> simp [World.host, opened]

end Command

/-- Runs a command line on a host, and gives the code. -/
def performWords {m : Type → Type} [Monad m] (host : Host m) (words : List String) : m Nat :=
  match Command.ofWords? words with
  | some .version => do
    host.print Command.versionText
    return 0
  | some .help => return 0
  | some (.command c) => c.perform host
  | none => return 2

/-- Runs a command line that is fed octets. -/
def runOctets (words : List String) (fed : ByteArray) (fs : Files) : Outcome :=
  .of (performWords World.host words) fed fs

/-- Runs a command line that is fed a text. -/
def runWords (words : List String) (fed : String) (fs : Files) : Outcome :=
  runOctets words fed.toByteArray fs

/-- A command line of a command is run like the command. -/
theorem runOctets_command {words : List String} {c : Command}
    (asked : Command.ofWords? words = some (.command c)) (fed : ByteArray) (fs : Files) :
    runOctets words fed fs = c.run fed fs := by
  rw [runOctets, performWords, asked]
  rfl

end WorkloadForms
