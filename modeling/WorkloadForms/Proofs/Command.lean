import WorkloadForms.Command
import WorkloadForms.Proofs.Files

/-!
# Commands are all or nothing

A command that fails prints nothing and leaves every file as it was. A command that succeeds prints
what it makes, or replaces the content of the file that it writes and of no other one, also if that
is the file that it reads: `Outcome.AllOrNothing`. `Command.run_allOrNothing` says so of every
command, and `runOctets_allOrNothing` of the command lines that render a descriptor or read a
manifest, with what they make, whatever the tree of files is and whether or not what they are fed is
a text.
-/

namespace WorkloadForms

/-! ## Running a command -/

/-- What is left of a command that can make certain texts for an output, which is printed or a file.

It succeeds exactly when it makes a text and the output is no file that cannot be written. If it
fails, nothing is printed and no file is another one; if it succeeds, the text is printed and no
file is another one, or nothing is printed and the text replaces the content of the file. -/
structure Outcome.AllOrNothing (o : Outcome) (makes : String → Prop) (output : Option String)
    (fs : Files) : Prop where
  succeeds : o.code = 0 ↔ (∃ text, makes text) ∧ ∀ name ∈ output, fs.IsWritable name
  nothing : o.code ≠ 0 → o.printed = "" ∧ o.files = fs
  printed : o.code = 0 → output = none → makes o.printed ∧ o.files = fs
  written : o.code = 0 → ∀ name ∈ output,
    o.printed = "" ∧ ∃ text, makes text ∧ fs.Replaces name text.toByteArray o.files

namespace Command

/-- Every command is all or nothing. -/
theorem run_allOrNothing (c : Command) (fed : ByteArray) (fs : Files) :
    (c.run fed fs).AllOrNothing (fun text => (c.input.text? fed fs).bind c.result? = some text)
      c.output? fs := by
  rw [run_eq]
  cases made : (c.input.text? fed fs).bind c.result? with
  | none => constructor <;> simp
  | some text =>
    cases target : c.output? with
    | none => constructor <;> simp
    | some name =>
      have writable := fs.isSome_openToWrite?_iff name
      cases opened : fs.openToWrite? name with
      | none =>
        have unwritable : ¬ fs.IsWritable name := by simp [← writable, opened]
        constructor <;> simp [opened, unwritable]
      | some found =>
        obtain ⟨number, gs⟩ := found
        have there : fs.IsWritable name := by simp [← writable, opened]
        have replaced := Files.replaces_write opened text.toByteArray
        constructor <;> simp [opened, there, replaced]

/-- The manifest that is rendered of an input that reads as a descriptor. -/
def Renders (kind : Kind) (input : Option String) (text : String) : Prop :=
  ∃ given d, input = some given ∧ Descriptor.codec.ofYamlText? given = some d ∧
    d.render kind = text

/-- The JSON of the descriptor that is read of an input, with a line feed at its end. -/
def Parses (input : Option String) (text : String) : Prop :=
  ∃ given m, input = some given ∧ Manifest.ofText given = .ok m ∧
    (Descriptor.codec.write m.descriptor).pretty ++ "\n" = text

/-- What rendering makes. -/
theorem bind_result?_render_iff {kind : Kind} {file output : Option String} {text : String}
    {input : Option String} :
    input.bind (Command.render kind file output).result? = some text ↔
      Renders kind input text := by
  simp [Option.bind_eq_some_iff, Renders, result?]

/-- What reading a manifest makes. -/
theorem bind_result?_parse_iff {file : Option String} {text : String} {input : Option String} :
    input.bind (Command.parse file).result? = some text ↔ Parses input text := by
  have accepted (s : String) (m : Manifest) :
      (Manifest.ofText s).toOption = some m ↔ Manifest.ofText s = .ok m := by
    cases Manifest.ofText s <;> simp [Except.toOption]
  simp [Option.bind_eq_some_iff, Parses, result?, accepted]

end Command

open Command in
/-- Command lines that render a descriptor or read a manifest are all or nothing, whatever the files
are and whichever of them are read and written. Reading a manifest changes no file. -/
theorem runOctets_allOrNothing (words : List String) (fed : ByteArray) (fs : Files) :
    (∀ kind file output, ofWords? words = some (.command (.render kind file output)) →
      (runOctets words fed fs).AllOrNothing
        (Renders kind ((Input.ofOption file).text? fed fs)) output fs) ∧
    ∀ file, ofWords? words = some (.command (.parse file)) →
      (runOctets words fed fs).AllOrNothing
        (Parses ((Input.ofOption file).text? fed fs)) none fs ∧
      (runOctets words fed fs).files = fs := by
  constructor
  case left =>
    intro kind file output asked
    have run := run_allOrNothing (.render kind file output) fed fs
    simp only [bind_result?_render_iff] at run
    rw [runOctets_command asked]
    exact run
  case right =>
    intro file asked
    have run := run_allOrNothing (.parse file) fed fs
    simp only [bind_result?_parse_iff] at run
    rw [runOctets_command asked]
    refine ⟨run, ?_⟩
    by_cases done : ((Command.parse file).run fed fs).code = 0
    · exact (run.printed done rfl).2
    · exact (run.nothing done).2

/-- A working directory with a file of a text, a file with octets that are no text, an empty
directory, and a link into that. -/
def desk (text : String) : Files where
  nodes := [.directory {} 0, .directory {} 0, .directory {} 1, .file {} text.toByteArray,
    .file {} ⟨#[255]⟩, .directory {} 2, .link "out/new.yaml"]
  names := [((0, "home"), 1), ((1, "work"), 2), ((2, "pi.yaml"), 3), ((2, "seal"), 4),
    ((2, "out"), 5), ((2, "latest"), 6)]
  here := 2
  named := by simp
  nested := by simp [Inode.above?]
  placed := by simp

/-- Rendering a descriptor over its own file leaves the manifest there, and the other file as it
was; over a link to a file that is not there, it makes the file; where the file holds no descriptor,
all is left as it was. -/
theorem runOctets_allOrNothing_desk :
    let words (output : String) := ["render", "--kind", "Job", "-f", "pi.yaml", "-o", output]
    let own := runOctets (words "/home/work/./pi.yaml") .empty (desk "name: pi\n")
    let new := runOctets (words "../work/latest") .empty (desk "name: pi\n")
    let failed := runOctets (words "pi.yaml") .empty (desk "name: [pi]\n")
    let manifest := (({ name := "pi" } : Descriptor).render .job).toByteArray
    (∀ output ∈ ["/home/work/./pi.yaml", "../work/latest", "pi.yaml"],
      Command.ofWords? (words output) =
        some (.command (.render .job (some "pi.yaml") (some output)))) ∧
      (own.code = 0 ∧ own.files.content? "pi.yaml" = some manifest ∧
        own.files.content? "seal" = some ⟨#[255]⟩) ∧
      (new.code = 0 ∧ new.files.content? "out/new.yaml" = some manifest ∧
        new.files.content? "pi.yaml" = some "name: pi\n".toByteArray) ∧
      failed.code ≠ 0 ∧ failed.printed = "" ∧ failed.files = desk "name: [pi]\n" := by
  intro words own new failed manifest
  have asked : ∀ output ∈ ["/home/work/./pi.yaml", "../work/latest", "pi.yaml"],
      Command.ofWords? (words output) =
        some (.command (.render .job (some "pi.yaml") (some output))) := by
    decide +kernel
  have input : ∀ text ∈ ["name: pi\n", "name: [pi]\n"],
      (Input.ofOption (some "pi.yaml")).text? .empty (desk text) = some text := by
    have found : ∀ text ∈ ["name: pi\n", "name: [pi]\n"],
        (desk text).find? "pi.yaml" = some (.node 3) := by decide +kernel
    exact fun text mem => Files.read?_eq_some_iff.2 ⟨3, {}, found text mem, rfl, rfl⟩
  have good : Descriptor.codec.ofYamlText? "name: pi\n" = some { name := "pi" } := by
    decide +kernel
  have bad : Descriptor.codec.ofYamlText? "name: [pi]\n" = none := by decide +kernel
  have succeeds {output : String} (asked : Command.ofWords? (words output) =
      some (.command (.render .job (some "pi.yaml") (some output))))
      (writable : (desk "name: pi\n").IsWritable output) :
      let done := runOctets (words output) .empty (desk "name: pi\n")
      done.code = 0 ∧ (desk "name: pi\n").Replaces output manifest done.files := by
    have all := (runOctets_allOrNothing (words output) .empty (desk "name: pi\n")).1 _ _ _ asked
    have there := input "name: pi\n" (by simp)
    have code := all.succeeds.2 ⟨⟨_, _, _, there, good, rfl⟩, by simpa using writable⟩
    obtain ⟨-, text, ⟨given, d, there', decoded, rfl⟩, replaced⟩ := all.written code output rfl
    obtain rfl := Option.some.inj (there.symm.trans there')
    obtain rfl := Option.some.inj (good.symm.trans decoded)
    exact ⟨code, replaced⟩
  refine ⟨asked, ?own, ?new, ?failed⟩
  case own =>
    have leads : (desk "name: pi\n").find? "/home/work/./pi.yaml" = some (.node 3) := by
      decide +kernel
    obtain ⟨code, replaced⟩ := succeeds (asked "/home/work/./pi.yaml" (by simp))
      (.inl ⟨3, {}, _, leads, rfl, rfl⟩)
    refine ⟨code, ?_, ?_⟩
    · rw [replaced.contents, if_pos (by decide +kernel)]
    · rw [replaced.contents, if_neg (by decide +kernel)]
      decide +kernel
  case new =>
    have leads : (desk "name: pi\n").find? "../work/latest" = some (.free 5 "new.yaml") := by
      decide +kernel
    obtain ⟨code, replaced⟩ := succeeds (asked "../work/latest" (by simp))
      (.inr ⟨5, "new.yaml", {}, 2, leads, rfl, rfl⟩)
    refine ⟨code, ?_, ?_⟩
    · rw [replaced.contents, if_pos (by decide +kernel)]
    · rw [replaced.contents, if_neg (by decide +kernel)]
      decide +kernel
  case failed =>
    have all := (runOctets_allOrNothing (words "pi.yaml") .empty (desk "name: [pi]\n")).1 _ _ _
      (asked "pi.yaml" (by simp))
    have fails : failed.code ≠ 0 := by
      intro code
      obtain ⟨⟨text, given, d, there, decoded, -⟩, -⟩ := all.succeeds.1 code
      obtain rfl := Option.some.inj ((input "name: [pi]\n" (by simp)).symm.trans there)
      cases bad.symm.trans decoded
    exact ⟨fails, all.nothing fails⟩

end WorkloadForms
