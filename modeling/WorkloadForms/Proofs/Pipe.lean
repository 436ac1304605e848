import WorkloadForms.Command
import WorkloadForms.Proofs.Restored.Descriptor

/-!
# What one command prints is fed to another

The JSON that `parse` prints is read as YAML by `render`. That gives the descriptor with its texts
as they are heard, if no variable takes its value from a source, every text is legible and every
name is a simple key; else `render` fails (`Manifest.parse_render`).
-/

namespace WorkloadForms

open Yaml (heard)
open Yaml.Scanner (isSimple)

/-- What is read of a text is read of the document that it writes. -/
theorem Codec.ofYamlText?_of_graph {c : Codec β} {s : String} {g : Yaml.Graph}
    (graph : Yaml.Graph.ofText? s = some g) :
    c.ofYamlText? s
      = ((c.read (.yaml g Yaml.depthLimit g.root) g.allowance).toOption).map Prod.fst := by
  rw [ofYamlText?, graph, Option.bind_eq_bind, Option.bind_some]
  cases c.read (.yaml g Yaml.depthLimit g.root) g.allowance <;> rfl

namespace Descriptor

/-- Whether the JSON of a descriptor can be read as YAML: no variable takes its value from a source,
every text is legible, and every name is a simple key. -/
def isPortable (d : Descriptor) : Bool :=
  d.isReadable false && ((codec.write d).texts.all Json.isLegible
    && (codec.write d).names.all isSimple)

/-- The printed JSON of a descriptor is read as YAML like the descriptor as it is heard, if it can
be. -/
theorem ofYamlText?_pretty (d : Descriptor) :
    codec.ofYamlText? ((codec.write d).pretty ++ "\n")
      = if d.isPortable then some (d.mapTexts heard) else none := by
  obtain ⟨members, written, filled⟩ :
      ∃ members, codec.write d = .object members ∧ members ≠ [] :=
    ⟨_, rfl, List.cons_ne_nil _ _⟩
  have whole : Json.haveWhole members = true := by
    have all := (restores (p := .json id fun _ _ => rfl) (k := 0)).whole d
    rwa [written] at all
  -- The text is no YAML document, or it is one with the node of the JSON value as its root.
  obtain ⟨size, graph⟩ := Json.graph_of_pretty filled whole
  rw [written, isPortable, written]
  cases portable : (Json.object members).texts.all Json.isLegible
      && (Json.object members).names.all isSimple with
  | false =>
    rw [portable] at graph
    rw [Codec.ofYamlText?, graph, Bool.and_false]
    rfl
  | true =>
    rw [portable] at graph
    obtain ⟨g, there⟩ : ∃ g : Yaml.Graph, g = ⟨(Json.object members).node, .none, size⟩ := ⟨_, rfl⟩
    have reads : codec.read (.yaml g Yaml.depthLimit (codec.write d).node)
        = Source.given (d.isReadable false) (d.mapTexts heard) :=
      (restores (p := .yaml g) (k := 0)).reads d Yaml.depthLimit (by decide)
    have root : g.root = (codec.write d).node := by rw [there, written]
    rw [if_pos rfl, ← there] at graph
    rw [Codec.ofYamlText?_of_graph graph, Bool.and_true, root, reads]
    cases d.isReadable false <;> rfl

/-- Nothing is lost when a descriptor with clear texts is read as YAML. -/
theorem mapTexts_heard {d : Descriptor} (clear : (codec.write d).texts.all Text.isClear = true) :
    d.mapTexts heard = d :=
  mapTexts_eq_self (fun _ => Presentation.heard_eq_self) fun s there =>
    Presentation.heard_eq_self (List.all_eq_true.1 clear s there)

end Descriptor

/-- What `render` makes of the JSON that `parse` prints of a manifest. -/
def piped (text : String) (k : Kind) (fs : Files) : Outcome :=
  runWords ["render", "--kind", k.name] (runWords ["parse"] text fs).printed fs

/-- A command that reads and writes no file prints its result, if there is one. -/
theorem Command.run_fed {c : Command} (input : c.input = .fed) (output : c.output? = none)
    (fed : String) (fs : Files) :
    c.run fed.toByteArray fs = match c.result? fed with
      | some text => ⟨0, text, fs⟩
      | none => ⟨1, "", fs⟩ := by
  have text : Input.text? fed.toByteArray fs .fed = some fed := dif_pos fed.isValidUTF8
  rw [run_eq, input, output, text, Option.bind_some]
  cases c.result? fed <;> rfl

/-- The JSON of the descriptor is printed for a text that is read as a manifest, and nothing for
any other. -/
theorem runWords_parse (text : String) (fs : Files) :
    runWords ["parse"] text fs = match Manifest.ofText text with
      | .ok m => ⟨0, (Descriptor.codec.write m.descriptor).pretty ++ "\n", fs⟩
      | .error _ => ⟨1, "", fs⟩ := by
  have words : Command.ofWords? ["parse"] = some (.command (.parse none)) := by decide +kernel
  rw [runWords, runOctets_command words, Command.run_fed rfl rfl, Command.result?]
  cases Manifest.ofText text <;> rfl

/-- The manifest of the descriptor is printed for a text that is read as one, and nothing for any
other. -/
theorem runWords_render (k : Kind) (text : String) (fs : Files) :
    runWords ["render", "--kind", k.name] text fs
      = match Descriptor.codec.ofYamlText? text with
        | some d => ⟨0, d.render k, fs⟩
        | none => ⟨1, "", fs⟩ := by
  have words : Command.ofWords? ["render", "--kind", k.name]
      = some (.command (.render k none none)) := by cases k <;> decide +kernel
  rw [runWords, runOctets_command words, Command.run_fed rfl rfl, Command.result?]
  cases Descriptor.codec.ofYamlText? text <;> rfl

/-- For every text that `parse` accepts, `render` makes of the printed JSON the manifest of the
descriptor as it is heard if the descriptor is portable, and fails if it is not. That is the
manifest of the descriptor itself exactly when moreover hearing its texts makes no difference to
the manifest, as is the case when they have no line breaks that JSON leaves as they stand. -/
theorem piped_iff {text : String} {fs : Files} (accepted : (runWords ["parse"] text fs).code = 0)
    (k : Kind) :
    ∃ m, Manifest.ofText text = .ok m ∧
      piped text k fs = (if m.descriptor.isPortable then
        ⟨0, (m.descriptor.mapTexts heard).render k, fs⟩ else ⟨1, "", fs⟩) ∧
      (piped text k fs = ⟨0, m.descriptor.render k, fs⟩ ↔
        m.descriptor.isPortable = true ∧
          (m.descriptor.mapTexts heard).render k = m.descriptor.render k) ∧
      ((Descriptor.codec.write m.descriptor).texts.all Text.isClear = true →
        (piped text k fs = ⟨0, m.descriptor.render k, fs⟩ ↔ m.descriptor.isPortable = true)) := by
  rw [runWords_parse] at accepted
  cases read : Manifest.ofText text with
  | error e =>
    rw [read] at accepted
    cases accepted
  | ok m =>
    have outcome : piped text k fs = (if m.descriptor.isPortable then
        ⟨0, (m.descriptor.mapTexts heard).render k, fs⟩ else ⟨1, "", fs⟩) := by
      rw [piped, runWords_parse, read, runWords_render, Descriptor.ofYamlText?_pretty]
      cases m.descriptor.isPortable <;> rfl
    have same : piped text k fs = ⟨0, m.descriptor.render k, fs⟩ ↔
        m.descriptor.isPortable = true ∧
          (m.descriptor.mapTexts heard).render k = m.descriptor.render k := by
      rw [outcome]
      cases m.descriptor.isPortable <;> simp
    refine ⟨m, rfl, outcome, same, fun clear => ?_⟩
    rw [same, Descriptor.mapTexts_heard clear]
    simp

/-- A manifest with a variable, a probe and a mounted volume; the lines say what the variable is. -/
def variableManifest (lines : List String) : String := String.join (
  ["spec:\n", "  template:\n", "    spec:\n", "      containers:\n", "      - name: web\n",
    "        env:\n", "        - name: NODE\n"] ++ lines ++
  ["        readinessProbe:\n", "          httpGet:\n", "            path: /ready\n",
    "        volumeMounts:\n", "        - mountPath: /data\n", "          name: data\n",
    "      volumes:\n", "      - name: data\n", "        emptyDir: \x7b\x7d\n"])

/-- A variable with a value. -/
def valueLines : List String := ["          value: west\n"]

/-- A variable that takes its value from a field of the pod. -/
def sourceLines : List String :=
  ["          valueFrom:\n", "            fieldRef:\n", "              fieldPath: spec.nodeName\n"]

/-- A manifest with a character in its name that YAML does not permit. -/
def unprintable : String := "metadata: \x7bname: \"\\x7f\"\x7d\n"

/-- A manifest comes through if its variable is given, and not if the variable has a source; nor
does one with an unprintable name. -/
theorem piped_variable :
    (∃ m, Manifest.ofText (variableManifest valueLines) = .ok m ∧
      (runWords ["parse"] (variableManifest valueLines) .none).code = 0 ∧
      piped (variableManifest valueLines) .job .none = ⟨0, m.descriptor.render .job, .none⟩) ∧
    ((runWords ["parse"] (variableManifest sourceLines) .none).code = 0 ∧
      piped (variableManifest sourceLines) .job .none = ⟨1, "", .none⟩) ∧
    (runWords ["parse"] unprintable .none).code = 0 ∧
      piped unprintable .job .none = ⟨1, "", .none⟩ := by
  have accepted {text : String} {m : Manifest} (read : Manifest.ofText text = .ok m) :
      (runWords ["parse"] text .none).code = 0 := by rw [runWords_parse, read]
  have refused {text : String} {cs : List Char} (chars : text.toList = cs)
      (filled : cs.all Text.isBlank = false)
      (broken : (Yaml.ofText? text).any (fun y =>
        (Manifest.ofYaml y).toOption.any fun m => m.descriptor.isPortable == false) = true) :
      (runWords ["parse"] text .none).code = 0 ∧ piped text .job .none = ⟨1, "", .none⟩ := by
    obtain ⟨y, m, -, read, broken⟩ := Manifest.exists_of_any chars filled broken
    obtain ⟨m', read', outcome, -⟩ := piped_iff (accepted read) .job
    obtain rfl := Except.ok.inj (read.symm.trans read')
    rw [eq_of_beq broken] at outcome
    exact ⟨accepted read, outcome⟩
  refine ⟨?_, ?_, ?_⟩
  · have known : (Yaml.ofText? (variableManifest valueLines)).any (fun y =>
        (Manifest.ofYaml y).toOption.any fun m => m.descriptor.isPortable
          && (Descriptor.codec.write m.descriptor).texts.all Text.isClear) = true := by
      rw [variableManifest, Yaml.ofText?_of_toList String.toList_join]
      decide +kernel
    obtain ⟨y, m, -, read, known⟩ :=
      Manifest.exists_of_any String.toList_join (by decide +kernel) known
    obtain ⟨portable, clear⟩ := Bool.and_eq_true_iff.1 known
    obtain ⟨m', read', -, -, same⟩ := piped_iff (accepted read) .job
    obtain rfl := Except.ok.inj (read.symm.trans read')
    exact ⟨m, read, accepted read, (same clear).2 portable⟩
  · refine refused String.toList_join (by decide +kernel) ?_
    rw [variableManifest, Yaml.ofText?_of_toList String.toList_join]
    decide +kernel
  · exact refused rfl (by decide +kernel) (by decide +kernel)

end WorkloadForms
