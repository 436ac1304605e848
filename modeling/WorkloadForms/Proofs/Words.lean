import WorkloadForms.Proofs.ReadBack
import WorkloadForms.Proofs.Words.Values

/-!
# What becomes of lists of texts

A manifest and JSON may have lists where a form keeps one text with separators: commands, the lists
of the resolver, and the values of conditions. `GivenLists` says which lists there are,
`GivenLists.ofYaml` in the pod specification of a manifest that is read and `GivenLists.ofJson` in
the document of a descriptor. What is rendered afterwards has the tokens of all texts of a list, one
after the other (`GivenLists.CarriedBy`). `Descriptor.lists_survive` says so of all lists, wherever
they come from.
-/

namespace WorkloadForms

open Form Yaml

/-! ## Lists that are given -/

/-- The containers of a descriptor are written one by one. -/
theorem Form.ContainerRole.itemsAt_podSpec (role : ContainerRole) (d : Descriptor)
    (policy : Option String) :
    (d.podSpec policy).itemsAt role.key = (role.containers d).map Container.toYaml := by
  cases role <;> simp [itemsAt, Descriptor.podSpec, key, containers]

/-- The lists of a source with containers and rows of type `σ`. -/
structure GivenLists (σ : Type) where
  /-- Whether these are the containers of a pod. -/
  containers : ContainerRole → List σ → Prop
  /-- Whether a container has this list for a command. -/
  command : CommandPlace → σ → List String → Prop
  /-- Whether this is a list of the resolver. -/
  resolver : ResolverPlace → List String → Prop
  /-- Whether these are the rows of scheduling rules. -/
  rows : RowPlace → List σ → Prop
  /-- Whether a row has this list of values. -/
  values : RowPlace → σ → List String → Prop

namespace GivenLists

/-- The lists of a pod specification that is read. -/
def ofYaml (pod : Yaml) : GivenLists Yaml where
  containers role items := items = (pod.itemsAt role.key).filter isMap
  command place item ts := place.IsGivenInYaml item ts
  resolver place ts := place.IsGivenInYaml pod ts
  rows place conditions := conditions = place.readIn pod
  values _ condition ts := condition.field? "values" = some (.texts ts)

/-- The lists of the JSON document of a descriptor. -/
def ofJson (d : Json.Document) : GivenLists Json.Document where
  containers role items :=
    ∃ closed, d.field? Descriptor.fields role.key = some (.list items closed)
  command place item ts := place.IsGivenInJson item ts
  resolver place ts := ∃ config ∈ d.field? Descriptor.fields "dnsConfig",
    config.field? DnsConfig.fields place.key = some (.ofTexts ts)
  rows place rows := ∃ rules ∈ d.field? Descriptor.fields "scheduling",
    ∃ closed, rules.field? Scheduling.fields place.listName = some (.list rows closed)
  values place row ts := place.values? row = some (.ofTexts ts)

/-- What becomes of lists in a pod specification that is written: it has the containers and the
conditions one by one, with the tokens of the lists. -/
structure CarriedBy (given : GivenLists σ) (pod : Yaml) : Prop where
  commands : ∀ role items, given.containers role items →
    List.Forall₂ (fun item y => ∀ place ts, given.command place item ts → place.Carries ts y)
      items (pod.itemsAt role.key)
  resolver : ∀ place ts, given.resolver place ts →
    Tokenizes ',' ts (pod.at? ["dnsConfig", place.key])
  values : ∀ place rows, given.rows place rows →
    List.Forall₂ (fun row condition => ∀ ts, given.values place row ts →
      Tokenizes ',' ts (condition.get? "values")) rows (place.writtenIn pod)

end GivenLists

/-- Whether a descriptor is what is read of a JSON document, of a whole value or of a text. -/
def Descriptor.IsReadOf (document : Json.Document) (d : Descriptor) : Prop :=
  (∃ j, document = .ofJson j ∧ codec.ofJson? j = some d) ∨
    ∃ text, document = (Json.Document.ofText text).1 ∧ codec.ofJsonText text = .ok d

/-! ## Forms that have the lists in their texts -/

/-- Whether a descriptor has lists in its texts, joined with their separators. -/
structure GivenLists.HeldBy (given : GivenLists σ) (d : Descriptor) : Prop where
  commands : ∀ role items, given.containers role items →
    List.Forall₂ (fun item c => ∀ place ts, given.command place item ts →
      place.text? c = some (Text.joined '\n' ts)) items (role.containers d)
  resolver : ∀ place ts, given.resolver place ts →
    ∃ c, d.dnsConfig = some c ∧ place.text c = Text.joined ',' ts
  values : ∀ place rows, given.rows place rows →
    List.Forall₂ (fun row text => ∀ ts, given.values place row ts → text = Text.joined ',' ts)
      rows (place.texts (d.scheduling.getD {}))

namespace GivenLists

/-- Lists that a descriptor has in its texts are carried by its pod specification. -/
theorem HeldBy.carriedBy_podSpec {given : GivenLists σ} {d : Descriptor} (held : given.HeldBy d)
    (policy : Option String) : given.CarriedBy (d.podSpec policy) where
  commands role items there := by
    rw [role.itemsAt_podSpec, List.forall₂_map_right_iff]
    exact (held.commands role items there).imp fun item c joined place ts given =>
      CommandPlace.carries (joined place ts given)
  resolver place ts there := by
    obtain ⟨c, config, joined⟩ := held.resolver place ts there
    have written : (d.podSpec policy).get? "dnsConfig" = c.toYaml? := by
      simp [Descriptor.podSpec, config]
    rw [ResolverPlace.at?_eq written, joined]
    exact tokenizes_joined ',' ts
  values place rows there := by
    have written : (d.podSpec policy).get? "affinity" = d.scheduling.bind Scheduling.toYaml? := by
      simp [Descriptor.podSpec]
    -- the conditions correspond to the rows by their values, which are those of the texts
    suffices List.Forall₂
        (fun row values => ∀ ts, given.values place row ts → Tokenizes ',' ts values) rows
        ((place.writtenIn (d.podSpec policy)).map (·.get? "values")) by
      rwa [List.forall₂_map_right_iff] at this
    rw [RowPlace.map_writtenIn written, List.forall₂_map_right_iff]
    refine (held.values place rows there).imp fun row text joined ts given => ?_
    rw [joined ts given]
    exact tokenizes_joined ',' ts

end GivenLists

/-! ## Where the lists come from -/

namespace Descriptor

open WorkloadForms.Field (IsFieldOf)

theorem isFieldOf_containers (role : ContainerRole) :
    IsFieldOf fields role.key Container.codec.list role.containers := by
  cases role <;> constructor <;>
    simp [fields, metadataFields, contentFields, placementFields, updateFields, podFields,
      serviceFields, jobFields, ContainerRole.key, ContainerRole.containers]

theorem isFieldOf_dnsConfig :
    IsFieldOf fields "dnsConfig" DnsConfig.codec.option Descriptor.dnsConfig := by
  constructor <;>
    simp [fields, metadataFields, contentFields, placementFields, updateFields, podFields,
      serviceFields, jobFields]

theorem isFieldOf_scheduling :
    IsFieldOf fields "scheduling" Scheduling.codec.option Descriptor.scheduling := by
  constructor <;>
    simp [fields, metadataFields, contentFields, placementFields, updateFields, podFields,
      serviceFields, jobFields]

end Descriptor

namespace GivenLists

/-- What is read of a manifest has the lists of its pod specification. -/
theorem heldBy_ofManifest (kind : Option Kind) (root : Yaml) :
    (ofYaml ((root.at? (Descriptor.podPath kind)).getD .null)).HeldBy
      (Descriptor.ofManifest kind root) := by
  generalize pod : (root.at? (Descriptor.podPath kind)).getD .null = y
  constructor
  case commands =>
    intro role items there
    obtain rfl : items = _ := there
    rw [role.containers_ofManifest, pod, Container.listAt, List.forall₂_map_right_iff,
      List.forall₂_same]
    exact fun item _ place ts given => CommandPlace.text?_ofYaml given
  case resolver =>
    intro place ts there
    rw [Descriptor.ofManifest, pod]
    exact ResolverPlace.text_of? there
  case values =>
    intro place rows there
    obtain rfl : rows = _ := there
    rw [Descriptor.ofManifest, pod]
    change List.Forall₂ _ _ (place.texts ((Scheduling.of? y).getD {}))
    rw [RowPlace.texts_of?, List.forall₂_map_right_iff, List.forall₂_same]
    exact fun condition _ ts given => congrArg (Text.joined ',') (fieldTexts_texts given)

/-- What is read of a JSON document has its lists. -/
theorem heldBy_of_reads {document : Json.Document} {d : Descriptor}
    (h : Descriptor.codec.Reads document d) : (ofJson document).HeldBy d where
  commands role items there := by
    obtain ⟨closed, there⟩ := there
    have read := h.field (Descriptor.isFieldOf_containers role) there
    exact read.items.imp fun item c read place ts given => CommandPlace.text?_of_reads read given
  resolver place ts there := by
    obtain ⟨config, there, given⟩ := there
    obtain ⟨c, found, read⟩ := (h.field Descriptor.isFieldOf_dnsConfig there).option
      (Json.Document.ne_null_of_field? given)
    exact ⟨c, found, (read.field place.isFieldOf given).separated⟩
  values place rows there := by
    obtain ⟨rules, there, closed, given⟩ := there
    obtain ⟨s, found, read⟩ := (h.field Descriptor.isFieldOf_scheduling there).option
      (Json.Document.ne_null_of_field? given)
    rw [found]
    exact RowPlace.texts_of_reads read given

end GivenLists

namespace Descriptor

/-- What is read of a document is read as a record. -/
theorem IsReadOf.reads {document : Json.Document} {d : Descriptor} (h : d.IsReadOf document) :
    codec.Reads document d := by
  obtain ⟨j, rfl, read⟩ | ⟨text, rfl, read⟩ := h
  · exact .of_ofJson? read
  · exact .of_ofJsonText read

/-- Of every manifest and every JSON document of a descriptor, what is rendered afterwards for any
kind carries the lists that it has. -/
theorem lists_survive (k : Kind) :
    (∀ root m, Manifest.ofYaml root = .ok m →
      ∃ pod, (m.descriptor.manifest k).at? k.podSpecPath = some pod ∧
        (GivenLists.ofYaml ((root.at? (podPath m.kind)).getD .null)).CarriedBy pod) ∧
    ∀ document (d : Descriptor), d.IsReadOf document →
      ∃ pod, (d.manifest k).at? k.podSpecPath = some pod ∧
        (GivenLists.ofJson document).CarriedBy pod := by
  constructor
  case left =>
    intro root m read
    obtain rfl := Manifest.eq_ofRoot_of_ofYaml read
    refine ⟨_, podSpec_manifest k _, ?_⟩
    exact (GivenLists.heldBy_ofManifest _ root).carriedBy_podSpec _
  case right =>
    intro document d read
    exact ⟨_, podSpec_manifest k d, (GivenLists.heldBy_of_reads read.reads).carriedBy_podSpec _⟩

/-- A list with a script of two lines. -/
def script : List String := ["-c", "set -e\n\n  run  \n"]

/-- The manifest of a job with the script as arguments. -/
def scriptManifest : Yaml :=
  .dict [("kind", .text "Job"), ("spec", .dict [("template", .dict [("spec", .dict
    [("containers", .seq [.dict [("args", .texts script)]])])])])]

/-- JSON of a descriptor with the script as the command of a probe. -/
def scriptJson : Json :=
  .object [("containers", .list [.object [("livenessProbe", .object
    [("enabled", .bool true), ("type", .text "exec"),
     ("exec", .object [("command", .list (script.map .text))])])]])]

/-- A script of two lines is written as two words, whether a manifest or JSON has it. -/
theorem script_survives :
    (∃ m, Manifest.ofYaml scriptManifest = .ok m ∧
      ∃ pod c, (m.descriptor.manifest .job).at? Kind.job.podSpecPath = some pod ∧
        pod.itemsAt "containers" = [c] ∧
        c.at? ["args"] = some (.texts ["-c", "set -e", "run"])) ∧
    ∃ d, codec.ofJson? scriptJson = some d ∧
      ∃ pod c, (d.manifest .job).at? Kind.job.podSpecPath = some pod ∧
        pod.itemsAt "containers" = [c] ∧ c.at? ["livenessProbe", "exec", "command"] =
          some (.texts ["-c", "set -e", "run"]) := by
  have words : script.flatMap Text.lines = ["-c", "set -e", "run"] := by decide +kernel
  have one {σ : Type} {given : GivenLists σ} {pod : Yaml} (item : σ) (place : CommandPlace)
      (carried : given.CarriedBy pod) (there : given.containers .running [item])
      (list : given.command place item script) :
      ∃ c, pod.itemsAt "containers" = [c] ∧
        c.at? place.path = some (.texts ["-c", "set -e", "run"]) := by
    obtain ⟨c, _, item, rest, items⟩ :=
      List.forall₂_cons_left_iff.1 (carried.commands .running _ there)
    obtain rfl := List.forall₂_nil_left_iff.1 rest
    refine ⟨c, items, (item place script list).words.tokens.trans ?_⟩
    exact congrArg ofTexts words
  constructor
  case left =>
    have kind : Kind.ofName? "Job" = some .job := by decide +kernel
    have source : (scriptManifest.at? (podPath (Manifest.ofRoot scriptManifest).kind)).getD .null =
        dict [("containers", seq [dict [("args", texts script)]])] := by
      simp [scriptManifest, Manifest.ofRoot, Manifest.kindOf?, textAt?, dict_eq_object, kind,
        podPath, Kind.podSpecPath, at?]
    obtain ⟨pod, there, carried⟩ :=
      (lists_survive .job).1 scriptManifest (.ofRoot scriptManifest) rfl
    rw [source] at carried
    obtain ⟨c, items, args⟩ := one (dict [("args", texts script)]) .args carried
      (by simp [GivenLists.ofYaml, ContainerRole.key, itemsAt, dict_eq_object, List.filter_cons])
      (by simp [GivenLists.ofYaml, CommandPlace.IsGivenInYaml, dict_eq_object])
    exact ⟨_, rfl, pod, c, there, items, args⟩
  case right =>
    obtain ⟨d, read⟩ : ∃ d, codec.ofJson? scriptJson = some d :=
      Option.isSome_iff_exists.1 (by decide +kernel)
    obtain ⟨pod, there, carried⟩ := (lists_survive .job).2 _ d (.inl ⟨scriptJson, rfl, read⟩)
    obtain ⟨c, items, command⟩ := one _ (.probe .liveness) carried ⟨true, rfl⟩
      ⟨_, rfl, rfl, rfl, _, rfl, rfl⟩
    exact ⟨d, read, pod, c, there, items, command⟩

end Descriptor

end WorkloadForms
