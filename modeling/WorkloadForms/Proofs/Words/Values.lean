import Mathlib.Data.List.Forall2
import WorkloadForms.Proofs.Normal.Affinity
import WorkloadForms.Proofs.Normal.Pod
import WorkloadForms.Proofs.Words.Command

/-!
# What becomes of lists with commas

The name servers and search domains of the resolver and the values of conditions on nodes and on
labels are kept in one text with commas between them. The terms of scheduling rules stand in six
places (`RowPlace`), and a form has one row for every condition that is read there
(`RowPlace.texts_of?`) or that JSON has a row for (`RowPlace.texts_of_reads`). A row is written as
one condition (`RowPlace.map_writtenIn`).
-/

namespace WorkloadForms

open Form Yaml
open Schema (preferredKey requiredKey)

namespace Yaml

/-- The items at the end of a path. -/
def itemsIn (y : Yaml) (path : List String) : List Yaml := ((y.at? path).bind items?).getD []

/-- The value at the end of a path of fields. -/
def fieldIn? (y : Yaml) : List String → Option Yaml
  | [] => some y
  | key :: path => (y.field? key).bind (·.fieldIn? path)

/-- The items at the end of a path of fields. -/
def fieldItemsIn (y : Yaml) (path : List String) : List Yaml :=
  ((y.fieldIn? path).bind items?).getD []

end Yaml

namespace Form

/-! ## The resolver -/

/-- A list of the resolver. -/
inductive ResolverPlace where
  | nameservers
  | searches

namespace ResolverPlace

/-- The key of the list. -/
def key : ResolverPlace → String
  | .nameservers => "nameservers"
  | .searches => "searches"

/-- The text that a form has for the list. -/
def text (c : DnsConfig) : ResolverPlace → String
  | .nameservers => c.nameservers
  | .searches => c.searches

/-- Whether the pod specification of a manifest has the list. -/
def IsGivenInYaml (pod : Yaml) (ts : List String) (place : ResolverPlace) : Prop :=
  ∃ config ∈ Schema.dnsConfig.at? pod "dnsConfig", config.field? place.key = some (.texts ts)

/-- The parts of the text are written. -/
theorem at?_eq {pod : Yaml} {c : DnsConfig} (written : pod.get? "dnsConfig" = c.toYaml?)
    (place : ResolverPlace) :
    pod.at? ["dnsConfig", place.key] = ofTexts (Text.commas (place.text c)) := by
  simp only [at?, written, DnsConfig.toYaml?, Option.bind_fun_some]
  split
  · next servers _ searches => cases place <;> simp [text, servers, searches]
  · cases place <;> simp [key, text]

/-- A list that a manifest has is joined to the text of the form. -/
theorem text_of? {pod : Yaml} {place : ResolverPlace} {ts : List String}
    (given : place.IsGivenInYaml pod ts) :
    ∃ c, DnsConfig.of? pod = some c ∧ place.text c = Text.joined ',' ts := by
  obtain ⟨config, there, given⟩ := given
  rw [DnsConfig.of?, Option.mem_def.1 there]
  refine ⟨_, rfl, ?_⟩
  cases place <;> exact congrArg (Text.joined ',') (fieldTexts_texts given)

theorem isFieldOf (place : ResolverPlace) :
    Field.IsFieldOf DnsConfig.fields place.key (.separated ',') place.text := by
  cases place <;> constructor <;> simp [DnsConfig.fields, key, text]

end ResolverPlace

/-! ## Places of rows -/

/-- Where rows of scheduling rules stand. -/
inductive RowPlace where
  | nodeRequired
  | nodePreferred
  | podRequired
  | podPreferred
  | antiRequired
  | antiPreferred

namespace RowPlace

/-- The path to the terms. -/
def terms : RowPlace → List String
  | .nodeRequired => ["nodeAffinity", requiredKey, "nodeSelectorTerms"]
  | .nodePreferred => ["nodeAffinity", preferredKey]
  | .podRequired => ["podAffinity", requiredKey]
  | .podPreferred => ["podAffinity", preferredKey]
  | .antiRequired => ["podAntiAffinity", requiredKey]
  | .antiPreferred => ["podAntiAffinity", preferredKey]

/-- The path from a term to its conditions. -/
def conditions : RowPlace → List String
  | .nodeRequired => ["matchExpressions"]
  | .nodePreferred => ["preference", "matchExpressions"]
  | .podRequired => ["labelSelector", "matchExpressions"]
  | .podPreferred => ["podAffinityTerm", "labelSelector", "matchExpressions"]
  | .antiRequired => ["labelSelector", "matchExpressions"]
  | .antiPreferred => ["podAffinityTerm", "labelSelector", "matchExpressions"]

/-- The texts that a form has for the values of the rows. -/
def texts (s : Scheduling) : RowPlace → List String
  | .nodeRequired => s.nodeRequired.map (·.values)
  | .nodePreferred => s.nodePreferred.map (·.values)
  | .podRequired => s.podRequired.map (·.labelValues)
  | .podPreferred => s.podPreferred.map (·.labelValues)
  | .antiRequired => s.antiRequired.map (·.labelValues)
  | .antiPreferred => s.antiPreferred.map (·.labelValues)

/-- The conditions of all terms in a pod specification. -/
def writtenIn (pod : Yaml) (place : RowPlace) : List Yaml :=
  (pod.itemsIn ("affinity" :: place.terms)).flatMap (·.itemsIn place.conditions)

/-- Whether a condition compares with a known operator. -/
def isComparison (condition : Yaml) : Bool :=
  (condition.fieldWord? "operator" : Option SelectorOperator).isSome

/-- The conditions of scheduling rules that are read: all of the first term that a node is required
to meet, and the first one of every other term, if they have a known operator. -/
def readOf (affinity : Yaml) (place : RowPlace) : List Yaml :=
  let terms := affinity.fieldItemsIn place.terms
  let conditions (term : Yaml) := term.fieldItemsIn place.conditions
  let read := match place with
    | .nodeRequired => (terms.take 1).flatMap conditions
    | _ => terms.flatMap fun term => (conditions term).take 1
  read.filter isComparison

/-- The conditions of the pod specification of a manifest that are read. -/
def readIn (pod : Yaml) (place : RowPlace) : List Yaml :=
  ((Schema.affinity.at? pod "affinity").map place.readOf).getD []

end RowPlace

/-! ## Writing rows -/

namespace Scheduling

/-- Scheduling rules with no row. -/
theorem eq_empty_of_isEmpty {s : Scheduling} (h : s.isEmpty = true) : s = {} := by
  cases s
  simp_all [isEmpty]

/-- The rules about one thing in the object of scheduling rules. -/
theorem bind_toYaml?_get? (o : Option Scheduling) (key : String) :
    (o.bind toYaml?).bind (·.get? key) = (o.getD {}).object.get? key := by
  cases o with
  | none => rfl
  | some s =>
    have written : s.toYaml? = if s.isEmpty then none else some s.object := rfl
    cases h : s.isEmpty with
    | false => simp [written, h]
    | true =>
      obtain rfl := eq_empty_of_isEmpty h
      rfl

/-- The terms that rules prefer. -/
theorem bind_rules_get?_preferred (preferred required : Option Yaml) :
    (rules preferred required).bind (·.get? preferredKey) = preferred := by
  simp only [rules]
  split
  · next nothing => simp_all
  · simp [preferredKey, requiredKey]

/-- The terms that rules require. -/
theorem bind_rules_get?_required (preferred required : Option Yaml) :
    (rules preferred required).bind (·.get? requiredKey) = required := by
  simp only [rules]
  split
  · next nothing => simp_all
  · simp [preferredKey, requiredKey]

end Scheduling

namespace RowPlace

/-- The terms that are written for rows. -/
def termsOf (s : Scheduling) : RowPlace → List Yaml
  | .nodeRequired =>
    if s.nodeRequired.isEmpty then []
    else [Form.conditions (s.nodeRequired.map NodeRow.condition)]
  | .nodePreferred => s.nodePreferred.map WeightedNodeRow.term
  | .podRequired => s.podRequired.map PodRow.term
  | .podPreferred => s.podPreferred.map WeightedPodRow.term
  | .antiRequired => s.antiRequired.map PodRow.term
  | .antiPreferred => s.antiPreferred.map WeightedPodRow.term

/-- The terms of rows stand where they belong. -/
theorem itemsIn_terms {pod : Yaml} {o : Option Scheduling}
    (written : pod.get? "affinity" = o.bind Scheduling.toYaml?) (place : RowPlace) :
    pod.itemsIn ("affinity" :: place.terms) = place.termsOf (o.getD {}) := by
  have rulesAt (key : String) (path : List String) :
      pod.at? ("affinity" :: key :: path) = ((o.getD {}).object.get? key).bind (·.at? path) := by
    rw [← Scheduling.bind_toYaml?_get?, ← written, Option.bind_assoc]
    rfl
  generalize o.getD {} = s at rulesAt ⊢
  have node : s.object.get? "nodeAffinity" = s.nodeRules := by simp [Scheduling.object]
  have pods : s.object.get? "podAffinity" =
      Scheduling.podRules s.podPreferred s.podRequired := by simp [Scheduling.object]
  have anti : s.object.get? "podAntiAffinity" =
      Scheduling.podRules s.antiPreferred s.antiRequired := by simp [Scheduling.object]
  cases place with
  | nodeRequired =>
    rw [itemsIn, terms, rulesAt, node, Scheduling.nodeRules]
    simp only [at?, Option.bind_fun_some, ← Option.bind_assoc, Scheduling.bind_rules_get?_required]
    cases rows : s.nodeRequired <;> simp [termsOf, rows, Form.conditions, dict_eq_object]
  | _ =>
    rw [itemsIn, terms, rulesAt]
    simp only [termsOf, node, pods, anti, Scheduling.nodeRules, Scheduling.podRules, at?,
      Option.bind_fun_some, Scheduling.bind_rules_get?_preferred,
      Scheduling.bind_rules_get?_required, ofItems_items?]

/-- The conditions of the terms of rows have the parts of their texts as values. -/
theorem map_conditions_termsOf (s : Scheduling) (place : RowPlace) :
    ((place.termsOf s).flatMap (·.itemsIn place.conditions)).map (·.get? "values") =
      (place.texts s).map fun text => ofTexts (Text.commas text) := by
  cases place with
  | nodeRequired =>
    by_cases none : s.nodeRequired = [] <;>
      simp [termsOf, texts, none, conditions, itemsIn, at?, Form.conditions, dict_eq_object,
        NodeRow.condition, condition, Function.comp_def]
  | _ =>
    simp [termsOf, texts, conditions, itemsIn, at?, WeightedNodeRow.term, PodRow.term,
      WeightedPodRow.term, podTerm, Form.conditions, condition, dict_eq_object, List.flatMap_map,
      Function.comp_def, ← List.map_eq_flatMap]

/-- Every row is written as one condition, with the parts of its text as the values. -/
theorem map_writtenIn {pod : Yaml} {o : Option Scheduling}
    (written : pod.get? "affinity" = o.bind Scheduling.toYaml?) (place : RowPlace) :
    (place.writtenIn pod).map (·.get? "values") =
      (place.texts (o.getD {})).map fun text => ofTexts (Text.commas text) := by
  rw [writtenIn, itemsIn_terms written, map_conditions_termsOf]

end RowPlace

/-! ## Reading rows of manifests -/

/-- The first of the items at the end of a path. -/
theorem head?_fieldItemsIn_cons (y : Yaml) (key : String) (path : List String) :
    (y.fieldItemsIn (key :: path)).head? =
      (y.field? key).bind fun v => (v.fieldItemsIn path).head? := by
  rw [fieldItemsIn, fieldIn?]
  cases y.field? key <;> rfl

namespace Scheduling

/-- The first condition of a term in a field. -/
theorem bind_firstCondition? (y : Yaml) (key : String) :
    (y.field? key).bind firstCondition? = (y.fieldItemsIn [key, "matchExpressions"]).head? := by
  rw [head?_fieldItemsIn_cons]
  congr 1
  funext term
  simp [firstCondition?, fieldItems, fieldItemsIn, fieldIn?]

/-- The text of a condition with a known operator. -/
def comparedText? (condition : Yaml) : Option String :=
  if RowPlace.isComparison condition then some (valuesOf condition) else none

/-- A row of a condition with a known operator has the text of the condition. -/
theorem map_operator (condition : Yaml) (row : SelectorOperator → α) (text : α → String)
    (values : ∀ op, text (row op) = valuesOf condition) :
    ((condition.fieldWord? "operator").bind fun op => some (row op)).map text =
      comparedText? condition := by
  rw [comparedText?, RowPlace.isComparison]
  cases (condition.fieldWord? "operator" : Option SelectorOperator) with
  | none => rfl
  | some op => exact congrArg some (values op)

/-- `map_operator` for a condition that is looked up first. -/
theorem map_bind_operator (found : Option Yaml) (row : Yaml → SelectorOperator → α)
    (text : α → String) (values : ∀ condition op, text (row condition op) = valuesOf condition) :
    (found.bind fun condition =>
      (condition.fieldWord? "operator").bind fun op => some (row condition op)).map text =
        found.bind comparedText? := by
  cases found with
  | none => rfl
  | some condition => exact map_operator condition _ _ (values condition)

theorem map_nodeRow? (condition : Yaml) :
    (nodeRow? condition).map (·.values) = comparedText? condition :=
  map_operator condition _ _ fun _ => rfl

theorem map_weightedNodeRow? (term : Yaml) :
    (weightedNodeRow? term).map (·.values) =
      (term.fieldItemsIn ["preference", "matchExpressions"]).head?.bind comparedText? := by
  rw [← bind_firstCondition?]
  exact map_bind_operator _ _ _ fun _ _ => rfl

theorem map_podRow? (term : Yaml) :
    (podRow? term).map (·.labelValues) =
      (term.fieldItemsIn ["labelSelector", "matchExpressions"]).head?.bind comparedText? := by
  rw [← bind_firstCondition?]
  exact map_bind_operator _ _ _ fun _ _ => rfl

theorem map_weightedPodRow? (term : Yaml) :
    (weightedPodRow? term).map (·.labelValues) =
      (term.fieldItemsIn ["podAffinityTerm", "labelSelector", "matchExpressions"]).head?.bind
        comparedText? := by
  rw [head?_fieldItemsIn_cons, Option.bind_assoc]
  simp only [← map_podRow?]
  rw [weightedPodRow?]
  cases term.field? "podAffinityTerm" with
  | none => rfl
  | some v => cases found : podRow? v <;> simp [found]

/-- The texts of the first conditions of terms. -/
theorem map_filterMap_first {path : List String} {row? : Yaml → Option α} {text : α → String}
    (reads : ∀ term, (row? term).map text = (term.fieldItemsIn path).head?.bind comparedText?)
    (terms : List Yaml) :
    (terms.filterMap row?).map text =
      (terms.flatMap fun term => (term.fieldItemsIn path).take 1).filterMap comparedText? := by
  have one (l : List Yaml) : (l.take 1).filterMap comparedText? =
      (l.head?.bind comparedText?).toList := by
    cases l with
    | nil => rfl
    | cons c l => cases read : comparedText? c <;> simp [read]
  simp only [List.map_filterMap, reads, List.filterMap_flatMap, one]
  exact List.filterMap_eq_flatMap_toList ..

/-- The rows of rules that prefer are read of their terms. -/
theorem preferredRows_field? (affinity : Yaml) (key : String) (row? : Yaml → Option α) :
    preferredRows row? (affinity.field? key) =
      (affinity.fieldItemsIn [key, preferredKey]).filterMap row? := by
  cases found : affinity.field? key <;>
    simp [preferredRows, fieldItemsIn, fieldIn?, fieldItems, found]

/-- The rows of rules about pods that require are read of their terms. -/
theorem requiredPodRows_field? (affinity : Yaml) (key : String) :
    requiredPodRows (affinity.field? key) =
      (affinity.fieldItemsIn [key, requiredKey]).filterMap podRow? := by
  cases found : affinity.field? key <;>
    simp [requiredPodRows, fieldItemsIn, fieldIn?, fieldItems, found]

/-- The rows of rules about nodes that require are read of their first term. -/
theorem requiredNodeRows_field? (affinity : Yaml) (key : String) :
    requiredNodeRows (affinity.field? key) =
      (((affinity.fieldItemsIn [key, requiredKey, "nodeSelectorTerms"]).take 1).flatMap
        (·.fieldItemsIn ["matchExpressions"])).filterMap nodeRow? := by
  have terms : ((affinity.field? key).bind (·.field? requiredKey)).bind
      (fun y => (y.fieldItems "nodeSelectorTerms").head?) =
        (affinity.fieldItemsIn [key, requiredKey, "nodeSelectorTerms"]).head? := by
    rw [head?_fieldItemsIn_cons, Option.bind_assoc]
    congr 1
    funext y
    rw [head?_fieldItemsIn_cons]
    congr 1
    funext z
    simp [fieldItems, fieldItemsIn, fieldIn?]
  rw [requiredNodeRows, terms]
  cases affinity.fieldItemsIn [key, requiredKey, "nodeSelectorTerms"] with
  | nil => rfl
  | cons term terms => simp [fieldItems, fieldItemsIn, fieldIn?]

end Scheduling

namespace RowPlace

/-- The conditions that are read have the texts of their rows. -/
theorem texts_ofObject (affinity : Yaml) (place : RowPlace) :
    place.texts (Scheduling.ofObject affinity) =
      (place.readOf affinity).map Scheduling.valuesOf := by
  have compared (cs : List Yaml) :
      cs.filterMap Scheduling.comparedText? =
        (cs.filter isComparison).map Scheduling.valuesOf := by
    rw [← List.filterMap_eq_map, List.filterMap_filter]
    rfl
  have first {α : Type} {rows : List α} {row? : Yaml → Option α} {text : α → String}
      {terms path : List String}
      (read : rows = (affinity.fieldItemsIn terms).filterMap row?)
      (reads : ∀ term, (row? term).map text =
        (term.fieldItemsIn path).head?.bind Scheduling.comparedText?) :
      rows.map text = (((affinity.fieldItemsIn terms).flatMap fun term =>
        (term.fieldItemsIn path).take 1).filter isComparison).map Scheduling.valuesOf := by
    rw [read, Scheduling.map_filterMap_first reads, compared]
  cases place with
  | nodeRequired =>
    refine .trans ?_ (compared _)
    change ((Scheduling.requiredNodeRows _).map _) = _
    rw [Scheduling.requiredNodeRows_field?, List.map_filterMap]
    simp only [Scheduling.map_nodeRow?]
    rfl
  | nodePreferred =>
    exact first (Scheduling.preferredRows_field? ..) Scheduling.map_weightedNodeRow?
  | podRequired => exact first (Scheduling.requiredPodRows_field? ..) Scheduling.map_podRow?
  | podPreferred =>
    exact first (Scheduling.preferredRows_field? ..) Scheduling.map_weightedPodRow?
  | antiRequired => exact first (Scheduling.requiredPodRows_field? ..) Scheduling.map_podRow?
  | antiPreferred =>
    exact first (Scheduling.preferredRows_field? ..) Scheduling.map_weightedPodRow?

/-- `texts_ofObject` for the scheduling rules of a pod specification. -/
theorem texts_of? (pod : Yaml) (place : RowPlace) :
    place.texts ((Scheduling.of? pod).getD {}) =
      (place.readIn pod).map Scheduling.valuesOf := by
  rw [Scheduling.of?, readIn]
  cases Schema.affinity.at? pod "affinity" with
  | none => cases place <;> rfl
  | some affinity =>
    rw [Option.bind_eq_bind, Option.bind_some, Option.map_some, Option.getD_some,
      ← texts_ofObject]
    cases h : (Scheduling.ofObject affinity).isEmpty with
    | false => simp [h]
    | true =>
      rw [Scheduling.eq_empty_of_isEmpty h]
      rfl

/-! ## Reading rows of JSON -/

/-- The name of the list of rows. -/
def listName : RowPlace → String
  | .nodeRequired => "nodeAffinityRequired"
  | .nodePreferred => "nodeAffinityPreferred"
  | .podRequired => "podAffinityRequired"
  | .podPreferred => "podAffinityPreferred"
  | .antiRequired => "podAntiAffinityRequired"
  | .antiPreferred => "podAntiAffinityPreferred"

/-- The values that JSON of a row has. -/
def values? (row : Json.Document) : RowPlace → Option Json.Document
  | .nodeRequired => row.field? NodeRow.fields "values"
  | .nodePreferred => row.field? WeightedNodeRow.fields "values"
  | .podRequired => row.field? PodRow.fields "labelValues"
  | .podPreferred => row.field? WeightedPodRow.fields "labelValues"
  | .antiRequired => row.field? PodRow.fields "labelValues"
  | .antiPreferred => row.field? WeightedPodRow.fields "labelValues"

/-- A text is the joined list that JSON has for it, if it has one. -/
def Joins (given : Option Json.Document) (text : String) : Prop :=
  ∀ ts, given = some (.ofTexts ts) → text = Text.joined ',' ts

end RowPlace

section Fields

open WorkloadForms.Field (IsFieldOf)

/-- A column of the rows that JSON has holds the joined lists. -/
theorem joins_of_reads {R S : Type} {fields : List (Field R)} {start r : R} {name column : String}
    {columns : List (Field S)} {empty : S} {rows : R → List S} {text : S → String}
    {d : Json.Document} {ds : List Json.Document} (h : (Codec.record fields start).Reads d r)
    (list : IsFieldOf fields name (Codec.record columns empty).list rows)
    (values : IsFieldOf columns column (.separated ',') text)
    {closed : Bool} (given : d.field? fields name = some (.list ds closed)) :
    List.Forall₂ (fun row => RowPlace.Joins (row.field? columns column)) ds
      ((rows r).map text) := by
  rw [List.forall₂_map_right_iff]
  exact (h.field list given).items.imp fun row s read ts given =>
    (read.field values given).separated

theorem NodeRow.isFieldOf_values :
    IsFieldOf NodeRow.fields "values" (.separated ',') NodeRow.values := by
  constructor <;> simp [fields]

theorem WeightedNodeRow.isFieldOf_values :
    IsFieldOf WeightedNodeRow.fields "values" (.separated ',') WeightedNodeRow.values := by
  constructor <;> simp [fields]

theorem PodRow.isFieldOf_labelValues :
    IsFieldOf PodRow.fields "labelValues" (.separated ',') PodRow.labelValues := by
  constructor <;> simp [fields]

theorem WeightedPodRow.isFieldOf_labelValues :
    IsFieldOf WeightedPodRow.fields "labelValues" (.separated ',')
      WeightedPodRow.labelValues := by
  constructor <;> simp [fields]

theorem Scheduling.isFieldOf_nodeRequired :
    IsFieldOf fields "nodeAffinityRequired" NodeRow.codec.list nodeRequired := by
  constructor <;> simp [fields]

theorem Scheduling.isFieldOf_nodePreferred :
    IsFieldOf fields "nodeAffinityPreferred" WeightedNodeRow.codec.list nodePreferred := by
  constructor <;> simp [fields]

theorem Scheduling.isFieldOf_podRequired :
    IsFieldOf fields "podAffinityRequired" PodRow.codec.list podRequired := by
  constructor <;> simp [fields]

theorem Scheduling.isFieldOf_podPreferred :
    IsFieldOf fields "podAffinityPreferred" WeightedPodRow.codec.list podPreferred := by
  constructor <;> simp [fields]

theorem Scheduling.isFieldOf_antiRequired :
    IsFieldOf fields "podAntiAffinityRequired" PodRow.codec.list antiRequired := by
  constructor <;> simp [fields]

theorem Scheduling.isFieldOf_antiPreferred :
    IsFieldOf fields "podAntiAffinityPreferred" WeightedPodRow.codec.list antiPreferred := by
  constructor <;> simp [fields]

/-- The rows that JSON has hold the joined lists. -/
theorem RowPlace.texts_of_reads {d : Json.Document} {s : Scheduling} {place : RowPlace}
    {rows : List Json.Document} {closed : Bool}
    (h : Scheduling.codec.Reads d s)
    (given : d.field? Scheduling.fields place.listName = some (.list rows closed)) :
    List.Forall₂ (fun row => Joins (place.values? row)) rows (place.texts s) := by
  cases place with
  | nodeRequired =>
    exact joins_of_reads h Scheduling.isFieldOf_nodeRequired NodeRow.isFieldOf_values given
  | nodePreferred =>
    exact joins_of_reads h Scheduling.isFieldOf_nodePreferred WeightedNodeRow.isFieldOf_values
      given
  | podRequired =>
    exact joins_of_reads h Scheduling.isFieldOf_podRequired PodRow.isFieldOf_labelValues given
  | podPreferred =>
    exact joins_of_reads h Scheduling.isFieldOf_podPreferred
      WeightedPodRow.isFieldOf_labelValues given
  | antiRequired =>
    exact joins_of_reads h Scheduling.isFieldOf_antiRequired PodRow.isFieldOf_labelValues given
  | antiPreferred =>
    exact joins_of_reads h Scheduling.isFieldOf_antiPreferred
      WeightedPodRow.isFieldOf_labelValues given

end Fields

end Form

end WorkloadForms
