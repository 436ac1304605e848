import WorkloadForms.Manifest.Affinity
import WorkloadForms.Proofs.Object
import WorkloadForms.Proofs.Text.Token

/-!
# The normal form of scheduling rules

What becomes of scheduling rules that are written to a manifest and read back: every row comes back
with its values trimmed and without blank ones (`Scheduling.normal`), and rules without a row do
not come back. `Scheduling.of?_eq` says that this is what is read, and
`Scheduling.bind_normal?_toYaml?` that it is written like the rules themselves.
-/

namespace WorkloadForms.Form

open Yaml
open Schema (preferredKey requiredKey)

/-! ## Rows -/

/-- The values of a condition as they come back from a manifest. -/
def valuesNormal (values : String) : String := Text.joined ',' (Text.commas values)

@[simp] theorem commas_valuesNormal (values : String) :
    Text.commas (valuesNormal values) = Text.commas values :=
  Text.commas_joined_commas values

@[simp] theorem valuesNormal_valuesNormal (values : String) :
    valuesNormal (valuesNormal values) = valuesNormal values := by
  rw [valuesNormal, commas_valuesNormal, valuesNormal]

/-- A row about nodes as it comes back from a manifest. -/
def NodeRow.normal (r : NodeRow) : NodeRow := { r with values := valuesNormal r.values }

/-- A preference for nodes as it comes back from a manifest. -/
def WeightedNodeRow.normal (r : WeightedNodeRow) : WeightedNodeRow :=
  { r with values := valuesNormal r.values }

/-- A row about pods as it comes back from a manifest. -/
def PodRow.normal (r : PodRow) : PodRow := { r with labelValues := valuesNormal r.labelValues }

/-- A preference for pods as it comes back from a manifest. -/
def WeightedPodRow.normal (r : WeightedPodRow) : WeightedPodRow :=
  { r with labelValues := valuesNormal r.labelValues }

/-! ## Terms -/

section Terms

variable (key : String) (operator : SelectorOperator) (values : String)

/-- A condition does not change with its values in normal form. -/
@[simp] theorem condition_valuesNormal :
    condition key operator (valuesNormal values) = condition key operator values := by
  simp [condition]

@[simp] theorem podTerm_valuesNormal (topologyKey : String) :
    podTerm topologyKey key operator (valuesNormal values) =
      podTerm topologyKey key operator values := by
  simp [podTerm]

@[simp] theorem NodeRow.condition_normal (r : NodeRow) : r.normal.condition = r.condition := by
  simp [condition, normal]

@[simp] theorem WeightedNodeRow.term_normal (r : WeightedNodeRow) : r.normal.term = r.term := by
  simp [term, normal]

@[simp] theorem PodRow.term_normal (r : PodRow) : r.normal.term = r.term := by
  simp [term, normal]

@[simp] theorem WeightedPodRow.term_normal (r : WeightedPodRow) : r.normal.term = r.term := by
  simp [term, normal]

theorem accepts_condition :
    Schema.labelRequirement.accepts (condition key operator values) = true := by
  simp [Schema.labelRequirement, condition]

theorem accepts_podTerm (topologyKey : String) :
    Schema.podTerm.accepts (podTerm topologyKey key operator values) = true := by
  simp [Schema.podTerm, podTerm, Schema.labelSelector, conditions, dict_eq_object,
    accepts_condition]

@[simp] theorem isNull_conditions (items : List Yaml) : (conditions items).isNull = false := rfl

@[simp] theorem isNull_podTerm (topologyKey : String) :
    (podTerm topologyKey key operator values).isNull = false := rfl

@[simp] theorem firstCondition?_conditions (c : Yaml) (cs : List Yaml) :
    Scheduling.firstCondition? (conditions (c :: cs)) = some c := by
  simp [Scheduling.firstCondition?, conditions, dict_eq_object]

end Terms

namespace Scheduling

/-- A row about nodes is read as its normal form. -/
theorem nodeRow?_condition (r : NodeRow) : nodeRow? r.condition = some r.normal := by
  simp [nodeRow?, NodeRow.condition, NodeRow.normal, condition, fieldText, fieldWord?, valuesOf,
    fieldTexts, valuesNormal]

/-- A preference for nodes is read as its normal form. -/
theorem weightedNodeRow?_term (r : WeightedNodeRow) : weightedNodeRow? r.term = some r.normal := by
  simp [weightedNodeRow?, WeightedNodeRow.term, WeightedNodeRow.normal, dict_eq_object, field?_eq,
    condition, fieldText, fieldInt32, fieldWord?, valuesOf, fieldTexts, valuesNormal,
    Option.filter_some]

theorem podRow?_podTerm (topologyKey key : String) (operator : SelectorOperator)
    (values : String) :
    podRow? (podTerm topologyKey key operator values) =
      some ⟨topologyKey, key, operator, valuesNormal values⟩ := by
  simp [podRow?, podTerm, dict_eq_object, field?_eq, condition, fieldText, fieldWord?, valuesOf,
    fieldTexts, valuesNormal, Option.filter_some]

/-- A row about pods is read as its normal form. -/
theorem podRow?_term (r : PodRow) : podRow? r.term = some r.normal :=
  podRow?_podTerm ..

/-- A preference for pods is read as its normal form. -/
theorem weightedPodRow?_term (r : WeightedPodRow) : weightedPodRow? r.term = some r.normal := by
  simp [weightedPodRow?, WeightedPodRow.term, WeightedPodRow.normal, dict_eq_object, field?_eq,
    podRow?_podTerm, fieldInt32, Option.filter_some]

/-! ## Rules -/

section Rules

variable (preferred required : Option Yaml)

@[simp] theorem filter_isNull_rules :
    (rules preferred required).filter (!·.isNull) = rules preferred required := by
  rw [rules]
  split <;> rfl

/-- The rules that prefer, as they were written. -/
theorem preferredRows_rules (row? : Yaml → Option α) :
    preferredRows row? (rules preferred required) =
      ((preferred.bind items?).getD []).filterMap row? := by
  simp only [rules]
  split
  · next nothing => simp_all [preferredRows]
  · simp [preferredRows, preferredKey, requiredKey]

/-- The rules that require, as they were written. -/
theorem bind_rules_required {f : Yaml → Option α} (hf : f .null = none) :
    ((rules preferred required).bind (·.field? requiredKey)).bind f = required.bind f := by
  simp only [rules]
  split
  · next nothing => simp_all
  · simp [preferredKey, requiredKey, field?_bind hf]

/-- The rows of the rules about pods that require, as they were written. -/
theorem requiredPodRows_rules :
    requiredPodRows (rules preferred required) =
      ((required.bind items?).getD []).filterMap podRow? := by
  simp only [rules]
  split
  · next nothing => simp_all [requiredPodRows]
  · simp [requiredPodRows, preferredKey, requiredKey]

end Rules

@[simp] theorem filter_isNull_nodeRules (s : Scheduling) :
    s.nodeRules.filter (!·.isNull) = s.nodeRules :=
  filter_isNull_rules ..

@[simp] theorem filter_isNull_podRules (preferred : List WeightedPodRow) (required : List PodRow) :
    (podRules preferred required).filter (!·.isNull) = podRules preferred required :=
  filter_isNull_rules ..

/-- What comes back of the rules about pods that prefer. -/
theorem preferredRows_podRules (preferred : List WeightedPodRow) (required : List PodRow) :
    preferredRows weightedPodRow? (podRules preferred required) =
      preferred.map WeightedPodRow.normal := by
  rw [podRules, preferredRows_rules, ofItems_items?, filterMap_written weightedPodRow?_term]

/-- What comes back of the rules about pods that require. -/
theorem requiredPodRows_podRules (preferred : List WeightedPodRow) (required : List PodRow) :
    requiredPodRows (podRules preferred required) = required.map PodRow.normal := by
  rw [podRules, requiredPodRows_rules, ofItems_items?, filterMap_written podRow?_term]

/-- What comes back of the rules about nodes that prefer. -/
theorem preferredRows_nodeRules (s : Scheduling) :
    preferredRows weightedNodeRow? s.nodeRules = s.nodePreferred.map WeightedNodeRow.normal := by
  rw [nodeRules, preferredRows_rules, ofItems_items?, filterMap_written weightedNodeRow?_term]

/-- What comes back of the rules about nodes that require. -/
theorem requiredNodeRows_nodeRules (s : Scheduling) :
    requiredNodeRows s.nodeRules = s.nodeRequired.map NodeRow.normal := by
  rw [requiredNodeRows, nodeRules, bind_rules_required _ _ (by rfl)]
  cases s.nodeRequired with
  | nil => rfl
  | cons r rows =>
    rw [← filterMap_written nodeRow?_condition]
    simp [ofItems, dict_eq_object]

/-! ## Scheduling rules -/

/-- Scheduling rules with every row in normal form. -/
def normal (s : Scheduling) : Scheduling where
  nodeRequired := s.nodeRequired.map NodeRow.normal
  nodePreferred := s.nodePreferred.map WeightedNodeRow.normal
  podRequired := s.podRequired.map PodRow.normal
  podPreferred := s.podPreferred.map WeightedPodRow.normal
  antiRequired := s.antiRequired.map PodRow.normal
  antiPreferred := s.antiPreferred.map WeightedPodRow.normal

/-- Scheduling rules as they come back from a manifest, unless there is no row. -/
def normal? (s : Scheduling) : Option Scheduling := if s.isEmpty then none else some s.normal

@[simp] theorem isEmpty_normal (s : Scheduling) : s.normal.isEmpty = s.isEmpty := by
  simp [isEmpty, normal]

/-- What is written for scheduling rules with a row. -/
def object (s : Scheduling) : Yaml :=
  .object
    [("nodeAffinity", s.nodeRules), ("podAffinity", podRules s.podPreferred s.podRequired),
     ("podAntiAffinity", podRules s.antiPreferred s.antiRequired)]

/-- Scheduling rules and their normal form are written alike. -/
@[simp] theorem object_normal (s : Scheduling) : s.normal.object = s.object := by
  simp [object, normal, nodeRules, podRules, Function.comp_def]

theorem admits_nodeRules (s : Scheduling) : Schema.nodeAffinity.admits s.nodeRules = true := by
  simp only [nodeRules, rules]
  split
  · rfl
  · cases s.nodeRequired <;>
      simp [Schema.nodeAffinity, preferredKey, requiredKey, WeightedNodeRow.term, Schema.nodeTerm,
        conditions, dict_eq_object, accepts_condition, NodeRow.condition]

theorem admits_podRules (preferred : List WeightedPodRow) (required : List PodRow) :
    Schema.podAffinity.admits (podRules preferred required) = true := by
  simp only [podRules, rules]
  split
  · rfl
  · simp [Schema.podAffinity, preferredKey, requiredKey, WeightedPodRow.term, PodRow.term,
      dict_eq_object, accepts_podTerm]

/-- The object of scheduling rules is one that their schema takes. -/
theorem accepts_object (s : Scheduling) : Schema.affinity.accepts s.object = true := by
  simp [Schema.affinity, object, admits_nodeRules, admits_podRules]

/-- What is read of the object of scheduling rules is their normal form. -/
theorem ofObject_object (s : Scheduling) : ofObject s.object = s.normal := by
  simp [ofObject, object, normal, field?_eq, preferredRows_podRules, requiredPodRows_podRules,
    preferredRows_nodeRules, requiredNodeRows_nodeRules]

/-- Scheduling rules are written as the object of their normal form. -/
theorem bind_toYaml?_eq (s : Option Scheduling) : s.bind toYaml? = (s.bind normal?).map object := by
  cases s with
  | none => rfl
  | some s =>
    have written : s.toYaml? = if s.isEmpty then none else some s.object := rfl
    cases h : s.isEmpty <;> simp [written, normal?, h]

@[simp] theorem normal_normal (s : Scheduling) : s.normal.normal = s.normal := by
  simp [normal, NodeRow.normal, WeightedNodeRow.normal, PodRow.normal, WeightedPodRow.normal]

@[simp] theorem bind_normal?_normal? (s : Option Scheduling) :
    (s.bind normal?).bind normal? = s.bind normal? := by
  cases s with
  | none => rfl
  | some s => cases h : s.isEmpty <;> simp [normal?, h]

/-- The scheduling rules of a pod specification where they were written. -/
theorem of?_eq {pod : Yaml} {s : Option Scheduling}
    (written : pod.get? "affinity" = s.bind toYaml?) : of? pod = s.bind normal? := by
  rw [bind_toYaml?_eq] at written
  rw [of?, Schema.at?_eq_map written (fun _ => rfl) accepts_object]
  cases s with
  | none => rfl
  | some s => cases h : s.isEmpty <;> simp [normal?, h, ofObject_object]

/-- Scheduling rules and their normal form are written alike. -/
theorem bind_normal?_toYaml? (s : Option Scheduling) :
    (s.bind normal?).bind toYaml? = s.bind toYaml? := by
  rw [bind_toYaml?_eq, bind_normal?_normal?, bind_toYaml?_eq]

end Scheduling

end WorkloadForms.Form
