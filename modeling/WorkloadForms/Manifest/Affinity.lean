import WorkloadForms.Form.Scheduling
import WorkloadForms.Manifest.Entry
import WorkloadForms.Schema.Pod

/-!
# Scheduling rules in a manifest

Rows become terms: the rows that a node is required to meet are the conditions of one term, every
other row is a term of its own. Read back are the conditions of the first required term and the
first condition of every other term; a condition with an unknown operator is dropped.
-/

namespace WorkloadForms.Form

open Schema (preferredKey requiredKey)

/-- A condition. -/
def condition (key : String) (operator : SelectorOperator) (values : String) : Yaml :=
  .object
    [("key", some (.text key)), ("operator", some (Yaml.ofWord operator)),
     ("values", Yaml.ofTexts (Text.commas values))]

/-- A term with these conditions. -/
def conditions (items : List Yaml) : Yaml := .dict [("matchExpressions", .seq items)]

/-- A term about pods. -/
def podTerm (topologyKey labelKey : String) (operator : SelectorOperator) (values : String) :
    Yaml :=
  .dict
    [("labelSelector", conditions [condition labelKey operator values]),
     ("topologyKey", .text topologyKey)]

/-- The term of a condition on pods. -/
def PodRow.term (r : PodRow) : Yaml := podTerm r.topologyKey r.labelKey r.operator r.labelValues

/-- The weighted term of a preference for pods. -/
def WeightedPodRow.term (r : WeightedPodRow) : Yaml :=
  .dict
    [("podAffinityTerm", podTerm r.topologyKey r.labelKey r.operator r.labelValues),
     ("weight", Yaml.ofInt32 r.weight)]

/-- The condition of a row about nodes. -/
def NodeRow.condition (r : NodeRow) : Yaml := Form.condition r.key r.operator r.values

/-- The weighted term of a preference for nodes. -/
def WeightedNodeRow.term (r : WeightedNodeRow) : Yaml :=
  .dict
    [("preference", conditions [Form.condition r.key r.operator r.values]),
     ("weight", Yaml.ofInt32 r.weight)]

/-- Rules that prefer and rules that require, unless there are none. -/
def rules (preferred required : Option Yaml) : Option Yaml :=
  if preferred.isNone && required.isNone then none
  else some (.object [(preferredKey, preferred), (requiredKey, required)])

namespace Scheduling

/-- The rules about nodes. -/
def nodeRules (s : Scheduling) : Option Yaml :=
  rules (Yaml.ofItems (s.nodePreferred.map WeightedNodeRow.term))
    ((Yaml.ofItems (s.nodeRequired.map NodeRow.condition)).map fun items =>
      .dict [("nodeSelectorTerms", .seq [.dict [("matchExpressions", items)]])])

/-- The rules about pods. -/
def podRules (preferred : List WeightedPodRow) (required : List PodRow) : Option Yaml :=
  rules (Yaml.ofItems (preferred.map WeightedPodRow.term))
    (Yaml.ofItems (required.map PodRow.term))

/-- What is written for scheduling rules. -/
def toYaml? (s : Scheduling) : Option Yaml :=
  if s.isEmpty then none
  else some <| .object
    [("nodeAffinity", s.nodeRules), ("podAffinity", podRules s.podPreferred s.podRequired),
     ("podAntiAffinity", podRules s.antiPreferred s.antiRequired)]

/-- The values of a condition. -/
def valuesOf (requirement : Yaml) : String := Text.joined ',' (requirement.fieldTexts "values")

/-- The first condition of a term. -/
def firstCondition? (term : Yaml) : Option Yaml := (term.fieldItems "matchExpressions").head?

/-- The row of a condition on nodes. -/
def nodeRow? (requirement : Yaml) : Option NodeRow := do
  return {
    key := requirement.fieldText "key"
    operator := ← requirement.fieldWord? "operator"
    values := valuesOf requirement }

/-- The row of a preference for nodes. -/
def weightedNodeRow? (term : Yaml) : Option WeightedNodeRow := do
  let requirement ← (term.field? "preference").bind firstCondition?
  return {
    weight := term.fieldInt32 "weight"
    key := requirement.fieldText "key"
    operator := ← requirement.fieldWord? "operator"
    values := valuesOf requirement }

/-- The row of a condition on pods. -/
def podRow? (term : Yaml) : Option PodRow := do
  let requirement ← (term.field? "labelSelector").bind firstCondition?
  return {
    topologyKey := term.fieldText "topologyKey"
    labelKey := requirement.fieldText "key"
    operator := ← requirement.fieldWord? "operator"
    labelValues := valuesOf requirement }

/-- The row of a preference for pods. -/
def weightedPodRow? (weighted : Yaml) : Option WeightedPodRow := do
  let row ← (weighted.field? "podAffinityTerm").bind podRow?
  return {
    weight := weighted.fieldInt32 "weight"
    topologyKey := row.topologyKey
    labelKey := row.labelKey
    operator := row.operator
    labelValues := row.labelValues }

/-- The rows of the rules about one thing that prefer, as far as they can be read. -/
def preferredRows (row? : Yaml → Option α) (rules : Option Yaml) : List α :=
  match rules with
  | some y => (y.fieldItems preferredKey).filterMap row?
  | none => []

/-- The rows of the rules about pods that require. -/
def requiredPodRows (rules : Option Yaml) : List PodRow :=
  match rules with
  | some y => (y.fieldItems requiredKey).filterMap podRow?
  | none => []

/-- The rows of the first term that a node is required to meet. -/
def requiredNodeRows (rules : Option Yaml) : List NodeRow :=
  match (rules.bind (·.field? requiredKey)).bind fun y => (y.fieldItems "nodeSelectorTerms").head?
  with
  | some term => (term.fieldItems "matchExpressions").filterMap nodeRow?
  | none => []

/-- The rows of scheduling rules. -/
def ofObject (affinity : Yaml) : Scheduling where
  nodeRequired := requiredNodeRows (affinity.field? "nodeAffinity")
  nodePreferred := preferredRows weightedNodeRow? (affinity.field? "nodeAffinity")
  podRequired := requiredPodRows (affinity.field? "podAffinity")
  podPreferred := preferredRows weightedPodRow? (affinity.field? "podAffinity")
  antiRequired := requiredPodRows (affinity.field? "podAntiAffinity")
  antiPreferred := preferredRows weightedPodRow? (affinity.field? "podAntiAffinity")

/-- The scheduling rules of a pod specification, unless there is no row. -/
def of? (pod : Yaml) : Option Scheduling := do
  let s := ofObject (← Schema.affinity.at? pod "affinity")
  if s.isEmpty then none else return s

end Scheduling

end WorkloadForms.Form
