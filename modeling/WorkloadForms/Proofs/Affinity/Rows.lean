import WorkloadForms.Proofs.Affinity.Object
import WorkloadForms.Proofs.Normal.Affinity

/-!
# Rows in an affinity object

What is written for the scheduling rules of a form is the affinity object of their rows
(`Scheduling.toYaml_affinity`). The rows that a node is required to meet are the conditions of one
term there, every other row is a term of its own (`Affinity.folds_affinity`). The rows come back
from it with their values in normal form: `Scheduling.rows_survive` says so of whole scheduling
rules.
-/

namespace WorkloadForms

open Form Yaml

/-! ## The object of rows -/

namespace Affinity

/-- A list, unless it is empty. -/
def listed (l : List α) : Option (List α) := if l.isEmpty then none else some l

/-- The condition of a row; without values it has no list of values. -/
def Requirement.ofRow (key : String) (operator : SelectorOperator) (values : String) :
    Requirement :=
  ⟨key, Vocabulary.word operator, listed (Text.commas values)⟩

/-- The term about nodes with these conditions. -/
def NodeTerm.ofConditions (rs : List Requirement) : NodeTerm := { matchExpressions := some rs }

/-- The term about pods with one condition on their labels. -/
def PodTerm.ofCondition (topologyKey : String) (r : Requirement) : PodTerm :=
  { labelSelector := some { matchExpressions := some [r] }, topologyKey }

/-- Rules that prefer and require these terms, unless there are none. -/
def Rules.of? (preferred : List (Weighted τ)) (required : List τ) : Option (Rules τ) :=
  if preferred.isEmpty && required.isEmpty then none
  else some ⟨listed preferred, listed required⟩

end Affinity

namespace Form

open Affinity

/-- The condition of a row about nodes. -/
def NodeRow.folded (r : NodeRow) : Requirement := .ofRow r.key r.operator r.values

/-- The term of a preference for nodes, which has one condition. -/
def WeightedNodeRow.folded (r : WeightedNodeRow) : Weighted NodeTerm :=
  ⟨r.weight, .ofConditions [.ofRow r.key r.operator r.values]⟩

/-- The term of a row about pods, which has one condition. -/
def PodRow.folded (r : PodRow) : PodTerm :=
  .ofCondition r.topologyKey (.ofRow r.labelKey r.operator r.labelValues)

/-- The term of a preference for pods, which has one condition. -/
def WeightedPodRow.folded (r : WeightedPodRow) : Weighted PodTerm :=
  ⟨r.weight, .ofCondition r.topologyKey (.ofRow r.labelKey r.operator r.labelValues)⟩

/-- The one term of all rows that a node is required to meet, unless there are none. -/
def NodeRow.terms (rows : List NodeRow) : List NodeTerm :=
  if rows.isEmpty then [] else [.ofConditions (rows.map folded)]

/-- The affinity object of scheduling rules. -/
def Scheduling.affinity (s : Scheduling) : Affinity where
  node := Rules.of? (s.nodePreferred.map WeightedNodeRow.folded) (NodeRow.terms s.nodeRequired)
  pod := Rules.of? (s.podPreferred.map WeightedPodRow.folded) (s.podRequired.map PodRow.folded)
  antiPod :=
    Rules.of? (s.antiPreferred.map WeightedPodRow.folded) (s.antiRequired.map PodRow.folded)

end Form

/-! ## The object of rows is what is written -/

namespace Affinity

theorem map_listed (f : α → Yaml) (l : List α) :
    (listed l).map (itemsYaml f) = ofItems (l.map f) := by
  cases l <;> rfl

theorem Requirement.toYaml_ofRow (key : String) (operator : SelectorOperator) (values : String) :
    (ofRow key operator values).toYaml = condition key operator values := by
  have written : (listed (Text.commas values)).map texts = ofTexts (Text.commas values) :=
    map_listed text _
  rw [toYaml, ofRow, written]
  rfl

theorem NodeTerm.toYaml_ofConditions (rs : List Requirement) :
    (ofConditions rs).toYaml = conditions (rs.map Requirement.toYaml) := rfl

theorem PodTerm.toYaml_ofCondition (topologyKey key : String) (operator : SelectorOperator)
    (values : String) :
    (ofCondition topologyKey (.ofRow key operator values)).toYaml =
      podTerm topologyKey key operator values := by
  rw [podTerm, ← Requirement.toYaml_ofRow]
  rfl

/-- Rules are written if there are any. -/
theorem Rules.map_of? {toYaml : Rules τ → Yaml} {preferred : List (Weighted τ)}
    {required : List τ} {p r : Option Yaml}
    (written : toYaml ⟨listed preferred, listed required⟩ =
      .object [(Schema.preferredKey, p), (Schema.requiredKey, r)])
    (hp : p = none ↔ preferred = []) (hr : r = none ↔ required = []) :
    (of? preferred required).map toYaml = rules p r := by
  by_cases h : preferred = [] ∧ required = []
  · obtain ⟨rfl, rfl⟩ := h
    simp [of?, rules, hp.2 rfl, hr.2 rfl]
  · have given : ¬(p = none ∧ r = none) := by rwa [hp, hr]
    rw [of?, if_neg (by simpa using h), rules, if_neg (by simpa using given), Option.map_some,
      written]

end Affinity

namespace Form

open Affinity

theorem NodeRow.toYaml_folded (r : NodeRow) : r.folded.toYaml = r.condition :=
  Requirement.toYaml_ofRow ..

/-- The one term of all rows that are required, in a node selector. -/
theorem NodeRow.map_terms (rows : List NodeRow) :
    ((listed (terms rows)).map fun ts =>
        dict [("nodeSelectorTerms", itemsYaml NodeTerm.toYaml ts)]) =
      (ofItems (rows.map condition)).map fun items =>
        dict [("nodeSelectorTerms", .seq [dict [("matchExpressions", items)]])] := by
  cases rows with
  | nil => rfl
  | cons r rows =>
    simp [terms, listed, itemsYaml, NodeTerm.toYaml_ofConditions, conditions, toYaml_folded,
      Function.comp_def]

theorem WeightedNodeRow.toYaml_folded (r : WeightedNodeRow) :
    Weighted.toYaml "preference" NodeTerm.toYaml r.folded = r.term := by
  rw [Weighted.toYaml, folded, NodeTerm.toYaml_ofConditions, List.map_singleton,
    Requirement.toYaml_ofRow]
  rfl

theorem PodRow.toYaml_folded (r : PodRow) : r.folded.toYaml = r.term :=
  PodTerm.toYaml_ofCondition ..

theorem WeightedPodRow.toYaml_folded (r : WeightedPodRow) :
    Weighted.toYaml "podAffinityTerm" PodTerm.toYaml r.folded = r.term := by
  rw [Weighted.toYaml, folded, PodTerm.toYaml_ofCondition]
  rfl

namespace Scheduling

/-- The rules about pods in the object of rows. -/
theorem map_podRulesYaml (preferred : List WeightedPodRow) (required : List PodRow) :
    (Rules.of? (preferred.map WeightedPodRow.folded) (required.map PodRow.folded)).map
      podRulesYaml = podRules preferred required := by
  refine Rules.map_of? ?_ (by simp) (by simp)
  simp only [podRulesYaml, map_listed, List.map_map, Function.comp_def, PodRow.toYaml_folded,
    WeightedPodRow.toYaml_folded]

/-- The rules about nodes in the object of rows. -/
theorem map_nodeRulesYaml (s : Scheduling) :
    (Rules.of? (s.nodePreferred.map WeightedNodeRow.folded) (NodeRow.terms s.nodeRequired)).map
      nodeRulesYaml = s.nodeRules := by
  refine Rules.map_of? ?_ (by simp) (by cases s.nodeRequired <;> simp [NodeRow.terms])
  simp only [nodeRulesYaml, map_listed, List.map_map, Function.comp_def,
    WeightedNodeRow.toYaml_folded, NodeRow.map_terms]

/-- Scheduling rules with a row are written as their object. -/
theorem toYaml?_eq_some_iff {s : Scheduling} {y : Yaml} :
    s.toYaml? = some y ↔ s.isEmpty = false ∧ s.object = y := by
  have written : s.toYaml? = if s.isEmpty then none else some s.object := rfl
  rw [written, Option.ite_none_left_eq_some, Bool.not_eq_true, Option.some.injEq]

/-- The object of rows stands in a manifest as what is written for them. -/
theorem toYaml_affinity (s : Scheduling) : s.affinity.toYaml = s.object := by
  rw [Affinity.toYaml, affinity, map_nodeRulesYaml, map_podRulesYaml, map_podRulesYaml, object]

end Scheduling

end Form

/-! ## The terms of the object of rows -/

namespace Affinity

/-- The terms that rules require. -/
def requiredOf (rules : Option (Rules τ)) : List τ := (rules.bind (·.required)).getD []

/-- The terms that rules prefer. -/
def preferredOf (rules : Option (Rules τ)) : List (Weighted τ) :=
  (rules.bind (·.preferred)).getD []

@[simp] theorem getD_listed (l : List α) : (listed l).getD [] = l := by
  cases l <;> rfl

theorem requiredOf_of? (preferred : List (Weighted τ)) (required : List τ) :
    requiredOf (Rules.of? preferred required) = required := by
  rw [Rules.of?, requiredOf]
  split
  · next none => simp_all
  · exact getD_listed required

theorem preferredOf_of? (preferred : List (Weighted τ)) (required : List τ) :
    preferredOf (Rules.of? preferred required) = preferred := by
  rw [Rules.of?, preferredOf]
  split
  · next none => simp_all
  · exact getD_listed preferred

/-- Scheduling rules are folded into an object: the rows that nodes are required to meet are the
conditions of one term, and every other row is one term with one condition. -/
structure Folds (s : Scheduling) (a : Affinity) : Prop where
  nodeRequired : requiredOf a.node =
    if s.nodeRequired.isEmpty then []
    else [{ matchExpressions := some (s.nodeRequired.map NodeRow.folded) }]
  nodePreferred : preferredOf a.node = s.nodePreferred.map WeightedNodeRow.folded
  podRequired : requiredOf a.pod = s.podRequired.map PodRow.folded
  podPreferred : preferredOf a.pod = s.podPreferred.map WeightedPodRow.folded
  antiRequired : requiredOf a.antiPod = s.antiRequired.map PodRow.folded
  antiPreferred : preferredOf a.antiPod = s.antiPreferred.map WeightedPodRow.folded

/-- Scheduling rules are folded into their object. -/
theorem folds_affinity (s : Scheduling) : Folds s s.affinity where
  nodeRequired := requiredOf_of? ..
  nodePreferred := preferredOf_of? ..
  podRequired := requiredOf_of? ..
  podPreferred := preferredOf_of? ..
  antiRequired := requiredOf_of? ..
  antiPreferred := preferredOf_of? ..

/-! ## Reading an object into rows -/

/-- The rows of an object that a pod specification has. -/
def rows? (a : Affinity) : Option Scheduling := Scheduling.of? (.dict [("affinity", a.toYaml)])

/-- The object of rows is read as their normal form. -/
theorem rows?_affinity {s : Scheduling} (h : s.isEmpty = false) :
    s.affinity.rows? = some s.normal := by
  have stands : (dict [("affinity", s.affinity.toYaml)]).get? "affinity" =
      (some s).bind Scheduling.toYaml? := by
    rw [Scheduling.toYaml_affinity, Option.bind_some,
      Scheduling.toYaml?_eq_some_iff.2 ⟨h, rfl⟩]
    rfl
  rw [rows?, Scheduling.of?_eq stands]
  exact if_neg (by simp [h])

end Affinity

namespace Form.Scheduling

/-- Scheduling rules are written unless there is no row. What is written is the object that they
are folded into; it is read as the same rows with their values in normal form, and these are written
as the same object again. -/
theorem rows_survive (s : Scheduling) :
    (s.toYaml? = none ↔
      s.nodeRequired = [] ∧ s.nodePreferred = [] ∧ s.podRequired = [] ∧ s.podPreferred = [] ∧
        s.antiRequired = [] ∧ s.antiPreferred = []) ∧
      ∀ y ∈ s.toYaml?, y = s.affinity.toYaml ∧ s.affinity.Folds s ∧
        s.affinity.rows? = some s.normal ∧ s.normal.toYaml? = some y := by
  constructor
  case left =>
    simp [toYaml?, isEmpty, and_assoc]
  case right =>
    intro y hy
    obtain ⟨given, rfl⟩ := toYaml?_eq_some_iff.1 hy
    refine ⟨s.toYaml_affinity.symm, Affinity.folds_affinity s, Affinity.rows?_affinity given, ?_⟩
    exact toYaml?_eq_some_iff.2 ⟨by rwa [isEmpty_normal], s.object_normal⟩

end Form.Scheduling

end WorkloadForms
