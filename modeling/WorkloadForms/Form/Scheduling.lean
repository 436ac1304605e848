import WorkloadForms.Form.Terms
import WorkloadForms.Record.Codec

/-!
# Scheduling rules as a form holds them

Conditions on nodes and pods in rows, one condition a row, with the values of a condition in one
text with commas between them. A preferred row has a weight.
-/

namespace WorkloadForms.Form

/-- A condition on the labels of a node. -/
structure NodeRow where
  key : String := ""
  operator : SelectorOperator := .isIn
  values : String := ""
  deriving DecidableEq, Repr, Inhabited

/-- The fields of a condition on a node. -/
def NodeRow.fields : List (Field NodeRow) :=
  [.always "key" .text (·.key) fun v r => { r with key := v },
   .always "operator" .word (·.operator) fun v r => { r with operator := v },
   .always "values" (.separated ',') (·.values) fun v r => { r with values := v }]

/-- Conditions on a node as JSON. -/
def NodeRow.codec : Codec NodeRow := .record fields {}

/-- A preference for nodes that meet a condition. -/
structure WeightedNodeRow where
  weight : Int32 := 0
  key : String := ""
  operator : SelectorOperator := .isIn
  values : String := ""
  deriving DecidableEq, Repr, Inhabited

/-- The fields of a preference for nodes. -/
def WeightedNodeRow.fields : List (Field WeightedNodeRow) :=
  [.always "weight" .int32 (·.weight) fun v r => { r with weight := v },
   .always "key" .text (·.key) fun v r => { r with key := v },
   .always "operator" .word (·.operator) fun v r => { r with operator := v },
   .always "values" (.separated ',') (·.values) fun v r => { r with values := v }]

/-- Preferences for nodes as JSON. -/
def WeightedNodeRow.codec : Codec WeightedNodeRow := .record fields {}

/-- A condition on the labels of the pods that run in the same place. -/
structure PodRow where
  topologyKey : String := ""
  labelKey : String := ""
  operator : SelectorOperator := .isIn
  labelValues : String := ""
  deriving DecidableEq, Repr, Inhabited

/-- The fields of a condition on pods. -/
def PodRow.fields : List (Field PodRow) :=
  [.always "topologyKey" .text (·.topologyKey) fun v r => { r with topologyKey := v },
   .always "labelKey" .text (·.labelKey) fun v r => { r with labelKey := v },
   .always "operator" .word (·.operator) fun v r => { r with operator := v },
   .always "labelValues" (.separated ',') (·.labelValues) fun v r => { r with labelValues := v }]

/-- Conditions on pods as JSON. -/
def PodRow.codec : Codec PodRow := .record fields {}

/-- A preference for places with pods that meet a condition. -/
structure WeightedPodRow where
  weight : Int32 := 0
  topologyKey : String := ""
  labelKey : String := ""
  operator : SelectorOperator := .isIn
  labelValues : String := ""
  deriving DecidableEq, Repr, Inhabited

/-- The fields of a preference for pods. -/
def WeightedPodRow.fields : List (Field WeightedPodRow) :=
  [.always "weight" .int32 (·.weight) fun v r => { r with weight := v },
   .always "topologyKey" .text (·.topologyKey) fun v r => { r with topologyKey := v },
   .always "labelKey" .text (·.labelKey) fun v r => { r with labelKey := v },
   .always "operator" .word (·.operator) fun v r => { r with operator := v },
   .always "labelValues" (.separated ',') (·.labelValues) fun v r => { r with labelValues := v }]

/-- Preferences for pods as JSON. -/
def WeightedPodRow.codec : Codec WeightedPodRow := .record fields {}

/-- The scheduling rules of a workload. All rows that a node is required to meet must hold. -/
structure Scheduling where
  nodeRequired : List NodeRow := []
  nodePreferred : List WeightedNodeRow := []
  podRequired : List PodRow := []
  podPreferred : List WeightedPodRow := []
  antiRequired : List PodRow := []
  antiPreferred : List WeightedPodRow := []
  deriving DecidableEq, Repr, Inhabited

namespace Scheduling

/-- The fields of scheduling rules. -/
def fields : List (Field Scheduling) :=
  [.list "nodeAffinityRequired" NodeRow.codec (·.nodeRequired)
     fun v r => { r with nodeRequired := v },
   .list "nodeAffinityPreferred" WeightedNodeRow.codec (·.nodePreferred)
     fun v r => { r with nodePreferred := v },
   .list "podAffinityRequired" PodRow.codec (·.podRequired) fun v r => { r with podRequired := v },
   .list "podAffinityPreferred" WeightedPodRow.codec (·.podPreferred)
     fun v r => { r with podPreferred := v },
   .list "podAntiAffinityRequired" PodRow.codec (·.antiRequired)
     fun v r => { r with antiRequired := v },
   .list "podAntiAffinityPreferred" WeightedPodRow.codec (·.antiPreferred)
     fun v r => { r with antiPreferred := v }]

/-- Scheduling rules as JSON. -/
def codec : Codec Scheduling := .record fields {}

/-- Whether there is no row. -/
def isEmpty (s : Scheduling) : Bool :=
  s.nodeRequired.isEmpty && s.nodePreferred.isEmpty && s.podRequired.isEmpty
    && s.podPreferred.isEmpty && s.antiRequired.isEmpty && s.antiPreferred.isEmpty

end Scheduling

end WorkloadForms.Form
