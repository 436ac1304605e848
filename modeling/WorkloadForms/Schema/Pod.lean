import WorkloadForms.Schema.Meta

/-!
# Schemas of the settings of a pod
-/

namespace WorkloadForms.Schema

/-- A taint that the pods tolerate. -/
def toleration : Schema :=
  .object
    [("effect", .text), ("key", .text), ("operator", .text), ("tolerationSeconds", .int64),
     ("value", .text)]

/-- Conditions on a node. -/
def nodeTerm : Schema :=
  .object [("matchExpressions", .list labelRequirement), ("matchFields", .list labelRequirement)]

/-- Conditions on the pods that run in the same place. -/
def podTerm : Schema :=
  .object
    [("labelSelector", labelSelector), ("matchLabelKeys", texts), ("mismatchLabelKeys", texts),
     ("namespaceSelector", labelSelector), ("namespaces", texts), ("topologyKey", .text)]

/-- The key of the rules that prefer. -/
def preferredKey : String := "preferredDuringSchedulingIgnoredDuringExecution"

/-- The key of the rules that require. -/
def requiredKey : String := "requiredDuringSchedulingIgnoredDuringExecution"

/-- Rules about nodes. -/
def nodeAffinity : Schema :=
  .object
    [(preferredKey, .list (.object [("preference", nodeTerm), ("weight", .int32)])),
     (requiredKey, .object [("nodeSelectorTerms", .list nodeTerm)])]

/-- Rules about pods. -/
def podAffinity : Schema :=
  .object
    [(preferredKey, .list (.object [("podAffinityTerm", podTerm), ("weight", .int32)])),
     (requiredKey, .list podTerm)]

/-- Scheduling rules. -/
def affinity : Schema :=
  .object
    [("nodeAffinity", nodeAffinity), ("podAffinity", podAffinity),
     ("podAntiAffinity", podAffinity)]

/-- The settings of the resolver. -/
def dnsConfig : Schema :=
  .object
    [("nameservers", texts), ("options", .list (.object [("name", .text), ("value", .text)])),
     ("searches", texts)]

/-- How pods are replaced by newer ones. -/
def strategy : Schema :=
  .object
    [("rollingUpdate", .object [("maxSurge", .intOrText), ("maxUnavailable", .intOrText)]),
     ("type", .text)]

end WorkloadForms.Schema
