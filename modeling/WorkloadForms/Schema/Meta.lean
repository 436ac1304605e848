import WorkloadForms.Schema

/-!
# Schemas shared by many objects

References to other objects, conditions on labels, and the metadata of an object.
-/

namespace WorkloadForms.Schema

/-- A list of texts. -/
def texts : Schema := .list .text

/-- A dictionary of texts. -/
def labels : Schema := .dictionary .text

/-- The name of an object in the same namespace. -/
def localReference : Schema := .object [("name", .text)]

/-- A condition on a label. -/
def labelRequirement : Schema := .object [("key", .text), ("operator", .text), ("values", texts)]

/-- Conditions on labels. -/
def labelSelector : Schema :=
  .object [("matchExpressions", .list labelRequirement), ("matchLabels", labels)]

/-- A field of the pod. -/
def fieldSelector : Schema := .object [("apiVersion", .text), ("fieldPath", .text)]

/-- A resource of a container. -/
def resourceSelector : Schema :=
  .object [("containerName", .text), ("divisor", .quantity), ("resource", .text)]

/-- An entry of the record of who manages which fields. -/
def managedFields : Schema :=
  .object
    [("apiVersion", .text), ("fieldsType", .text), ("fieldsV1", .any), ("manager", .text),
     ("operation", .text), ("subresource", .text), ("time", .time)]

/-- An object that owns another one. -/
def ownerReference : Schema :=
  .object
    [("apiVersion", .text), ("blockOwnerDeletion", .flag), ("controller", .flag), ("kind", .text),
     ("name", .text), ("uid", .text)]

/-- The metadata of an object. -/
def objectMeta : Schema :=
  .object
    [("annotations", labels), ("creationTimestamp", .time),
     ("deletionGracePeriodSeconds", .int64), ("deletionTimestamp", .time), ("finalizers", texts),
     ("generateName", .text), ("generation", .int64), ("labels", labels),
     ("managedFields", .list managedFields), ("name", .text), ("namespace", .text),
     ("ownerReferences", .list ownerReference), ("resourceVersion", .text), ("selfLink", .text),
     ("uid", .text)]

end WorkloadForms.Schema
