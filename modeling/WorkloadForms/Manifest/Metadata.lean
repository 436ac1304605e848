import WorkloadForms.Manifest.Entry

/-!
# Metadata of a manifest

A row of labels or annotations counts when its key and its value are not empty; of rows with the
same key the last one counts. A manifest without labels is labelled with its own name. The
description of a workload is kept among the annotations, and an annotation row of the same key
goes before it.
-/

namespace WorkloadForms

open Form

namespace Descriptor

/-- The name of a workload that has none. -/
def defaultName : String := "example"

/-- The namespace of a workload that has none. -/
def defaultNamespace : String := "default"

/-- The key of the annotation that holds the description. -/
def descriptionKey : String := "description"

/-- The entries of the rows that count. -/
def usable (rows : List Row) : List (String × String) :=
  (rows.filter fun r => !r.key.isEmpty && !r.value.isEmpty).map fun r => (r.key, r.value)

/-- The name in the manifest. -/
def resolvedName (d : Descriptor) : String := (filled d.name).getD defaultName

/-- The labels in the manifest. -/
def labelMap (d : Descriptor) : Dictionary :=
  let labels := Dictionary.ofList (usable d.labels)
  if labels.isEmpty then Dictionary.ofList [("app", d.resolvedName)] else labels

/-- The annotations in the manifest. -/
def annotationMap (d : Descriptor) : Dictionary :=
  let description := match d.description.bind filled with
    | some s => [(descriptionKey, s)]
    | none => []
  Dictionary.ofList (description ++ usable d.annotations)

/-- The metadata of the manifest. -/
def metadata (d : Descriptor) : Yaml :=
  .object
    [("annotations",
       if d.annotationMap.isEmpty then none else some (Yaml.ofDictionary d.annotationMap)),
     ("labels", some (Yaml.ofDictionary d.labelMap)),
     ("name", some (.text d.resolvedName)),
     ("namespace", some (.text ((filled d.namespaceName).getD defaultNamespace)))]

/-- Rows of entries. -/
def rowsOf (entries : List (String × String)) : List Row := entries.map fun e => ⟨e.1, e.2⟩

/-- The settings of the metadata of a manifest, put into a descriptor. -/
def withMetadata (d : Descriptor) (object : Yaml) : Descriptor :=
  let annotations := object.rowsAt "annotations"
  { d with
    name := (object.textAt? "name").getD ""
    namespaceName := (object.textAt? "namespace").getD defaultNamespace
    description := annotations.lookup descriptionKey
    labels := rowsOf (object.rowsAt "labels")
    annotations := rowsOf (annotations.filter fun e => e.1 != descriptionKey) }

end Descriptor

end WorkloadForms
