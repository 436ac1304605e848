import Mathlib.Data.List.Basic
import Mathlib.Data.Option.Basic
import WorkloadForms.Manifest.Affinity
import WorkloadForms.Proofs.Object

/-!
# Affinity objects

Scheduling rules as a cluster knows them. They say more than rows can: terms with several
conditions, conditions on fields, labels and namespaces, operators of any name, lists that are
present but empty. `Affinity.toYaml` is how an object stands in a manifest, and no two objects stand
there alike (`Affinity.toYaml_injective`).
-/

namespace WorkloadForms

open Yaml
open Schema (preferredKey requiredKey)

namespace Affinity

/-! ## Objects -/

/-- A condition on a label or a field. -/
structure Requirement where
  key : String := ""
  operator : String := ""
  values : Option (List String) := none
  deriving DecidableEq, Repr

/-- Conditions on the labels of pods or of namespaces. -/
structure LabelSelector where
  matchExpressions : Option (List Requirement) := none
  matchLabels : Option Dictionary := none
  deriving DecidableEq, Repr

/-- A term about nodes. -/
structure NodeTerm where
  matchExpressions : Option (List Requirement) := none
  matchFields : Option (List Requirement) := none
  deriving DecidableEq, Repr

/-- A term about the pods that run in the same place. -/
structure PodTerm where
  labelSelector : Option LabelSelector := none
  matchLabelKeys : Option (List String) := none
  mismatchLabelKeys : Option (List String) := none
  namespaceSelector : Option LabelSelector := none
  namespaces : Option (List String) := none
  topologyKey : String := ""
  deriving DecidableEq, Repr

/-- A term that is preferred. -/
structure Weighted (τ : Type) where
  weight : Int32
  term : τ
  deriving DecidableEq, Repr

/-- Terms that are preferred and terms that are required. -/
structure Rules (τ : Type) where
  preferred : Option (List (Weighted τ)) := none
  required : Option (List τ) := none
  deriving DecidableEq, Repr

end Affinity

/-- Scheduling rules. The required terms about nodes stand in a node selector. -/
structure Affinity where
  node : Option (Affinity.Rules Affinity.NodeTerm) := none
  pod : Option (Affinity.Rules Affinity.PodTerm) := none
  antiPod : Option (Affinity.Rules Affinity.PodTerm) := none
  deriving DecidableEq, Repr

namespace Affinity

/-! ## In a manifest -/

/-- A list of objects in a manifest. -/
def itemsYaml (f : α → Yaml) (l : List α) : Yaml := .seq (l.map f)

/-- A condition in a manifest. -/
def Requirement.toYaml (r : Requirement) : Yaml :=
  .object
    [("key", some (.text r.key)), ("operator", some (.text r.operator)),
     ("values", r.values.map .texts)]

/-- Conditions on labels in a manifest. -/
def LabelSelector.toYaml (s : LabelSelector) : Yaml :=
  .object
    [("matchExpressions", s.matchExpressions.map (itemsYaml Requirement.toYaml)),
     ("matchLabels", s.matchLabels.map .ofDictionary)]

/-- A term about nodes in a manifest. -/
def NodeTerm.toYaml (t : NodeTerm) : Yaml :=
  .object
    [("matchExpressions", t.matchExpressions.map (itemsYaml Requirement.toYaml)),
     ("matchFields", t.matchFields.map (itemsYaml Requirement.toYaml))]

/-- A term about pods in a manifest. -/
def PodTerm.toYaml (t : PodTerm) : Yaml :=
  .object
    [("labelSelector", t.labelSelector.map LabelSelector.toYaml),
     ("matchLabelKeys", t.matchLabelKeys.map .texts),
     ("mismatchLabelKeys", t.mismatchLabelKeys.map .texts),
     ("namespaceSelector", t.namespaceSelector.map LabelSelector.toYaml),
     ("namespaces", t.namespaces.map .texts), ("topologyKey", some (.text t.topologyKey))]

/-- A preferred term in a manifest, under a key. -/
def Weighted.toYaml (key : String) (f : τ → Yaml) (w : Weighted τ) : Yaml :=
  .dict [(key, f w.term), ("weight", .ofInt32 w.weight)]

/-- Rules about nodes in a manifest. -/
def nodeRulesYaml (r : Rules NodeTerm) : Yaml :=
  .object
    [(preferredKey, r.preferred.map (itemsYaml (Weighted.toYaml "preference" NodeTerm.toYaml))),
     (requiredKey, r.required.map fun terms =>
       .dict [("nodeSelectorTerms", itemsYaml NodeTerm.toYaml terms)])]

/-- Rules about pods in a manifest. -/
def podRulesYaml (r : Rules PodTerm) : Yaml :=
  .object
    [(preferredKey, r.preferred.map (itemsYaml (Weighted.toYaml "podAffinityTerm" PodTerm.toYaml))),
     (requiredKey, r.required.map (itemsYaml PodTerm.toYaml))]

/-- Scheduling rules in a manifest. -/
def toYaml (a : Affinity) : Yaml :=
  .object
    [("nodeAffinity", a.node.map nodeRulesYaml), ("podAffinity", a.pod.map podRulesYaml),
     ("podAntiAffinity", a.antiPod.map podRulesYaml)]

/-! ## No two objects stand in a manifest alike -/

section Injective

open Function (Injective)

/-- No value is under a key that an object does not have. -/
theorem get?_object_eq_none {es : List (String × Option Yaml)} {key : String}
    (h : key ∉ es.map (·.1)) : (object es).get? key = none := by
  induction es with
  | nil => rfl
  | cons e es ih =>
    simp only [List.map_cons, List.mem_cons, not_or] at h
    rw [get?_object_cons, if_neg (Ne.symm h.1), ih h.2]

/-- Objects with the same distinct keys are the same only if they have the same values. -/
theorem entries_eq_of_object_eq {es fs : List (String × Option Yaml)} (same : object es = object fs)
    (keys : es.map (·.1) = fs.map (·.1)) (distinct : (es.map (·.1)).Nodup) : es = fs := by
  induction es generalizing fs with
  | nil => simpa using keys
  | cons e es ih =>
    obtain ⟨key, v⟩ := e
    cases fs with
    | nil => cases keys
    | cons f fs =>
      obtain ⟨key', w⟩ := f
      simp only [List.map_cons, List.cons.injEq] at keys distinct
      obtain ⟨rfl, keys⟩ := keys
      obtain ⟨fresh, distinct⟩ := List.nodup_cons.1 distinct
      have value : v = w := by
        have under := congrArg (·.get? key) same
        simpa [get?_object_eq_none fresh, get?_object_eq_none (keys ▸ fresh)] using under
      subst value
      have rest : object es = object fs := by
        cases v with
        | none => simpa [object] using same
        | some y => simpa [object, dict] using same
      rw [ih rest keys distinct]

theorem injective_texts : Injective Yaml.texts := fun _ _ h =>
  List.map_injective_iff.2 (fun _ _ => text.inj) (seq.inj h)

theorem injective_ofDictionary : Injective ofDictionary := fun a b h =>
  Dictionary.ext (by rw [← rowsOf_ofDictionary a, h, rowsOf_ofDictionary])

theorem injective_ofInt32 : Injective ofInt32 := fun a b h =>
  Option.some.inj (by rw [← int32?_ofInt32 a, h, int32?_ofInt32])

theorem injective_itemsYaml {f : α → Yaml} (hf : Injective f) : Injective (itemsYaml f) :=
  fun _ _ h => List.map_injective_iff.2 hf (seq.inj h)

theorem Requirement.toYaml_injective : Injective toYaml := by
  rintro ⟨key, operator, values⟩ b h
  have same := entries_eq_of_object_eq h rfl (by simp)
  simp only [List.cons.injEq, Prod.mk.injEq, Option.some.injEq, text.injEq, true_and, and_true,
    (Option.map_injective injective_texts).eq_iff] at same
  obtain ⟨rfl, rfl, rfl⟩ := same
  rfl

theorem LabelSelector.toYaml_injective : Injective toYaml := by
  rintro ⟨matchExpressions, matchLabels⟩ b h
  have same := entries_eq_of_object_eq h rfl (by simp)
  simp only [List.cons.injEq, Prod.mk.injEq, true_and, and_true,
    (Option.map_injective (injective_itemsYaml Requirement.toYaml_injective)).eq_iff,
    (Option.map_injective injective_ofDictionary).eq_iff] at same
  obtain ⟨rfl, rfl⟩ := same
  rfl

theorem NodeTerm.toYaml_injective : Injective toYaml := by
  rintro ⟨matchExpressions, matchFields⟩ b h
  have same := entries_eq_of_object_eq h rfl (by simp)
  simp only [List.cons.injEq, Prod.mk.injEq, true_and, and_true,
    (Option.map_injective (injective_itemsYaml Requirement.toYaml_injective)).eq_iff] at same
  obtain ⟨rfl, rfl⟩ := same
  rfl

theorem PodTerm.toYaml_injective : Injective toYaml := by
  rintro ⟨labelSelector, matchLabelKeys, mismatchLabelKeys, namespaceSelector, namespaces, key⟩ b h
  have same := entries_eq_of_object_eq h rfl (by simp)
  simp only [List.cons.injEq, Prod.mk.injEq, Option.some.injEq, text.injEq, true_and, and_true,
    (Option.map_injective LabelSelector.toYaml_injective).eq_iff,
    (Option.map_injective injective_texts).eq_iff] at same
  obtain ⟨rfl, rfl, rfl, rfl, rfl, rfl⟩ := same
  rfl

theorem Weighted.toYaml_injective {key : String} {f : τ → Yaml} (hf : Injective f)
    (other : key ≠ "weight") : Injective (toYaml key f) := by
  rintro ⟨weight, term⟩ b h
  simp only [toYaml, dict_eq_object] at h
  have same := entries_eq_of_object_eq h rfl (by simpa using other)
  simp only [List.map_cons, List.map_nil, List.cons.injEq, Prod.mk.injEq, Option.some.injEq,
    true_and, and_true, hf.eq_iff, injective_ofInt32.eq_iff] at same
  obtain ⟨rfl, rfl⟩ := same
  rfl

theorem injective_nodeRulesYaml : Injective nodeRulesYaml := by
  have selector : Injective fun terms : List NodeTerm =>
      dict [("nodeSelectorTerms", itemsYaml NodeTerm.toYaml terms)] := fun a b h =>
    injective_itemsYaml NodeTerm.toYaml_injective (by simpa [dict] using h)
  have weighted : Injective (Weighted.toYaml "preference" NodeTerm.toYaml) :=
    Weighted.toYaml_injective NodeTerm.toYaml_injective (by decide)
  rintro ⟨preferred, required⟩ b h
  have same := entries_eq_of_object_eq h rfl (by simp [preferredKey, requiredKey])
  simp only [List.cons.injEq, Prod.mk.injEq, true_and, and_true,
    (Option.map_injective (injective_itemsYaml weighted)).eq_iff,
    (Option.map_injective selector).eq_iff] at same
  obtain ⟨rfl, rfl⟩ := same
  rfl

theorem injective_podRulesYaml : Injective podRulesYaml := by
  have weighted : Injective (Weighted.toYaml "podAffinityTerm" PodTerm.toYaml) :=
    Weighted.toYaml_injective PodTerm.toYaml_injective (by decide)
  rintro ⟨preferred, required⟩ b h
  have same := entries_eq_of_object_eq h rfl (by simp [preferredKey, requiredKey])
  simp only [List.cons.injEq, Prod.mk.injEq, true_and, and_true,
    (Option.map_injective (injective_itemsYaml weighted)).eq_iff,
    (Option.map_injective (injective_itemsYaml PodTerm.toYaml_injective)).eq_iff] at same
  obtain ⟨rfl, rfl⟩ := same
  rfl

/-- No two scheduling rules stand in a manifest alike. -/
theorem toYaml_injective : Injective toYaml := by
  rintro ⟨node, pod, antiPod⟩ b h
  have same := entries_eq_of_object_eq h rfl (by simp)
  simp only [List.cons.injEq, Prod.mk.injEq, true_and, and_true,
    (Option.map_injective injective_nodeRulesYaml).eq_iff,
    (Option.map_injective injective_podRulesYaml).eq_iff] at same
  obtain ⟨rfl, rfl, rfl⟩ := same
  rfl

end Injective

end Affinity

end WorkloadForms
