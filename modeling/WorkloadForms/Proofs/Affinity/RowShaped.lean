import Mathlib.Data.Set.List
import WorkloadForms.Proofs.Affinity.Rows

/-!
# Row-shaped affinity objects

An affinity object can say more than rows can. It is row-shaped (`Affinity.RowShaped`) if it says
nothing that rows cannot; the row-shaped objects are the objects of rows (`rowShaped_affinity`,
`exists_affinity`), so they are the ones that are written as they were after they were read into
rows (`Affinity.survives_iff`).
-/

namespace WorkloadForms

open Form

/-! ## Row-shaped objects -/

namespace Affinity

/-- A condition that a row can hold: its operator is known, and its values, if it has any, are texts
that survive between commas. -/
structure Requirement.RowShaped (r : Requirement) : Prop where
  operator : r.operator ∈ ["In", "NotIn", "Exists", "DoesNotExist", "Gt", "Lt"]
  values : ∀ vs ∈ r.values, vs ≠ [] ∧ ∀ v ∈ vs, Text.IsToken ',' v

/-- A term about nodes with one condition and nothing else. -/
def NodeTerm.RowShaped (t : NodeTerm) : Prop :=
  ∃ r, t = { matchExpressions := some [r] } ∧ r.RowShaped

/-- A term about pods with a place, one condition on labels and nothing else. -/
def PodTerm.RowShaped (t : PodTerm) : Prop :=
  ∃ topologyKey r,
    t = { topologyKey, labelSelector := some { matchExpressions := some [r] } } ∧ r.RowShaped

/-- One term about nodes, with conditions and nothing else. -/
def NodeTerm.AllInOne (ts : List NodeTerm) : Prop :=
  ∃ rs, rs ≠ [] ∧ ts = [{ matchExpressions := some rs }] ∧ ∀ r ∈ rs, r.RowShaped

/-- Rules of row-shaped terms: there are some, no list is empty, and the terms are of the shapes of
preferred and of required ones. -/
structure Rules.RowShaped (preferred : τ → Prop) (required : List τ → Prop) (r : Rules τ) :
    Prop where
  present : r.preferred ≠ none ∨ r.required ≠ none
  preferred : ∀ ws ∈ r.preferred, ws ≠ [] ∧ ∀ w ∈ ws, preferred w.term
  required : ∀ ts ∈ r.required, ts ≠ [] ∧ required ts

/-- An affinity object that rows can hold: there are rules, all required conditions on nodes stand
in one term, and every other term has one condition. -/
structure RowShaped (a : Affinity) : Prop where
  present : a.node ≠ none ∨ a.pod ≠ none ∨ a.antiPod ≠ none
  node : ∀ r ∈ a.node, r.RowShaped NodeTerm.RowShaped NodeTerm.AllInOne
  pod : ∀ r ∈ a.pod, r.RowShaped PodTerm.RowShaped fun ts => ∀ t ∈ ts, t.RowShaped
  antiPod : ∀ r ∈ a.antiPod, r.RowShaped PodTerm.RowShaped fun ts => ∀ t ∈ ts, t.RowShaped

/-! ## The object of rows is row-shaped -/

theorem listed_eq_none_iff {l : List α} : listed l = none ↔ l = [] := by
  cases l <;> simp [listed]

theorem eq_of_mem_listed {l m : List α} (h : m ∈ listed l) : m = l ∧ m ≠ [] := by
  cases l with
  | nil => cases h
  | cons a l =>
    obtain rfl := Option.some.inj h
    exact ⟨rfl, by simp⟩

/-- The condition of a row is one that a row can hold. -/
theorem Requirement.rowShaped_ofRow (key : String) (operator : SelectorOperator)
    (values : String) : (ofRow key operator values).RowShaped where
  operator := by cases operator <;> simp [ofRow, Vocabulary.word]
  values vs hvs := by
    obtain ⟨rfl, filled⟩ := eq_of_mem_listed hvs
    exact ⟨filled, fun v hv => Text.isToken_of_mem_tokens hv⟩

theorem Rules.of?_eq_none_iff {preferred : List (Weighted τ)} {required : List τ} :
    of? preferred required = none ↔ preferred = [] ∧ required = [] := by
  simp [of?]

theorem terms_eq_nil_iff {rows : List NodeRow} : NodeRow.terms rows = [] ↔ rows = [] := by
  cases rows <;> simp [NodeRow.terms]

/-- Rules of terms of their shapes are row-shaped. -/
theorem Rules.rowShaped_of? {prefers : τ → Prop} {requires : List τ → Prop}
    {preferred : List (Weighted τ)} {required : List τ} {r : Rules τ}
    (h : r ∈ of? preferred required) (hp : ∀ w ∈ preferred, prefers w.term)
    (hr : required ≠ [] → requires required) : r.RowShaped prefers requires := by
  obtain ⟨given, h⟩ := Option.ite_none_left_eq_some.1 h
  obtain rfl := Option.some.inj h
  refine ⟨?present, fun ws hws => ?preferred, fun ts hts => ?required⟩
  case present =>
    simpa [listed_eq_none_iff, imp_iff_not_or] using given
  case preferred =>
    obtain ⟨rfl, filled⟩ := eq_of_mem_listed hws
    exact ⟨filled, hp⟩
  case required =>
    obtain ⟨rfl, filled⟩ := eq_of_mem_listed hts
    exact ⟨filled, hr filled⟩

/-- Rules about pods that are made of rows are row-shaped. -/
theorem Rules.rowShaped_pod {preferred : List WeightedPodRow} {required : List PodRow}
    {r : Rules PodTerm}
    (h : r ∈ of? (preferred.map WeightedPodRow.folded) (required.map PodRow.folded)) :
    r.RowShaped PodTerm.RowShaped fun ts => ∀ t ∈ ts, t.RowShaped := by
  refine rowShaped_of? h (fun w hw => ?_) fun _ t ht => ?_
  · obtain ⟨row, -, rfl⟩ := List.mem_map.1 hw
    exact ⟨_, _, rfl, Requirement.rowShaped_ofRow ..⟩
  · obtain ⟨row, -, rfl⟩ := List.mem_map.1 ht
    exact ⟨_, _, rfl, Requirement.rowShaped_ofRow ..⟩

/-- Rules about nodes that are made of rows are row-shaped. -/
theorem Rules.rowShaped_node {preferred : List WeightedNodeRow} {required : List NodeRow}
    {r : Rules NodeTerm}
    (h : r ∈ of? (preferred.map WeightedNodeRow.folded) (NodeRow.terms required)) :
    r.RowShaped NodeTerm.RowShaped NodeTerm.AllInOne := by
  refine rowShaped_of? h (fun w hw => ?_) fun given => ?_
  · obtain ⟨row, -, rfl⟩ := List.mem_map.1 hw
    exact ⟨_, rfl, Requirement.rowShaped_ofRow ..⟩
  · have rows : required ≠ [] := mt terms_eq_nil_iff.2 given
    refine ⟨required.map NodeRow.folded, by simpa using rows, ?_, fun r hr => ?_⟩
    · rw [NodeRow.terms, if_neg (by simpa using rows), NodeTerm.ofConditions]
    · obtain ⟨row, -, rfl⟩ := List.mem_map.1 hr
      exact Requirement.rowShaped_ofRow ..

/-- There is no row if and only if there are no rules in the object of rows. -/
theorem isEmpty_iff_affinity {s : Scheduling} :
    s.isEmpty = true ↔
      s.affinity.node = none ∧ s.affinity.pod = none ∧ s.affinity.antiPod = none := by
  simp only [Scheduling.isEmpty, Bool.and_eq_true, List.isEmpty_iff, Scheduling.affinity,
    Rules.of?_eq_none_iff, List.map_eq_nil_iff, terms_eq_nil_iff]
  tauto

/-- The object of rows is row-shaped. -/
theorem rowShaped_affinity {s : Scheduling} (h : s.isEmpty = false) : s.affinity.RowShaped where
  present := by
    have given := mt isEmpty_iff_affinity.2 (Bool.eq_false_iff.1 h)
    tauto
  node _ := Rules.rowShaped_node
  pod _ := Rules.rowShaped_pod
  antiPod _ := Rules.rowShaped_pod

/-! ## Every row-shaped object is the object of rows -/

/-- The words of operators. -/
theorem exists_word {w : String}
    (h : w ∈ ["In", "NotIn", "Exists", "DoesNotExist", "Gt", "Lt"]) :
    ∃ operator : SelectorOperator, Vocabulary.word operator = w := by
  simp only [List.mem_cons, List.not_mem_nil, or_false] at h
  rcases h with rfl | rfl | rfl | rfl | rfl | rfl
  exacts [⟨.isIn, rfl⟩, ⟨.notIn, rfl⟩, ⟨.exists, rfl⟩, ⟨.doesNotExist, rfl⟩, ⟨.greaterThan, rfl⟩,
    ⟨.lessThan, rfl⟩]

/-- A condition that a row can hold is the condition of a row. -/
theorem Requirement.exists_ofRow {r : Requirement} (h : r.RowShaped) :
    ∃ operator values, ofRow r.key operator values = r := by
  obtain ⟨key, word, values⟩ := r
  obtain ⟨operator, rfl⟩ := exists_word h.operator
  have read : ∃ joined, listed (Text.commas joined) = values := by
    cases values with
    | none => exact ⟨"", rfl⟩
    | some vs =>
      obtain ⟨filled, tokens⟩ := h.values vs rfl
      refine ⟨Text.joined ',' vs, ?_⟩
      rw [Text.commas, Text.tokens_joined_of_isToken tokens, listed, if_neg (by simpa using filled)]
  obtain ⟨joined, rfl⟩ := read
  exact ⟨operator, joined, rfl⟩

/-- A preferred term about nodes with one condition is the term of a row. -/
theorem mem_range_weightedNodeRow {w : Weighted NodeTerm} (h : w.term.RowShaped) :
    w ∈ Set.range WeightedNodeRow.folded := by
  obtain ⟨weight, term⟩ := w
  obtain ⟨r, rfl, shape⟩ := h
  obtain ⟨operator, values, same⟩ := Requirement.exists_ofRow shape
  exact ⟨⟨weight, r.key, operator, values⟩, by rw [WeightedNodeRow.folded, same]; rfl⟩

/-- A term about pods with one condition is the term of a row. -/
theorem mem_range_podRow {t : PodTerm} (h : t.RowShaped) : t ∈ Set.range PodRow.folded := by
  obtain ⟨topologyKey, r, rfl, shape⟩ := h
  obtain ⟨operator, values, same⟩ := Requirement.exists_ofRow shape
  exact ⟨⟨topologyKey, r.key, operator, values⟩, by rw [PodRow.folded, same]; rfl⟩

theorem mem_range_weightedPodRow {w : Weighted PodTerm} (h : w.term.RowShaped) :
    w ∈ Set.range WeightedPodRow.folded := by
  obtain ⟨weight, term⟩ := w
  obtain ⟨row, rfl⟩ := mem_range_podRow h
  exact ⟨⟨weight, row.topologyKey, row.labelKey, row.operator, row.labelValues⟩, rfl⟩

theorem mem_range_podRows {ts : List PodTerm} (h : ∀ t ∈ ts, t.RowShaped) :
    ts ∈ Set.range (List.map PodRow.folded) := by
  rw [Set.range_list_map]
  exact fun t ht => mem_range_podRow (h t ht)

/-- One term about nodes is the term of rows. -/
theorem mem_range_nodeRows {ts : List NodeTerm} (h : NodeTerm.AllInOne ts) :
    ts ∈ Set.range NodeRow.terms := by
  obtain ⟨rs, filled, rfl, shape⟩ := h
  have rows : rs ∈ Set.range (List.map NodeRow.folded) := by
    rw [Set.range_list_map]
    intro r hr
    obtain ⟨operator, values, same⟩ := Requirement.exists_ofRow (shape r hr)
    exact ⟨⟨r.key, operator, values⟩, same⟩
  obtain ⟨rows, rfl⟩ := rows
  exact ⟨rows, by rw [NodeRow.terms, if_neg (by simpa using filled), NodeTerm.ofConditions]⟩

/-- A list that is not empty if it is present is a list of rows, or there are no rows. -/
theorem exists_listed {F : List α → List β} (empty : F [] = []) {o : Option (List β)}
    (h : ∀ l ∈ o, l ≠ [] ∧ l ∈ Set.range F) : ∃ rows, listed (F rows) = o := by
  cases o with
  | none => exact ⟨[], by rw [empty]; rfl⟩
  | some l =>
    obtain ⟨filled, rows, rfl⟩ := h l rfl
    exact ⟨rows, by rw [listed, if_neg (by simpa using filled)]⟩

/-- Row-shaped rules are made of rows. -/
theorem Rules.exists_of? {f : α → Weighted τ} {g : List β → List τ} {prefers : τ → Prop}
    {requires : List τ → Prop} (empty : g [] = [])
    (preferred : ∀ w : Weighted τ, prefers w.term → w ∈ Set.range f)
    (required : ∀ ts, requires ts → ts ∈ Set.range g) {o : Option (Rules τ)}
    (h : ∀ r ∈ o, r.RowShaped prefers requires) :
    ∃ (ps : List α) (rs : List β), of? (ps.map f) (g rs) = o := by
  cases o with
  | none => exact ⟨[], [], by rw [empty]; rfl⟩
  | some r =>
    have shape := h r rfl
    obtain ⟨ps, hp⟩ : ∃ ps : List α, listed (List.map f ps) = r.preferred := by
      refine exists_listed rfl fun ws hws => ⟨(shape.preferred ws hws).1, ?_⟩
      rw [Set.range_list_map]
      exact fun w hw => preferred w ((shape.preferred ws hws).2 w hw)
    obtain ⟨rs, hr⟩ : ∃ rs : List β, listed (g rs) = r.required :=
      exists_listed empty fun ts hts =>
        ⟨(shape.required ts hts).1, required ts (shape.required ts hts).2⟩
    have given : ¬(ps.map f = [] ∧ g rs = []) := by
      rw [← listed_eq_none_iff, ← listed_eq_none_iff, hp, hr]
      exact not_and_or.2 shape.present
    refine ⟨ps, rs, ?_⟩
    rw [of?, if_neg (by simpa using given), hp, hr]

/-- A row-shaped object is the object of rows. -/
theorem exists_affinity {a : Affinity} (h : a.RowShaped) :
    ∃ s : Scheduling, s.isEmpty = false ∧ s.affinity = a := by
  obtain ⟨nodePreferred, nodeRequired, node⟩ :=
    Rules.exists_of? rfl (fun _ => mem_range_weightedNodeRow) (fun _ => mem_range_nodeRows) h.node
  obtain ⟨podPreferred, podRequired, pod⟩ :=
    Rules.exists_of? rfl (fun _ => mem_range_weightedPodRow) (fun _ => mem_range_podRows) h.pod
  obtain ⟨antiPreferred, antiRequired, antiPod⟩ :=
    Rules.exists_of? rfl (fun _ => mem_range_weightedPodRow) (fun _ => mem_range_podRows) h.antiPod
  obtain ⟨s, hs⟩ : ∃ s : Scheduling, s.affinity = a :=
    ⟨⟨nodeRequired, nodePreferred, podRequired, podPreferred, antiRequired, antiPreferred⟩, by
      rw [Scheduling.affinity, node, pod, antiPod]⟩
  refine ⟨s, Bool.eq_false_iff.2 fun none => ?_, hs⟩
  have absent := isEmpty_iff_affinity.1 none
  rw [hs] at absent
  have given := h.present
  tauto

/-! ## Row-shaped objects survive -/

/-- What an object becomes when it is read into rows, and the rows are written, is the object itself
if and only if it is row-shaped. -/
theorem survives_iff (a : Affinity) :
    a.rows?.bind Scheduling.toYaml? = some a.toYaml ↔ a.RowShaped := by
  constructor
  case mp =>
    intro same
    obtain ⟨s, -, written⟩ := Option.bind_eq_some_iff.1 same
    obtain ⟨given, rows⟩ := Scheduling.toYaml?_eq_some_iff.1 written
    rw [← Scheduling.toYaml_affinity] at rows
    rw [← toYaml_injective rows]
    exact rowShaped_affinity given
  case mpr =>
    intro shape
    obtain ⟨s, given, rfl⟩ := exists_affinity shape
    rw [rows?_affinity given, Option.bind_some, Scheduling.toYaml_affinity]
    exact Scheduling.toYaml?_eq_some_iff.2 ⟨by rwa [Scheduling.isEmpty_normal], s.object_normal⟩

end Affinity

end WorkloadForms
