import WorkloadForms.Yaml.Reading

/-!
# The values that texts write

`Yaml.Everywhere` is a property of a value and of all the values inside it. A text never writes a
mapping with two equal keys: `Yaml.distinctKeys_of_ofText?`.
-/

namespace WorkloadForms.Yaml

/-! ## Values inside values -/

/-- The values directly inside a value. -/
def parts : Yaml → List Yaml
  | .seq items => items
  | .map entries => entries.flatMap fun e => [e.1, e.2]
  | .tagged _ content => [content]
  | _ => []

/-- A property of a value and of all the values inside it. -/
inductive Everywhere (p : Yaml → Prop) : Yaml → Prop
  | intro {y : Yaml} (here : p y) (inside : ∀ z ∈ y.parts, Everywhere p z) : Everywhere p y

namespace Everywhere

variable {p : Yaml → Prop} {y : Yaml}

theorem here (h : Everywhere p y) : p y := by
  cases h
  assumption

theorem inside (h : Everywhere p y) : ∀ z ∈ y.parts, Everywhere p z := by
  cases h
  assumption

/-- The items of a sequence have the property everywhere. -/
theorem item {items : List Yaml} (h : Everywhere p (.seq items)) : ∀ z ∈ items, Everywhere p z :=
  h.inside

/-- The values of the entries of a mapping have the property everywhere. -/
theorem value {entries : List (Yaml × Yaml)} (h : Everywhere p (.map entries)) :
    ∀ e ∈ entries, Everywhere p e.2 :=
  fun e he => h.inside e.2 (List.mem_flatMap.2 ⟨e, he, by simp⟩)

/-- The keys of a mapping have the property everywhere. -/
theorem key {entries : List (Yaml × Yaml)} (h : Everywhere p (.map entries)) :
    ∀ e ∈ entries, Everywhere p e.1 :=
  fun e he => h.inside e.1 (List.mem_flatMap.2 ⟨e, he, by simp⟩)

/-- A mapping has the property everywhere when it has and its keys and values have. -/
theorem map {entries : List (Yaml × Yaml)} (here : p (.map entries))
    (inside : ∀ e ∈ entries, Everywhere p e.1 ∧ Everywhere p e.2) :
    Everywhere p (.map entries) := by
  refine .intro here fun z hz => ?_
  obtain ⟨e, he, hz⟩ := List.mem_flatMap.1 hz
  rcases List.mem_cons.1 hz with rfl | hz
  · exact (inside e he).1
  · obtain rfl := List.mem_singleton.1 hz
    exact (inside e he).2

/-- A value without values inside has the property everywhere when it has it. -/
theorem leaf (here : p y) (none : y.parts = []) : Everywhere p y :=
  .intro here (by simp [none])

/-- The value under the tags of a value has the property everywhere. -/
theorem untagged (h : Everywhere p y) : Everywhere p y.untagged := by
  induction h with
  | @intro y here inside ih =>
    cases y with
    | tagged tag content => exact ih content (List.mem_singleton.2 rfl)
    | _ => exact .intro here inside

/-- The items of a value have the property everywhere. -/
theorem items {ys : List Yaml} (h : Everywhere p y) (hy : y.items? = some ys) :
    ∀ z ∈ ys, Everywhere p z := by
  rw [items?] at hy
  split at hy
  · next items shape =>
    obtain rfl := Option.some.inj hy
    exact item (shape ▸ h.untagged)
  · cases hy

/-- The entries of a value have the property everywhere, as a mapping. -/
theorem entries {es : List (Yaml × Yaml)} (h : Everywhere p y) (hy : y.entries? = some es) :
    Everywhere p (.map es) := by
  rw [entries?] at hy
  split at hy
  · next entries shape =>
    obtain rfl := Option.some.inj hy
    exact shape ▸ h.untagged
  · cases hy

/-- The value under a key has the property everywhere. -/
theorem get? {key : String} {v : Yaml} (h : Everywhere p y) (hv : y.get? key = some v) :
    Everywhere p v := by
  obtain ⟨es, hes, hv⟩ := Option.bind_eq_some_iff.1 hv
  obtain ⟨e, he, rfl⟩ := Option.map_eq_some_iff.1 hv
  exact (h.entries hes).value e (List.mem_of_find?_eq_some he)

/-- The value at the end of a path has the property everywhere. -/
theorem at? {path : List String} {v : Yaml} (h : Everywhere p y) (hv : y.at? path = some v) :
    Everywhere p v := by
  induction path generalizing y with
  | nil =>
    obtain rfl := Option.some.inj hv
    exact h
  | cons key path ih =>
    obtain ⟨z, hz, hv⟩ := Option.bind_eq_some_iff.1 hv
    exact ih (h.get? hz) hv

/-- A property holds everywhere in a value when it holds of the value and everywhere inside. -/
theorem iff_parts : Everywhere p y ↔ p y ∧ ∀ z ∈ y.parts, Everywhere p z :=
  ⟨fun h => ⟨h.here, h.inside⟩, fun h => .intro h.1 h.2⟩

end Everywhere

mutual

/-- Whether a property holds everywhere in a value. -/
def holds (p : Yaml → Prop) [DecidablePred p] : Yaml → Bool
  | .seq items => p (.seq items) && holdsItems p items
  | .map entries => p (.map entries) && holdsEntries p entries
  | .tagged tag content => p (.tagged tag content) && holds p content
  | y => p y
termination_by structural y => y

/-- Whether a property holds everywhere in some values. -/
def holdsItems (p : Yaml → Prop) [DecidablePred p] : List Yaml → Bool
  | [] => true
  | y :: ys => holds p y && holdsItems p ys
termination_by structural ys => ys

/-- Whether a property holds everywhere in the keys and values of some entries. -/
def holdsEntries (p : Yaml → Prop) [DecidablePred p] : List (Yaml × Yaml) → Bool
  | [] => true
  | (k, v) :: es => holds p k && holds p v && holdsEntries p es
termination_by structural es => es

end

section Deciding

variable {p : Yaml → Prop} [DecidablePred p]

mutual

theorem holds_iff : ∀ y : Yaml, holds p y = true ↔ y.Everywhere p
  | .null | .flag _ | .int _ | .real _ | .text _ => by
    rw [Everywhere.iff_parts]
    simp [holds, parts]
  | .seq items => by
    rw [Everywhere.iff_parts]
    simp [holds, parts, holdsItems_iff items]
  | .map entries => by
    simp only [holds, holdsEntries_iff entries, Bool.and_eq_true, decide_eq_true_eq]
    exact ⟨fun h => .map h.1 h.2, fun h => ⟨h.here, fun e mem => ⟨h.key e mem, h.value e mem⟩⟩⟩
  | .tagged tag content => by
    rw [Everywhere.iff_parts]
    simp [holds, parts, holds_iff content]

theorem holdsItems_iff : ∀ ys : List Yaml, holdsItems p ys = true ↔ ∀ y ∈ ys, y.Everywhere p
  | [] => by simp [holdsItems]
  | y :: ys => by simp [holdsItems, holds_iff y, holdsItems_iff ys]

theorem holdsEntries_iff : ∀ es : List (Yaml × Yaml),
    holdsEntries p es = true ↔ ∀ e ∈ es, e.1.Everywhere p ∧ e.2.Everywhere p
  | [] => by simp [holdsEntries]
  | (k, v) :: es => by simp [holdsEntries, holds_iff k, holds_iff v, holdsEntries_iff es]

end

instance : DecidablePred (Everywhere p) := fun y => decidable_of_iff _ (holds_iff y)

end Deciding

/-- Whether a value has a tag of its own. -/
def hasTag : Yaml → Bool
  | .tagged .. => true
  | _ => false

/-- No value in a value has a tag of its own. -/
def TagFree (y : Yaml) : Prop := y.Everywhere (·.hasTag = false)

instance : DecidablePred TagFree := inferInstanceAs (DecidablePred (Everywhere _))

/-- No two keys of the value are the same, if it is a mapping. -/
def KeysDiffer : Yaml → Prop
  | .map entries => entries.Pairwise fun a b => same a.1 b.1 = false
  | _ => True

/-- No mapping in a value has two keys that are the same. -/
def DistinctKeys (y : Yaml) : Prop := y.Everywhere KeysDiffer

/-! ## Reading keeps keys apart -/

/-- The entries of a mapping that is read have no two keys that are the same. -/
theorem distinctEntries?_eq_some {es out : List (Yaml × Yaml)}
    (h : distinctEntries? es = some out) :
    out = es ∧ es.Pairwise fun a b => same a.1 b.1 = false := by
  induction es generalizing out with
  | nil =>
    obtain rfl := Option.some.inj h
    exact ⟨rfl, .nil⟩
  | cons e es ih =>
    rw [distinctEntries?] at h
    split at h
    · cases h
    · next absent =>
      obtain ⟨rest, hrest, rfl⟩ := Option.map_eq_some_iff.1 h
      obtain ⟨rfl, distinct⟩ := ih hrest
      exact ⟨rfl, List.pairwise_cons.2 ⟨by simpa using absent, distinct⟩⟩

/-- What every step of a run over a list gives, the results have. -/
theorem forall_mem_of_mapM {f : α → Spending β} {p : β → Prop} {l : List α}
    (step : ∀ a ∈ l, ∀ n b n', f a n = some (b, n') → p b) {n n' : Nat} {bs : List β}
    (h : l.mapM f n = some (bs, n')) : ∀ b ∈ bs, p b := by
  induction l generalizing n bs with
  | nil =>
    rw [List.mapM_nil] at h
    obtain ⟨rfl, rfl⟩ := Prod.mk.inj (Option.some.inj h)
    simp
  | cons a l ih =>
    rw [List.mapM_cons] at h
    obtain ⟨⟨b, m⟩, hb, h⟩ := Option.bind_eq_some_iff.1 h
    obtain ⟨⟨rest, m'⟩, hrest, h⟩ := Option.bind_eq_some_iff.1 h
    obtain ⟨rfl, rfl⟩ := Prod.mk.inj (Option.some.inj h)
    intro c hc
    rcases List.mem_cons.1 hc with rfl | hc
    · exact step a (List.mem_cons_self ..) _ _ _ hb
    · exact ih (fun a ha => step a (List.mem_cons_of_mem _ ha)) hrest c hc

/-- A value without values inside has no keys. -/
theorem distinctKeys_of_parts_eq_nil {y : Yaml} (h : y.parts = []) : y.DistinctKeys := by
  refine .leaf ?_ h
  cases y with
  | map entries =>
    cases entries with
    | nil => exact .nil
    | cons e es => simp [parts] at h
  | _ => trivial

/-- A scalar has no values inside. -/
theorem parts_of_scalarValue? {named : Bool} {s : String} {style : Style} {tag : Option String}
    {y : Yaml} (h : scalarValue? named s style tag = some y) : y.parts = [] := by
  have plain {y : Yaml} (h : ofScalar? s style = some y) : y.parts = [] := by
    rw [ofScalar?] at h
    split at h
    · rw [ofPlain?] at h
      split at h <;> cases h <;> rfl
    · cases h
      rfl
  rw [scalarValue?.eq_def] at h
  split at h
  · next t =>
    rw [ofTaggedScalar?] at h
    split at h
    · obtain ⟨b, -, rfl⟩ := Option.map_eq_some_iff.1 h
      rfl
    · split at h
      · split at h <;> cases h
        rfl
      · split at h
        · obtain ⟨x, -, rfl⟩ := Option.map_eq_some_iff.1 h
          rfl
        · split at h
          · split at h <;> cases h
            rfl
          · cases h
            rfl
  · exact plain h

/-- A tag around a value has no keys. -/
theorem DistinctKeys.tagged {y : Yaml} (h : y.DistinctKeys) (tag : String) :
    (Yaml.tagged tag y).DistinctKeys := by
  refine .intro trivial fun z hz => ?_
  obtain rfl := List.mem_singleton.1 hz
  exact h

/-- A mapping of distinct text keys has no two that are the same if its values have none. -/
theorem DistinctKeys.dict {es : List (String × Yaml)} (keys : (es.map (·.1)).Nodup)
    (inside : ∀ e ∈ es, e.2.DistinctKeys) : (Yaml.dict es).DistinctKeys := by
  refine .map ?_ fun e there => ?_
  · refine List.pairwise_map.2 ((List.pairwise_map.1 keys).imp fun {a b} differ => ?_)
    simpa [same] using differ
  · obtain ⟨e, mem, rfl⟩ := List.mem_map.1 there
    exact ⟨distinctKeys_of_parts_eq_nil rfl, inside e mem⟩

/-- The value of a node has no mapping with two keys that are the same when this holds of the nodes
inside. -/
theorem Graph.distinctKeys_valueWith (g : Graph) {inner : Option (Bool → Node → Spending Yaml)}
    (inside : ∀ value ∈ inner, ∀ named node n y n',
      value named node n = some (y, n') → y.DistinctKeys)
    {named : Bool} {node : Node} {n n' : Nat} {y : Yaml}
    (h : g.valueWith inner named node n = some (y, n')) : y.DistinctKeys := by
  rw [valueWith] at h
  obtain ⟨⟨⟨node, aliased⟩, m⟩, -, h⟩ := Option.bind_eq_some_iff.1 h
  dsimp only at h
  split at h
  · obtain ⟨⟨z, m'⟩, hz, h⟩ := Option.bind_eq_some_iff.1 h
    obtain ⟨rfl, -⟩ := Prod.mk.inj (Option.some.inj h)
    obtain ⟨z', hz', hz⟩ := Option.bind_eq_some_iff.1 hz
    obtain ⟨rfl, -⟩ := Prod.mk.inj (Option.some.inj hz)
    have distinct := distinctKeys_of_parts_eq_nil (parts_of_scalarValue? hz')
    split
    · exact distinct.tagged _
    · exact distinct
  · obtain ⟨⟨ys, m'⟩, hys, h⟩ := Option.bind_eq_some_iff.1 h
    obtain ⟨rfl, -⟩ := Prod.mk.inj (Option.some.inj h)
    have distinct : (Yaml.seq ys).DistinctKeys :=
      .intro trivial
        (forall_mem_of_mapM (fun node _ n z n' => inside _ rfl false node n z n') hys)
    split
    · exact distinct.tagged _
    · exact distinct
  · obtain ⟨⟨es, m'⟩, hes, h⟩ := Option.bind_eq_some_iff.1 h
    obtain ⟨⟨out, m''⟩, hout, h⟩ := Option.bind_eq_some_iff.1 h
    obtain ⟨rfl, -⟩ := Prod.mk.inj (Option.some.inj h)
    obtain ⟨out', hout', hout⟩ := Option.bind_eq_some_iff.1 hout
    obtain ⟨rfl, -⟩ := Prod.mk.inj (Option.some.inj hout)
    obtain ⟨rfl, keys⟩ := distinctEntries?_eq_some hout'
    have distinct : (Yaml.map out').DistinctKeys := by
      refine .map keys (forall_mem_of_mapM ?_ hes)
      intro e _ n entry n' he
      obtain ⟨⟨k, l⟩, hk, he⟩ := Option.bind_eq_some_iff.1 he
      obtain ⟨⟨v, l'⟩, hv, he⟩ := Option.bind_eq_some_iff.1 he
      obtain ⟨rfl, -⟩ := Prod.mk.inj (Option.some.inj he)
      exact ⟨inside _ rfl _ _ _ _ _ hk, inside _ rfl _ _ _ _ _ hv⟩
    split
    · exact distinct.tagged _
    · exact distinct
  · cases h

/-- The value of a node has no mapping with two keys that are the same. -/
theorem Graph.distinctKeys_value (g : Graph) (depth : Nat) {named : Bool} {node : Node}
    {n n' : Nat} {y : Yaml} (h : g.value depth named node n = some (y, n')) : y.DistinctKeys := by
  induction depth generalizing named node n n' y with
  | zero => exact g.distinctKeys_valueWith (fun value hv => by cases hv) h
  | succ depth ih =>
    refine g.distinctKeys_valueWith (fun value hv named node n y n' hy => ?_) h
    obtain rfl := Option.some.inj hv
    exact ih hy

/-- A text writes no mapping with two keys that are the same. -/
theorem distinctKeys_of_ofText? {s : String} {y : Yaml} (h : ofText? s = some y) :
    y.DistinctKeys := by
  obtain ⟨g, -, h⟩ := Option.bind_eq_some_iff.1 h
  obtain ⟨⟨z, n⟩, hz, rfl⟩ := Option.map_eq_some_iff.1 h
  exact g.distinctKeys_value depthLimit hz

end WorkloadForms.Yaml
