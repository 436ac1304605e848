import WorkloadForms.Yaml.Node

/-!
# Reading flow collections

The steps in which nodes are read from tokens, for flow collections without anchors and tags: a
scalar (`node_scalar`), a sequence with its items (`node_sequence`, `flowItems_item`) and a mapping
with its entries (`node_mapping`, `flowEntries_entry`). An entry whose scalar is no key is refused
(`flowEntries_bare`).
-/

namespace WorkloadForms

namespace Yaml.Graph

/-! ## Single steps -/

section
variable {r : Reading} {t u : Token} {ts : List Token}

theorem bind_apply (x : Step α) (f : α → Step β) (r : Reading) :
    (x >>= f) r = (x r).bind fun p => f p.1 p.2 := by
  rfl

theorem peek_apply (h : r.tokens = t :: ts) : peek r = some (some t, r) := by
  change some (r.tokens.head?, r) = _
  rw [h]
  rfl

theorem skip_apply (h : r.tokens = t :: ts) : skip r = some ((), { r with tokens := ts }) := by
  change some ((), { r with tokens := r.tokens.drop 1 }) = _
  rw [h]
  rfl

theorem accept_self (h : r.tokens = t :: ts) :
    accept t r = some (true, { r with tokens := ts }) := by
  rw [accept, bind_apply, peek_apply h, Option.bind_some]
  simp only [beq_self_eq_true, if_true]
  rw [bind_apply, skip_apply h]
  rfl

theorem accept_other (h : r.tokens = t :: ts) (other : t ≠ u) : accept u r = some (false, r) := by
  rw [accept, bind_apply, peek_apply h, Option.bind_some]
  have : (some t == some u) = false := beq_false_of_ne (by simpa using other)
  simp only [this, Bool.false_eq_true, if_false]
  rfl

theorem endsAt_other {us : List Token} (h : r.tokens = t :: ts) (other : us.contains t = false) :
    endsAt us r = some (false, r) := by
  rw [endsAt, bind_apply, peek_apply h, Option.bind_some]
  simp only [other]
  rfl

theorem properties_none (h : r.tokens = t :: ts) (anchor : ∀ name, t ≠ .anchor name)
    (tag : ∀ name, t ≠ .tag name) : properties r = some ((none, none), r) := by
  rw [properties, bind_apply, peek_apply h, Option.bind_some]
  cases t <;> first | rfl | exact absurd rfl (anchor _) | exact absurd rfl (tag _)

end

/-- What remains to be read behind a part, which may have counted `k` times. -/
def Reading.after (r : Reading) (ts : List Token) (k : Nat) : Reading :=
  { r with tokens := ts, size := r.size + k }

/-! ## Nodes -/

section
variable {r : Reading} {ts : List Token} {inBlock dashes : Bool}

theorem pure_apply (a : α) (r : Reading) : (pure a : Step α) r = some (a, r) := rfl

theorem tick_apply (r : Reading) : tick r = some ((), { r with size := r.size + 1 }) := rfl

theorem anchored_none (read : Step Node) : anchored none read = read := rfl

/-- A scalar is read. -/
theorem node_scalar {content : String} {style : Style} (h : r.tokens = .scalar content style :: ts)
    (n : Nat) :
    node inBlock dashes (n + 1) r = some (.scalar content style none, r.after ts 1) := by
  rw [node, bind_apply, peek_apply h, Option.bind_some]
  simp only []
  rw [bind_apply, properties_none h (by simp) (by simp), Option.bind_some]
  simp only [bind_apply, pure_apply, Option.bind_some, anchored_none, peek_apply h, skip_apply h,
    tick_apply]
  rfl

/-- A flow sequence is read with its items. -/
theorem node_sequence (h : r.tokens = .flowSequenceStart :: ts) (n : Nat) :
    node inBlock dashes (n + 1) r = (flowItems true n { r with tokens := ts }).map fun p =>
      (.seq none p.1, p.2.after p.2.tokens 2) := by
  rw [node, bind_apply, peek_apply h, Option.bind_some]
  simp only []
  rw [bind_apply, properties_none h (by simp) (by simp), Option.bind_some]
  simp only [bind_apply, pure_apply, Option.bind_some, anchored_none, peek_apply h, skip_apply h]
  cases flowItems true n { r with tokens := ts } <;> rfl

/-- A flow mapping is read with its entries. -/
theorem node_mapping (h : r.tokens = .flowMappingStart :: ts) (n : Nat) :
    node inBlock dashes (n + 1) r = (flowEntries true n { r with tokens := ts }).map fun p =>
      (.map none p.1, p.2.after p.2.tokens 2) := by
  rw [node, bind_apply, peek_apply h, Option.bind_some]
  simp only []
  rw [bind_apply, properties_none h (by simp) (by simp), Option.bind_some]
  simp only [bind_apply, pure_apply, Option.bind_some, anchored_none, peek_apply h, skip_apply h]
  cases flowEntries true n { r with tokens := ts } <;> rfl

end

/-! ## Items -/

/-- A token that a node of a flow collection starts with. -/
def StartsNode (t : Token) : Prop :=
  t = .flowSequenceStart ∨ t = .flowMappingStart ∨ ∃ content style, t = .scalar content style

section
variable {r : Reading} {t : Token} {ts : List Token}

/-- The comma that stands before an item or entry, unless it is the first. -/
def comma (first : Bool) (ts : List Token) : List Token := if first then ts else .flowEntry :: ts

/-- In front of an item or entry stands the comma that it needs. -/
theorem separated_comma {first : Bool} (h : r.tokens = comma first (t :: ts)) :
    separated first r = some (true, { r with tokens := t :: ts }) := by
  cases first with
  | true =>
    obtain ⟨tokens, handles, anchors, size⟩ := r
    subst h
    rfl
  | false => exact accept_self h

/-- An item or entry starts with another token than `u`, which is no comma. -/
theorem accept_comma {first : Bool} {u : Token} (h : r.tokens = comma first (t :: ts))
    (other : t ≠ u) (noComma : .flowEntry ≠ u) : accept u r = some (false, r) := by
  cases first with
  | true => exact accept_other h other
  | false => exact accept_other h noComma

/-- A flow sequence ends at its bracket. -/
theorem flowItems_end {first : Bool} (h : r.tokens = .flowSequenceEnd :: ts) (n : Nat) :
    flowItems first (n + 1) r = some ([], { r with tokens := ts }) := by
  rw [flowItems, bind_apply, accept_self h]
  rfl

/-- An item of a flow sequence is read as a node. -/
theorem flowItems_item {first : Bool} (h : r.tokens = comma first (t :: ts)) (starts : StartsNode t)
    (n : Nat) :
    flowItems first (n + 1) r = (node false false n { r with tokens := t :: ts }).bind fun p =>
      (flowItems false n p.2).map fun q => (p.1 :: q.1, q.2) := by
  have other : t ≠ .flowSequenceEnd ∧ t ≠ .key := by
    rcases starts with rfl | rfl | ⟨content, style, rfl⟩ <;> simp
  rw [flowItems, bind_apply, accept_comma h other.1 (by simp), Option.bind_some]
  simp only [Bool.false_eq_true, if_false]
  rw [bind_apply, separated_comma h, Option.bind_some]
  simp only [Bool.not_true, Bool.false_eq_true, if_false]
  rw [bind_apply, accept_other rfl other.2, Option.bind_some]
  simp only [Bool.false_eq_true, if_false]
  rw [bind_apply, accept_other rfl other.1, Option.bind_some]
  simp only [Bool.false_eq_true, if_false]
  rw [bind_apply]
  congr 1
  funext p
  rw [bind_apply]
  cases flowItems false n p.2 <;> rfl

/-! ## Entries -/

/-- A flow mapping ends at its brace. -/
theorem flowEntries_end {first : Bool} (h : r.tokens = .flowMappingEnd :: ts) (n : Nat) :
    flowEntries first (n + 1) r = some ([], { r with tokens := ts }) := by
  rw [flowEntries, bind_apply, accept_self h]
  rfl

/-- An entry of a flow mapping is read with its key, a scalar, and its value. -/
theorem flowEntries_entry {first : Bool} {content : String} {style : Style}
    (h : r.tokens = comma first (.key :: .scalar content style :: .value :: t :: ts))
    (starts : StartsNode t) (n : Nat) :
    flowEntries first (n + 2) r
      = (node false false (n + 1) (r.after (t :: ts) 1)).bind fun p =>
        (flowEntries false (n + 1) p.2).map fun q =>
          ((.scalar content style none, p.1) :: q.1, q.2) := by
  have other : t ≠ .flowEntry ∧ t ≠ .flowMappingEnd := by
    rcases starts with rfl | rfl | ⟨content, style, rfl⟩ <;> simp
  rw [flowEntries, bind_apply, accept_comma h (by simp) (by simp), Option.bind_some]
  simp only [Bool.false_eq_true, if_false]
  rw [bind_apply, separated_comma h, Option.bind_some]
  simp only [Bool.not_true, Bool.false_eq_true, if_false]
  rw [bind_apply, accept_self rfl, Option.bind_some]
  simp only [if_true]
  rw [bind_apply, endsAt_other rfl (by simp), Option.bind_some]
  simp only [Bool.false_eq_true, if_false]
  rw [bind_apply, node_scalar rfl, Option.bind_some]
  simp only []
  rw [bind_apply, accept_self rfl, Option.bind_some]
  simp only [if_true]
  rw [bind_apply, endsAt_other rfl (by simp [other]), Option.bind_some]
  simp only [Bool.false_eq_true, if_false]
  rw [bind_apply]
  congr 1
  funext p
  rw [bind_apply]
  cases flowEntries false (n + 1) p.2 <;> rfl

/-- A scalar with a value that is no key is refused. -/
theorem flowEntries_bare {first : Bool} {content : String} {style : Style}
    (h : r.tokens = comma first (.scalar content style :: .value :: ts)) (n : Nat) :
    flowEntries first n r = none := by
  cases n with
  | zero => rfl
  | succ n =>
    rw [flowEntries, bind_apply, accept_comma h (by simp) (by simp), Option.bind_some]
    simp only [Bool.false_eq_true, if_false]
    rw [bind_apply, separated_comma h, Option.bind_some]
    simp only [Bool.not_true, Bool.false_eq_true, if_false]
    rw [bind_apply, accept_other rfl (by simp), Option.bind_some]
    simp only [Bool.false_eq_true, if_false]
    rw [bind_apply, accept_other rfl (by simp), Option.bind_some]
    simp only [Bool.false_eq_true, if_false]
    cases n with
    | zero => rfl
    | succ n =>
      have stuck (q : Reading) (h : q.tokens = .value :: ts) :
          flowEntries false (n + 1) q = none := by
        rw [flowEntries, bind_apply, accept_other h (by simp), Option.bind_some]
        simp only [Bool.false_eq_true, if_false]
        have apart : separated false q = some (false, q) := accept_other h (by simp)
        rw [bind_apply, apart, Option.bind_some]
        rfl
      rw [bind_apply, node_scalar rfl, Option.bind_some]
      simp only []
      rw [bind_apply, absent, bind_apply, tick_apply, Option.bind_some, pure_apply,
        Option.bind_some, bind_apply, stuck _ rfl]
      rfl

end

end Yaml.Graph

end WorkloadForms
