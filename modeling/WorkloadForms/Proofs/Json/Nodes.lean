import WorkloadForms.Proofs.Json.Tokens
import WorkloadForms.Proofs.Yaml.Node
import WorkloadForms.Yaml.Reading

/-!
# JSON read as YAML

The document that a reader of YAML finds in a JSON text (`graph_of_pretty`): the nodes of the value,
if its texts are legible and its names are simple keys, and none otherwise.
-/

namespace WorkloadForms

namespace Json

open Yaml (Token Node heard)
open Yaml.Scanner (isSimple nameTokens)
open Yaml.Graph

mutual

/-- The names of all members of a value. -/
def names : Json → List String
  | .list items => itemNames items
  | .object members => memberNames members
  | _ => []

/-- The names in items. -/
def itemNames : List Json → List String
  | [] => []
  | item :: items => names item ++ itemNames items

/-- The names of members and in their values. -/
def memberNames : List (String × Json) → List String
  | [] => []
  | (name, value) :: members => name :: (names value ++ memberNames members)

end

mutual

/-- The node that a value is read as. -/
def node : Json → Node
  | .text s => .scalar (heard s) .quoted none
  | .list items => .seq none (itemNodes items)
  | .object members => .map none (memberNodes members)
  | scalar => .scalar (String.ofList (scalarChars scalar)) .plain none

/-- The nodes of items. -/
def itemNodes : List Json → List Node
  | [] => []
  | item :: items => node item :: itemNodes items

/-- The nodes of members. -/
def memberNodes : List (String × Json) → List (Node × Node)
  | [] => []
  | (name, value) :: members =>
    (.scalar (heard name) .quoted none, node value) :: memberNodes members

end

/-- The tokens of items, of which the first may need a comma, up to the bracket. -/
def itemRest (first : Bool) : List Json → List Token
  | [] => [.flowSequenceEnd]
  | item :: items => comma first (tokens item ++ itemRest false items)

/-- The tokens of members, of which the first may need a comma, up to the brace. -/
def memberRest (first : Bool) : List (String × Json) → List Token
  | [] => [.flowMappingEnd]
  | (name, value) :: members =>
    comma first (nameTokens name ++ (tokens value ++ memberRest false members))

/-- The tokens of items are those up to the bracket. -/
theorem itemTokens_end (items : List Json) :
    itemTokens items ++ [.flowSequenceEnd] = itemRest true items := by
  have go (item : Json) (items : List Json) :
      itemTokens (item :: items) ++ [.flowSequenceEnd] = tokens item ++ itemRest false items := by
    induction items generalizing item with
    | nil => simp [itemTokens, itemRest]
    | cons next items ih =>
      have several : itemTokens (item :: next :: items)
          = item.tokens ++ .flowEntry :: itemTokens (next :: items) := rfl
      rw [several, List.append_assoc, List.cons_append, ih]
      rfl
  cases items with
  | nil => rfl
  | cons item items => exact go item items

/-- The tokens of members are those up to the brace. -/
theorem memberTokens_end (members : List (String × Json)) :
    memberTokens members ++ [.flowMappingEnd] = memberRest true members := by
  have go (name : String) (value : Json) (members : List (String × Json)) :
      memberTokens ((name, value) :: members) ++ [.flowMappingEnd]
        = nameTokens name ++ (tokens value ++ memberRest false members) := by
    induction members generalizing name value with
    | nil => simp [memberTokens, memberRest]
    | cons next members ih =>
      have several : memberTokens ((name, value) :: next :: members)
          = nameTokens name ++ value.tokens ++ .flowEntry :: memberTokens (next :: members) := rfl
      rw [several, List.append_assoc, List.cons_append, ih next.1 next.2, List.append_assoc]
      rfl
  cases members with
  | nil => rfl
  | cons member members => exact go member.1 member.2 members

/-- The tokens of a value start a node. -/
theorem tokens_starts (j : Json) : ∃ t ts, j.tokens = t :: ts ∧ StartsNode t := by
  cases j with
  | list items => exact ⟨_, _, rfl, .inl rfl⟩
  | object members => exact ⟨_, _, rfl, .inr (.inl rfl)⟩
  | bool b => cases b <;> exact ⟨_, _, rfl, .inr (.inr ⟨_, _, rfl⟩)⟩
  | _ => exact ⟨_, _, rfl, .inr (.inr ⟨_, _, rfl⟩)⟩

/-- What a step gives that takes a thing and stops in front of `ts`, and fails if a name is not
simple. -/
def Takes (names : List String) (thing : α) (ts : List Token) (r : Reading)
    (given : Option (α × Reading)) : Prop :=
  (names.all isSimple = true ∧ ∃ k, given = some (thing, r.after ts k)) ∨
    (names.all isSimple = false ∧ given = none)

section
variable {names names' : List String} {ts ts' us : List Token} {r : Reading}

/-- A step takes a thing that is made of another one which another step takes. -/
theorem Takes.map {a : α} {b : β} {given : Option (α × Reading)} {k : Nat} (f : α → β)
    (made : f a = b) (h : Takes names a ts { r with tokens := us } given) :
    Takes names b ts r (given.map fun p => (f p.1, p.2.after p.2.tokens k)) := by
  rcases h with ⟨simple, m, rfl⟩ | ⟨other, rfl⟩
  · refine .inl ⟨simple, m + k, ?_⟩
    simp [Reading.after, made, Nat.add_assoc]
  · exact .inr ⟨other, rfl⟩

/-- Two steps take two things one after the other. -/
theorem Takes.bind {a : α} {b : β} {c : γ} {given : Option (α × Reading)} {m : Nat}
    {next : Reading → Option (β × Reading)} (f : α → β → γ) (made : f a b = c)
    (first : Takes names a ts (r.after us m) given)
    (second : ∀ k, Takes names' b ts' (r.after ts k) (next (r.after ts k))) :
    Takes (names ++ names') c ts' r
      (given.bind fun p => (next p.2).map fun q => (f p.1 q.1, q.2)) := by
  rcases first with ⟨simple, k, rfl⟩ | ⟨other, rfl⟩
  · have moved : (r.after us m).after ts k = r.after ts (m + k) := by
      simp [Reading.after, Nat.add_assoc]
    rcases second (m + k) with ⟨simple', k', taken⟩ | ⟨other', failed⟩
    · refine .inl ⟨by rw [List.all_append, simple, simple']; rfl, m + k + k', ?_⟩
      rw [Option.bind_some, moved, taken, Option.map_some]
      simp [Reading.after, made, Nat.add_assoc]
    · refine .inr ⟨by rw [List.all_append, other', Bool.and_false], ?_⟩
      rw [Option.bind_some, moved, failed, Option.map_none]
  · exact .inr ⟨by rw [List.all_append, other, Bool.false_and], rfl⟩

end

mutual

/-- A value is read as its node if its names are simple. -/
theorem takes_value (j : Json) {r : Reading} {rest : List Token} {n : Nat}
    (h : r.tokens = j.tokens ++ rest) (fuel : j.tokens.length ≤ n) (inBlock dashes : Bool) :
    Takes j.names j.node rest r (Yaml.Graph.node inBlock dashes n r) := by
  obtain ⟨n, rfl⟩ : ∃ m, n = m + 1 := by
    obtain ⟨t, ts, form, -⟩ := tokens_starts j
    rw [form, List.length_cons] at fuel
    exact ⟨n - 1, by omega⟩
  match j with
  | .list items =>
    have opened : r.tokens = .flowSequenceStart :: (itemRest true items ++ rest) := by
      rw [h, ← itemTokens_end]
      simp [tokens]
    have inside : (itemRest true items).length ≤ n := by
      rw [← itemTokens_end]
      simpa [tokens] using fuel
    rw [node_sequence opened]
    exact (takes_items items rfl inside).map (Node.seq none) rfl
  | .object members =>
    have opened : r.tokens = .flowMappingStart :: (memberRest true members ++ rest) := by
      rw [h, ← memberTokens_end]
      simp [tokens]
    have inside : (memberRest true members).length ≤ n := by
      rw [← memberTokens_end]
      simpa [tokens] using fuel
    rw [node_mapping opened]
    exact (takes_members members rfl inside).map (Node.map none) rfl
  | .text s => exact .inl ⟨rfl, 1, node_scalar h n⟩
  | .null => exact .inl ⟨rfl, 1, node_scalar h n⟩
  | .bool true => exact .inl ⟨rfl, 1, node_scalar h n⟩
  | .bool false => exact .inl ⟨rfl, 1, node_scalar h n⟩
  | .int m => exact .inl ⟨rfl, 1, node_scalar h n⟩
  | .decimal l => exact .inl ⟨rfl, 1, node_scalar h n⟩

/-- Items are read as their nodes if their names are simple. -/
theorem takes_items (items : List Json) {r : Reading} {rest : List Token} {n : Nat} {first : Bool}
    (h : r.tokens = itemRest first items ++ rest) (fuel : (itemRest first items).length ≤ n) :
    Takes (itemNames items) (itemNodes items) rest r (flowItems first n r) := by
  match items with
  | [] =>
    obtain ⟨n, rfl⟩ : ∃ m, n = m + 1 := ⟨n - 1, by simp [itemRest] at fuel; omega⟩
    exact .inl ⟨rfl, 0, flowItems_end h n⟩
  | item :: items =>
    obtain ⟨t, ts, form, starts⟩ := tokens_starts item
    have length : item.tokens.length + (itemRest false items).length
        ≤ (itemRest first (item :: items)).length := by
      cases first <;> simp [itemRest, comma]
    have some : 0 < item.tokens.length ∧ 0 < (itemRest false items).length := by
      constructor
      · simp [form]
      · cases items <;> simp [itemRest, comma]
    obtain ⟨n, rfl⟩ : ∃ m, n = m + 1 := ⟨n - 1, by omega⟩
    have apart : r.tokens = comma first (t :: (ts ++ (itemRest false items ++ rest))) := by
      rw [h, itemRest, form]
      cases first <;> simp [comma]
    rw [flowItems_item apart starts]
    have tokens : t :: (ts ++ (itemRest false items ++ rest))
        = item.tokens ++ (itemRest false items ++ rest) := by rw [form]; rfl
    rw [tokens]
    refine Takes.bind (m := 0) (· :: ·) rfl (takes_value item rfl (by omega) false false)
      fun k => takes_items items rfl (by omega)

/-- Members are read as their nodes if their names are simple. -/
theorem takes_members (members : List (String × Json)) {r : Reading} {rest : List Token} {n : Nat}
    {first : Bool} (h : r.tokens = memberRest first members ++ rest)
    (fuel : (memberRest first members).length ≤ n) :
    Takes (memberNames members) (memberNodes members) rest r (flowEntries first n r) := by
  match members with
  | [] =>
    obtain ⟨n, rfl⟩ : ∃ m, n = m + 1 := ⟨n - 1, by simp [memberRest] at fuel; omega⟩
    exact .inl ⟨rfl, 0, flowEntries_end h n⟩
  | (name, value) :: members =>
    cases simple : isSimple name with
    | false =>
      have apart : r.tokens = comma first (.scalar (heard name) .quoted :: .value ::
          (value.tokens ++ (memberRest false members ++ rest))) := by
        rw [h, memberRest, nameTokens, simple]
        cases first <;> simp [comma]
      exact .inr ⟨by simp [memberNames, simple], flowEntries_bare apart n⟩
    | true =>
      obtain ⟨t, ts, form, starts⟩ := tokens_starts value
      have length : 3 + value.tokens.length + (memberRest false members).length
          ≤ (memberRest first ((name, value) :: members)).length := by
        cases first <;> simp [memberRest, comma, nameTokens, simple] <;> omega
      obtain ⟨n, rfl⟩ : ∃ m, n = m + 2 := ⟨n - 2, by omega⟩
      have apart : r.tokens = comma first (.key :: .scalar (heard name) .quoted :: .value :: t ::
          (ts ++ (memberRest false members ++ rest))) := by
        rw [h, memberRest, nameTokens, simple, form]
        cases first <;> simp [comma]
      have tokens : t :: (ts ++ (memberRest false members ++ rest))
          = value.tokens ++ (memberRest false members ++ rest) := by rw [form]; rfl
      have names : (memberNames ((name, value) :: members)).all isSimple
          = (value.names ++ memberNames members).all isSimple := by
        rw [memberNames, List.all_cons, simple, Bool.true_and]
      rw [flowEntries_entry apart starts, tokens, Takes, names]
      refine Takes.bind (m := 1) (fun v vs => ((.scalar (heard name) .quoted none, v) :: vs)) rfl
        (takes_value value rfl ?_ false false) fun k => takes_members members rfl ?_
      · omega
      · omega

end

/-- The tokens of an object are the document of its node if its names are simple. -/
theorem graph_of_tokens (members : List (String × Json)) :
    ∃ size, Yaml.Graph.ofTokens? (Json.object members).tokens
      = if (Json.object members).names.all isSimple
        then some ⟨(Json.object members).node, .none, size⟩ else none := by
  obtain ⟨ts, form⟩ : ∃ ts, (Json.object members).tokens = .flowMappingStart :: ts := ⟨_, rfl⟩
  have taken : Takes (Json.object members).names (Json.object members).node []
      ⟨.flowMappingStart :: ts, allHandles [], .none, 0⟩ _ :=
    takes_value (Json.object members) (n := 3 * (ts.length + 1) + 3) (by rw [form, List.append_nil])
      (by rw [form, List.length_cons]; omega) true false
  rcases taken with ⟨simple, size, read⟩ | ⟨other, failed⟩
  · refine ⟨size, ?_⟩
    rw [form, simple, if_pos rfl, Yaml.Graph.ofTokens?]
    simp [directives, read, Reading.after]
  · refine ⟨0, ?_⟩
    rw [form, other, Yaml.Graph.ofTokens?]
    simp [directives, failed]

/-- The text of an object writes the document of its node if its texts are legible and its names
simple; else it writes none. -/
theorem graph_of_pretty {members : List (String × Json)} (filled : members ≠ [])
    (whole : haveWhole members = true) :
    ∃ size, Yaml.Graph.ofText? ((Json.object members).pretty ++ "\n")
      = if (Json.object members).texts.all isLegible && (Json.object members).names.all isSimple
        then some ⟨(Json.object members).node, .none, size⟩ else none := by
  obtain ⟨size, read⟩ := graph_of_tokens members
  refine ⟨size, ?_⟩
  rw [Yaml.Graph.ofText?, tokens_of_pretty filled whole]
  cases (Json.object members).texts.all isLegible with
  | true => exact read
  | false => rfl

end Json

end WorkloadForms
