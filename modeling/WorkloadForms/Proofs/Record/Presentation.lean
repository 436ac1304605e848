import WorkloadForms.Proofs.Json.Nodes
import WorkloadForms.Record.Codec

/-!
# JSON values presented as sources

A JSON value can be read as it is (`Presentation.json`), from its text as it arrives
(`Presentation.document`), or from the YAML document that its text is (`Presentation.yaml`).
`Presentation` collects what these have in common: which source stands for a value, how its texts
are heard, and what each reading of a source gives. Variants are the one thing that YAML has no
source for, since it wants a tag where JSON has the name of a member.
-/

namespace WorkloadForms

open Source (orMismatch)

/-- A text without line breaks that JSON leaves as they stand. -/
def Text.isClear (s : String) : Bool := s.toList.all fun c => !Yaml.isRawBreak c

namespace Json

mutual

/-- The value with all texts replaced, the names of members among them. -/
def mapTexts (f : String → String) : Json → Json
  | .text s => .text (f s)
  | .list items => .list (mapItems f items)
  | .object members => .object (mapMembers f members)
  | scalar => scalar

/-- The items with all texts replaced. -/
def mapItems (f : String → String) : List Json → List Json
  | [] => []
  | item :: items => mapTexts f item :: mapItems f items

/-- The members with all texts replaced. -/
def mapMembers (f : String → String) : List (String × Json) → List (String × Json)
  | [] => []
  | (name, value) :: members => (f name, mapTexts f value) :: mapMembers f members

end

/-- The texts of items are replaced in each. -/
theorem mapItems_eq (f : String → String) (items : List Json) :
    mapItems f items = items.map (mapTexts f) := by
  induction items with
  | nil => rfl
  | cons item items ih => rw [mapItems, ih, List.map_cons]

/-- The texts of members are replaced in each. -/
theorem mapMembers_eq (f : String → String) (members : List (String × Json)) :
    mapMembers f members = members.map fun m => (f m.1, mapTexts f m.2) := by
  induction members with
  | nil => rfl
  | cons member members ih => rw [mapMembers, ih, List.map_cons]

mutual

/-- A value stays when each of its texts does. -/
theorem mapTexts_eq_self {f : String → String} (j : Json) (same : ∀ s ∈ j.texts, f s = s) :
    j.mapTexts f = j := by
  match j with
  | .text s => rw [mapTexts, same s (by simp [texts])]
  | .list items => rw [mapTexts, mapItems_eq_self items same]
  | .object members => rw [mapTexts, mapMembers_eq_self members same]
  | .null => rfl
  | .bool _ => rfl
  | .int _ => rfl
  | .decimal _ => rfl

/-- Items stay when each of their texts does. -/
theorem mapItems_eq_self {f : String → String} (items : List Json)
    (same : ∀ s ∈ itemTexts items, f s = s) : mapItems f items = items := by
  match items with
  | [] => rfl
  | item :: items =>
    rw [mapItems, mapTexts_eq_self item fun s there => same s (List.mem_append_left _ there),
      mapItems_eq_self items fun s there => same s (List.mem_append_right _ there)]

/-- Members stay when each of their texts does. -/
theorem mapMembers_eq_self {f : String → String} (members : List (String × Json))
    (same : ∀ s ∈ memberTexts members, f s = s) : mapMembers f members = members := by
  match members with
  | [] => rfl
  | (name, value) :: members =>
    have inside : ∀ s ∈ value.texts ++ memberTexts members, f s = s := fun s there =>
      same s (List.mem_cons_of_mem _ there)
    rw [mapMembers, same name List.mem_cons_self,
      mapTexts_eq_self value fun s there => inside s (List.mem_append_left _ there),
      mapMembers_eq_self members fun s there => inside s (List.mem_append_right _ there)]

end

end Json

/-- A way in which JSON values are presented to be read. A value stands where `n` collections may
still be opened, `hear` says which text is read for a text, and `variants` whether variants can
be read. -/
structure Presentation where
  source : Nat → Json → Source
  hear : String → String
  variants : Bool
  hear_clear (s : String) : Text.isClear s = true → hear s = s
  resolved (n : Nat) (j : Json) : (source n j).resolved = pure (source n j)
  isAbsent (n : Nat) (j : Json) :
    j.isWhole = true → j ≠ .null → (source n j).isAbsent = pure false
  text (n : Nat) (s : String) : (source n (.text s)).text = pure (hear s)
  int (n : Nat) (i : Int) : (source n (.int i)).int = pure i
  flag (n : Nat) (b : Bool) : (source n (.bool b)).flag = pure b
  items (n : Nat) (js : List Json) :
    (source (n + 1) (.list js)).items = pure (js.map (source n), true)
  members (n : Nat) (ms : List (String × Json)) : (source (n + 1) (.object ms)).members
    = pure (ms.map fun m => (hear m.1, source n m.2), true)
  layout (n : Nat) (ms : List (String × Json)) : (source (n + 1) (.object ms)).layout
    = pure (.named (ms.map fun m => (hear m.1, source n m.2)) true)
  word {α : Type} (n : Nat) (s : String) (ofWord? : String → Option α) :
    (source n (.text s)).word ofWord? = orMismatch (ofWord? (hear s))
  separated (n : Nat) (s : String) (sep : Char) :
    (source n (.text s)).separated sep = pure (hear s)
  number (n : Nat) (x : Int32) : (source n (.int x.toInt)).intOrText = pure (.number x)
  name (n : Nat) (s : String) : (source n (.text s)).intOrText = pure (.name (hear s))
  variant {α : Type} (n : Nat) (name : String) (ms : List (String × Json))
    (payload : String → Option (Source → Reading α)) :
    (source (n + 1) (.object [(name, .object ms)])).variant payload
      = if variants then do (← orMismatch (payload (hear name))) (source n (.object ms))
        else throw .mismatch

namespace Presentation

open Yaml (Graph Node heard)

/-! ## Whole values -/

/-- The documents of items are those of each. -/
theorem ofItems_eq (js : List Json) : Json.Document.ofItems js = js.map Json.Document.ofJson := by
  induction js with
  | nil => rfl
  | cons j js ih => rw [Json.Document.ofItems, ih, List.map_cons]

/-- The documents of members are those of their values. -/
theorem ofMembers_eq (ms : List (String × Json)) :
    Json.Document.ofMembers ms = ms.map fun m => (m.1, Json.Document.ofJson m.2) := by
  induction ms with
  | nil => rfl
  | cons m ms ih => rw [Json.Document.ofMembers, ih, List.map_cons]

section
variable (arriving : Bool) (f : String → String)

/-- A JSON value with its texts replaced as a source: a whole value, or a text that arrives. -/
def documentSource (j : Json) : Source := .json arriving (Json.Document.ofJson (j.mapTexts f))

/-- The items of a list whose texts are replaced. -/
theorem items_documentSource (js : List Json) :
    (documentSource arriving f (.list js)).items
      = pure (js.map (documentSource arriving f), true) := by
  rw [documentSource, Json.mapTexts, Json.mapItems_eq, Json.Document.ofJson, ofItems_eq,
    Source.items, List.map_map, List.map_map]
  rfl

/-- The members of an object whose texts are replaced. -/
theorem members_documentSource (ms : List (String × Json)) :
    (documentSource arriving f (.object ms)).members
      = pure (ms.map fun m => (f m.1, documentSource arriving f m.2), true) := by
  rw [documentSource, Json.mapTexts, Json.mapMembers_eq, Json.Document.ofJson, ofMembers_eq,
    Source.members, List.map_map, List.map_map]
  rfl

/-- JSON values with their texts replaced, clear texts by themselves, whole or arriving. -/
def document (clear : ∀ s, Text.isClear s = true → f s = s) : Presentation where
  source _ := documentSource arriving f
  hear := f
  variants := true
  hear_clear := clear
  resolved _ _ := rfl
  isAbsent _ j _ h := by cases j <;> first | rfl | exact absurd rfl h
  text _ _ := rfl
  int _ _ := rfl
  flag _ _ := rfl
  items _ := items_documentSource arriving f
  members _ := members_documentSource arriving f
  layout _ ms := by
    have named : (documentSource arriving f (.object ms)).layout = (do
      let (ms, closed) ← (documentSource arriving f (.object ms)).members
      return .named ms closed) := rfl
    rw [named, members_documentSource]
    rfl
  word _ _ _ := rfl
  separated _ _ _ := rfl
  number _ x := by
    have word : (documentSource arriving f (.int x.toInt)).intOrText
      = (do return .number (← orMismatch (Number.int32? x.toInt))) := rfl
    rw [word, Number.int32?_toInt]
    rfl
  name _ _ := rfl
  variant _ _ _ _ := by
    rw [documentSource, Json.mapTexts, Json.mapMembers, Json.mapMembers, Json.mapTexts,
      Json.Document.ofJson, Json.Document.ofMembers, Json.Document.ofMembers, Source.variant,
      Json.Document.ofJson]
    simp [Source.isPayload, documentSource, Json.mapTexts, Json.Document.ofJson]

end

/-- Whole JSON values with their texts replaced, clear texts by themselves. -/
def json (f : String → String) (clear : ∀ s, Text.isClear s = true → f s = s) : Presentation :=
  document false f clear

/-! ## Nodes of a YAML document -/

section
variable (g : Graph)

/-- A node that a value is read as is no alias. -/
theorem deref_node (j : Json) : g.deref j.node = pure (j.node, false) := by
  cases j <;> rfl

/-- A node that a value is read as stands for itself. -/
theorem target_node (j : Json) : Source.target g j.node = pure j.node := by
  rw [Source.target, deref_node]
  rfl

/-- The nodes of items are those of each. -/
theorem itemNodes_eq (js : List Json) : Json.itemNodes js = js.map Json.node := by
  induction js with
  | nil => rfl
  | cons j js ih => rw [Json.itemNodes, ih, List.map_cons]

/-- Texts are read as they are heard. -/
theorem text_node (n : Nat) (s : String) :
    (Source.yaml g n (Json.text s).node).text = pure (heard s) := by
  rw [Source.text, target_node]
  rfl

/-- The names of members are read as they are heard. -/
theorem mapM_memberNodes (n : Nat) (ms : List (String × Json)) :
    ((Json.memberNodes ms).mapM fun e => do
        return (← Source.text (.yaml g n e.1), Source.yaml g n e.2))
      = (pure (ms.map fun m => (heard m.1, Source.yaml g n m.2.node)) : Reading _) := by
  induction ms with
  | nil => rfl
  | cons m ms ih =>
    have key : Source.text (.yaml g n (.scalar (heard m.1) .quoted none)) = pure (heard m.1) :=
      text_node g n m.1
    rw [Json.memberNodes, List.mapM_cons, ih, key]
    rfl

/-- The members of an object that is read from YAML. -/
theorem members_node (n : Nat) (ms : List (String × Json)) :
    (Source.yaml g (n + 1) (Json.object ms).node).members
      = pure (ms.map fun m => (heard m.1, Source.yaml g n m.2.node), true) := by
  rw [Source.members, target_node]
  change (do
    let ms ← (Json.memberNodes ms).mapM fun e => do
      return (← Source.text (.yaml g n e.1), Source.yaml g n e.2)
    return (ms, true) : Reading _) = _
  rw [mapM_memberNodes]
  rfl

/-- A plain scalar with the text of an integer is written for an integer. -/
theorem node_int (i : Int) : (Json.int i).node = .scalar (toString i) .plain none := by
  rw [Json.node, Json.scalarChars, String.ofList_toList]
  · simp
  · simp
  · simp

end

/-- A text without line breaks is heard as it is. -/
theorem heard_eq_self {s : String} (clear : Text.isClear s = true) : heard s = s := by
  have every : ∀ c ∈ s.toList, Yaml.isRawBreak c = false := by simpa [Text.isClear] using clear
  rw [heard, Yaml.hear?_clear every]
  rfl

/-- JSON values read as YAML. -/
def yaml (g : Graph) : Presentation where
  source n j := .yaml g n j.node
  hear := heard
  variants := false
  hear_clear _ := heard_eq_self
  resolved n j := by
    rw [Source.resolved, deref_node]
    rfl
  isAbsent n j whole h := by
    cases j with
    | null => exact absurd rfl h
    | decimal l => cases whole
    | bool b =>
      cases b with
      | true => exact congrArg pure (show (_ || _) = false by decide)
      | false => exact congrArg pure (show (_ || _) = false by decide)
    | int i =>
      rw [node_int]
      refine congrArg pure ?_
      rw [Yaml.Scalar.isEmpty_toString, Yaml.Scalar.isNullWord_toString]
      rfl
    | _ => rfl
  text := text_node g
  int n i := by
    rw [Source.int, target_node, node_int]
    change orMismatch (Yaml.Scalar.integer? (toString i).toList) = _
    rw [Yaml.Scalar.integer?_toString]
    rfl
  flag n b := by
    rw [Source.flag, target_node]
    cases b with
    | true => exact congrArg orMismatch (show Yaml.Scalar.flag? "true" = some true by decide)
    | false => exact congrArg orMismatch (show Yaml.Scalar.flag? "false" = some false by decide)
  items n js := by
    rw [Source.items, target_node, Json.node, itemNodes_eq]
    have mapped : (js.map Json.node).map (Source.yaml g n)
        = js.map fun j => Source.yaml g n j.node := by
      rw [List.map_map]
      rfl
    rw [← mapped]
    rfl
  members := members_node g
  layout n ms := by
    have named : (Source.yaml g (n + 1) (Json.object ms).node).layout = (do
      let (ms, closed) ← (Source.yaml g (n + 1) (Json.object ms).node).members
      return .named ms closed) := rfl
    rw [named, members_node]
    rfl
  word n s f := by
    rw [Source.word, target_node]
    rfl
  separated n s sep := by
    rw [Source.separated, target_node]
    cases n <;> rfl
  number n x := by
    have lower := x.le_toInt
    have upper := x.toInt_lt
    have fits : Number.fits64 x.toInt = true := by
      simp [Number.fits64]
      omega
    have value : g.value n false (.scalar (toString x.toInt) .plain none)
        = (fun allowance => some (.int x.toInt, allowance)) := by
      have plain : Yaml.ofPlain? (toString x.toInt) = some (.int x.toInt) := by
        rw [Yaml.ofPlain?, Yaml.Scalar.resolve_toString fits]
      have scalar : Yaml.scalarValue? false (toString x.toInt) .plain none
          = some (.int x.toInt) := plain
      have step (inner : Option (Bool → Node → Yaml.Spending Yaml)) :
          g.valueWith inner false (.scalar (toString x.toInt) .plain none)
            = pure (.int x.toInt) := by
        change ((Yaml.scalarValue? false (toString x.toInt) .plain none : Option Yaml) >>=
          fun y => pure y : Yaml.Spending Yaml) = _
        rw [scalar]
        rfl
      cases n with
      | zero => exact step none
      | succ n => exact step (some (g.value n))
    rw [Source.intOrText, node_int, value]
    change (do return .number (← orMismatch (Number.int32? x.toInt)) : Reading IntOrText) = _
    rw [Number.int32?_toInt]
    rfl
  name n s := by
    rw [Source.intOrText]
    cases n <;> rfl
  variant n name ms payload := by
    rw [Source.variant, target_node]
    rfl

end Presentation
end WorkloadForms
