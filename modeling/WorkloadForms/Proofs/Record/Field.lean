import Mathlib.Data.List.Forall2
import WorkloadForms.Proofs.Json.Text
import WorkloadForms.Proofs.Record.Presentation

/-!
# The fields of a record that was read

`Codec.Reads` says that a JSON document is read as a value of a type, whole or while its text
arrives. A record is read field by field: what a field holds afterwards is what was read of what the
document has for it (`Codec.Reads.field`), a member of an object by its name or an item of a list by
its place (`Json.Document.field?`). That needs of the fields only that none of them touches what
another one holds (`Field.IsFieldOf`).
-/

namespace WorkloadForms

namespace Json

/-- The texts of a list of texts. -/
theorem mapM_text? (ts : List String) : (ts.map Json.text).mapM Json.text? = some ts := by
  induction ts with
  | nil => rfl
  | cons t ts ih =>
    rw [List.map_cons, List.mapM_cons, ih]
    rfl

namespace Document

/-- A list of texts. -/
def ofTexts (ts : List String) : Document := .list (ts.map .text) true

/-- The word of a closed vocabulary: a text, or the name of the first member of an object. -/
def word? : Document → Option String
  | .text s => some s
  | .object ((name, _) :: _) _ => some name
  | _ => none

/-- What there is for a field of a record: the member of its name, or the item at its place. -/
def field? (fields : List (Field R)) (name : String) : Document → Option Document
  | .object members _ => members.lookup name
  | .list items _ => ((fields.zip items).find? (·.1.name == name)).map (·.2)
  | _ => none

/-- What has a field is not null. -/
theorem ne_null_of_field? {fields : List (Field R)} {name : String} {d v : Document}
    (given : d.field? fields name = some v) : d ≠ .null := by
  rintro rfl
  cases given

/-- The value of a list of texts. -/
theorem toJson?_ofTexts (ts : List String) :
    (ofTexts ts).toJson? = some (.list (ts.map .text)) := by
  rw [← toJson?_ofJson (.list (ts.map .text)), ofJson, Presentation.ofItems_eq, List.map_map]
  rfl

/-- Looking up a name among members with their values replaced. -/
theorem lookup_map_snd (f : β → γ) (members : List (String × β)) (name : String) :
    (members.map fun m => (m.1, f m.2)).lookup name = (members.lookup name).map f := by
  induction members with
  | nil => rfl
  | cons m members ih =>
    rw [List.map_cons, List.lookup_cons, List.lookup_cons, ih]
    cases name == m.1 <;> rfl

end Document

end Json

/-! ## Readings that succeed -/

namespace Source

/-- Two readings in a row succeed if each one does. -/
theorem bind_eq_ok {x : Reading α} {f : α → Reading β} {before after : Nat} {b : β} :
    (x >>= f) before = .ok (b, after) ↔
      ∃ a between, x before = .ok (a, between) ∧ f a between = .ok (b, after) := by
  change (x before >>= fun r => f r.1 r.2) = _ ↔ _
  cases x before with
  | error e => exact ⟨nofun, nofun⟩
  | ok r =>
    constructor
    · exact fun h => ⟨r.1, r.2, rfl, h⟩
    · rintro ⟨a, between, same, h⟩
      obtain rfl := Except.ok.inj same
      exact h

theorem pure_eq_ok {a b : α} {before after : Nat} :
    (pure a : Reading α) before = .ok (b, after) ↔ a = b ∧ before = after := by
  change Except.ok (a, before) = .ok (b, after) ↔ _
  rw [Except.ok.injEq, Prod.mk.injEq]

theorem throw_ne_ok {e : ReadFault} {b : β} {before after : Nat} :
    (throw e : Reading β) before ≠ .ok (b, after) := nofun

/-- A value that is there is read. -/
theorem orMismatch_eq_ok {o : Option α} {a : α} {before after : Nat} :
    orMismatch o before = .ok (a, after) ↔ o = some a ∧ before = after := by
  cases o with
  | none => simpa [orMismatch] using throw_ne_ok
  | some b => simp [orMismatch, pure_eq_ok]

/-- Items that are all read are read one by one. -/
theorem forall₂_of_mapM {read : Source → Reading β} {ss : List Source} {bs : List β}
    {before after : Nat} (h : ss.mapM read before = .ok (bs, after)) :
    List.Forall₂ (fun s b => ∃ n m, read s n = .ok (b, m)) ss bs := by
  induction ss generalizing before bs with
  | nil =>
    obtain ⟨rfl, -⟩ := pure_eq_ok.1 h
    exact .nil
  | cons s ss ih =>
    rw [List.mapM_cons] at h
    obtain ⟨b, behind, first, h⟩ := bind_eq_ok.1 h
    obtain ⟨bs, _, rest, done⟩ := bind_eq_ok.1 h
    obtain ⟨rfl, rfl⟩ := pure_eq_ok.1 done
    exact .cons ⟨before, behind, first⟩ (ih rest)

end Source

open Source (bind_eq_ok pure_eq_ok throw_ne_ok orMismatch_eq_ok)

/-- Whether a JSON document is read as this value, whole or while its text arrives. -/
def Codec.Reads (c : Codec β) (d : Json.Document) (b : β) : Prop :=
  ∃ arriving before after, c.read (.json arriving d) before = .ok (b, after)

namespace Codec.Reads

/-- A whole value that is read. -/
theorem of_ofJson? {c : Codec β} {j : Json} {b : β} (h : c.ofJson? j = some b) :
    c.Reads (.ofJson j) b := by
  rw [ofJson?] at h
  split at h
  · next b' after read =>
    obtain rfl := Option.some.inj h
    exact ⟨false, 0, after, read⟩
  · cases h

/-- A document that is read while its text arrives. -/
theorem of_ofJsonText {c : Codec β} {s : String} {b : β} (h : c.ofJsonText s = .ok b) :
    c.Reads (Json.Document.ofText s).1 b := by
  rw [ofJsonText] at h
  dsimp only at h
  split at h
  · next b' after read =>
    split at h
    · obtain rfl := Except.ok.inj h
      exact ⟨true, 0, after, read⟩
    · cases h
  · cases h

/-! ## Values -/

/-- A truth value is read as it is. -/
theorem flag {v b : Bool} (h : Codec.flag.Reads (.bool v) b) : b = v := by
  obtain ⟨_, _, _, read⟩ := h
  exact (pure_eq_ok.1 read).1.symm

/-- A word is read as the value that it stands for. -/
theorem word [Vocabulary α] {v : Json.Document} {a : α} {w : String} (h : Codec.word.Reads v a)
    (spelled : v.word? = some w) : Vocabulary.ofWord? w = some a := by
  obtain ⟨_, _, _, read⟩ := h
  match v, spelled with
  | .text _, rfl => exact (orMismatch_eq_ok.1 read).1
  | .object ((_, content) :: _) _, rfl =>
    obtain ⟨b, _, named, rest⟩ := bind_eq_ok.1 read
    rw [(orMismatch_eq_ok.1 named).1]
    -- behind the word stands a null and nothing else, or the reading fails
    cases content with
    | null =>
      dsimp only at rest
      split at rest
      · rw [(pure_eq_ok.1 rest).1]
      · exact absurd rest throw_ne_ok
    | _ => exact absurd rest throw_ne_ok

/-- A list of texts in place of a text is read as the texts with the separator between them. -/
theorem separated {sep : Char} {ts : List String} {s : String}
    (h : (Codec.separated sep).Reads (.ofTexts ts) s) : s = Text.joined sep ts := by
  obtain ⟨arriving, before, after, read⟩ := h
  simp only [Codec.separated, Source.separated, Json.Document.toJson?_ofTexts,
    Json.mapM_text?] at read
  obtain ⟨_, _, given, read⟩ := bind_eq_ok.1 read
  obtain ⟨same, -⟩ := orMismatch_eq_ok.1 given
  obtain rfl := Option.some.inj same
  exact (pure_eq_ok.1 read).1.symm

/-- What is not null is read as a value that is present. -/
theorem option {c : Codec β} {v : Json.Document} {o : Option β} (h : c.option.Reads v o)
    (present : v ≠ .null) : ∃ b, o = some b ∧ c.Reads v b := by
  obtain ⟨arriving, before, after, read⟩ := h
  obtain ⟨_, _, resolved, read⟩ := bind_eq_ok.1 read
  obtain ⟨rfl, rfl⟩ := pure_eq_ok.1 resolved
  obtain ⟨absent, _, isAbsent, read⟩ := bind_eq_ok.1 read
  obtain ⟨rfl, rfl⟩ : false = absent ∧ before = _ := by
    cases v <;> first | exact absurd rfl present | exact pure_eq_ok.1 isAbsent
  obtain ⟨b, between, read, done⟩ := bind_eq_ok.1 read
  exact ⟨b, (pure_eq_ok.1 done).1.symm, arriving, before, between, read⟩

/-- The items of a list are read one by one. -/
theorem items {c : Codec β} {ds : List Json.Document} {closed : Bool} {bs : List β}
    (h : c.list.Reads (.list ds closed) bs) : List.Forall₂ c.Reads ds bs := by
  obtain ⟨arriving, before, after, read⟩ := h
  obtain ⟨given, between, items, read⟩ := bind_eq_ok.1 read
  obtain ⟨rfl, rfl⟩ := pure_eq_ok.1 items
  obtain ⟨bs', between, each, done⟩ := bind_eq_ok.1 read
  have same : bs' = bs := by
    split at done
    · exact (pure_eq_ok.1 done).1
    · exact absurd done throw_ne_ok
  subst same
  refine (List.forall₂_map_left_iff.1 (Source.forall₂_of_mapM each)).imp ?_
  exact fun d b ⟨n, m, read⟩ => ⟨arriving, n, m, read⟩

end Codec.Reads

/-! ## Fields -/

namespace Field

/-- Whether reading a field changes nothing of what `get` gives. -/
def Keeps (f : Field R) (get : R → β) : Prop :=
  ∀ s r r' before after, f.read s r before = .ok (r', after) → get r' = get r

/-- Whether reading a field puts what was read with a codec to where `get` finds it. -/
def Puts (f : Field R) (c : Codec β) (get : R → β) : Prop :=
  ∀ s r r' before after, f.read s r before = .ok (r', after) →
    c.read s before = .ok (get r', after)

/-- A field with a name of its own among fields, the only one that `get` depends on. -/
structure IsFieldOf (fields : List (Field R)) (name : String) (c : Codec β) (get : R → β) :
    Prop where
  there : name ∈ fields.map (·.name)
  distinct : (fields.map (·.name)).Nodup
  puts : ∀ f ∈ fields, f.name = name → f.Puts c get
  keep : ∀ f ∈ fields, f.name ≠ name → f.Keeps get

attribute [simp] always optional list flag

@[simp] theorem name_of (key : String) (c : Codec β) (get : R → β) (set : β → R → R)
    (leaveOut : β → Bool) : (of key c get set leaveOut).name = key := rfl

@[simp] theorem keeps_of {key : String} {c : Codec γ} {get : R → γ} {set : γ → R → R}
    {leaveOut : γ → Bool} {other : R → β} (apart : ∀ v r, other (set v r) = other r) :
    (of key c get set leaveOut).Keeps other := by
  intro s r r' before after read
  obtain ⟨v, _, -, done⟩ := bind_eq_ok.1 read
  obtain ⟨rfl, -⟩ := pure_eq_ok.1 done
  exact apart v r

@[simp] theorem puts_of {key : String} {c : Codec β} {get : R → β} {set : β → R → R}
    {leaveOut : β → Bool} (found : ∀ v r, get (set v r) = v) :
    (of key c get set leaveOut).Puts c get := by
  intro s r r' before after read
  obtain ⟨v, _, read, done⟩ := bind_eq_ok.1 read
  obtain ⟨rfl, rfl⟩ := pure_eq_ok.1 done
  rwa [found]

section Reading

variable {fields : List (Field R)} {name : String} {c : Codec β} {get : R → β}

/-- Members that are read after the one of a field do not change what it holds. -/
theorem get_readNamed_of_seen (keep : ∀ f ∈ fields, f.name ≠ name → f.Keeps get)
    {members : List (String × Source)} {seen seen' : List String} {r r' : R} {before after : Nat}
    (old : name ∈ seen)
    (read : readNamed fields members seen r before = .ok ((seen', r'), after)) :
    get r' = get r := by
  induction members generalizing seen r before with
  | nil =>
    obtain ⟨same, -⟩ := pure_eq_ok.1 read
    rw [(Prod.mk.inj same).2]
  | cons m members ih =>
    obtain ⟨key, s⟩ := m
    rw [readNamed] at read
    cases found : fields.find? (·.name == key) with
    | none =>
      rw [found] at read
      obtain ⟨_, _, -, rest⟩ := bind_eq_ok.1 read
      exact ih old rest
    | some f =>
      simp only [found] at read
      split at read
      · exact absurd read throw_ne_ok
      · next fresh =>
        obtain ⟨r₁, _, first, rest⟩ := bind_eq_ok.1 read
        have named : f.name = key := by simpa using List.find?_some found
        have other : f.name ≠ name := by
          rw [named]
          rintro rfl
          exact fresh (List.contains_iff_mem.2 old)
        rw [ih (List.mem_cons_of_mem key old) rest,
          keep f (List.mem_of_find?_eq_some found) other s r r₁ _ _ first]

/-- The member of a field is read into it. -/
theorem IsFieldOf.readNamed (here : IsFieldOf fields name c get) {members : List (String × Source)}
    {seen seen' : List String} {r r' : R} {s : Source} {before after : Nat}
    (given : members.lookup name = some s)
    (read : readNamed fields members seen r before = .ok ((seen', r'), after)) :
    ∃ n m, c.read s n = .ok (get r', m) := by
  induction members generalizing seen r before with
  | nil => cases given
  | cons m members ih =>
    obtain ⟨key, s₁⟩ := m
    rw [Field.readNamed] at read
    rw [List.lookup_cons] at given
    cases found : fields.find? (·.name == key) with
    | none =>
      have other : (name == key) = false := by
        rw [beq_eq_false_iff_ne]
        rintro rfl
        obtain ⟨f, there, named⟩ := List.mem_map.1 here.there
        exact List.find?_eq_none.1 found f there (beq_iff_eq.2 named)
      rw [found] at read
      rw [other] at given
      obtain ⟨_, _, -, rest⟩ := bind_eq_ok.1 read
      exact ih given rest
    | some f =>
      simp only [found] at read
      split at read
      · exact absurd read throw_ne_ok
      · obtain ⟨r₁, _, first, rest⟩ := bind_eq_ok.1 read
        have named : f.name = key := by simpa using List.find?_some found
        have there : f ∈ fields := List.mem_of_find?_eq_some found
        by_cases same : name = key
        · rw [beq_iff_eq.2 same] at given
          obtain rfl := Option.some.inj given
          rw [get_readNamed_of_seen here.keep (same ▸ List.mem_cons_self) rest]
          exact ⟨_, _, here.puts f there (named.trans same.symm) _ r r₁ _ _ first⟩
        · rw [beq_eq_false_iff_ne.2 same] at given
          exact ih given rest

/-- Fields of other names do not change what a field holds. -/
theorem get_readPositional {fs : List (Field R)} (keep : ∀ f ∈ fs, f.Keeps get) {closed : Bool}
    {surplus : ReadFault} {ss : List Source} {r r' : R} {before after : Nat}
    (read : readPositional closed surplus fs ss r before = .ok (r', after)) : get r' = get r := by
  -- behind the last item the record stays as it is, if it is read at all
  have ended {fs : List (Field R)} {r : R} {before : Nat}
      (read : readPositional closed surplus fs [] r before = .ok (r', after)) : r' = r := by
    rw [readPositional] at read
    split at read
    · exact absurd read throw_ne_ok
    · split at read
      · exact absurd read throw_ne_ok
      · exact (pure_eq_ok.1 read).1.symm
  induction fs generalizing ss r before with
  | nil =>
    cases ss with
    | nil => rw [ended read]
    | cons s ss => exact absurd read throw_ne_ok
  | cons f fs ih =>
    cases ss with
    | nil => rw [ended read]
    | cons s ss =>
      rw [readPositional] at read
      obtain ⟨r₁, _, first, rest⟩ := bind_eq_ok.1 read
      rw [ih (fun g there => keep g (List.mem_cons_of_mem f there)) rest,
        keep f List.mem_cons_self s r r₁ _ _ first]

/-- The item at the place of a field is read into it. -/
theorem readPositional_zip {fs : List (Field R)} (distinct : (fs.map (·.name)).Nodup)
    (puts : ∀ f ∈ fs, f.name = name → f.Puts c get)
    (keep : ∀ f ∈ fs, f.name ≠ name → f.Keeps get) {closed : Bool} {surplus : ReadFault}
    {ss : List Source} {r r' : R} {before after : Nat} {found : Field R × Source}
    (given : (fs.zip ss).find? (·.1.name == name) = some found)
    (read : readPositional closed surplus fs ss r before = .ok (r', after)) :
    ∃ n m, c.read found.2 n = .ok (get r', m) := by
  induction fs generalizing ss r before with
  | nil => cases given
  | cons f fs ih =>
    cases ss with
    | nil => cases given
    | cons s ss =>
      rw [readPositional] at read
      obtain ⟨r₁, _, first, rest⟩ := bind_eq_ok.1 read
      rw [List.map_cons, List.nodup_cons] at distinct
      rw [List.zip_cons_cons, List.find?_cons] at given
      by_cases same : f.name = name
      · have others : ∀ g ∈ fs, g.Keeps get := fun g there =>
          keep g (List.mem_cons_of_mem f there) fun named =>
            distinct.1 (same.trans named.symm ▸ List.mem_map_of_mem there)
        simp only [same, BEq.rfl, Option.some.injEq] at given
        obtain rfl := given
        rw [get_readPositional others rest]
        exact ⟨_, _, puts f List.mem_cons_self same s r r₁ _ _ first⟩
      · simp only [beq_eq_false_iff_ne.2 same] at given
        exact ih distinct.2 (fun g there => puts g (List.mem_cons_of_mem f there))
          (fun g there => keep g (List.mem_cons_of_mem f there)) given rest

end Reading

end Field

/-- What a field of a record holds was read of what there is for it. -/
theorem Codec.Reads.field {fields : List (Field R)} {start r : R} {name : String} {c : Codec β}
    {get : R → β} {d v : Json.Document} (h : (Codec.record fields start).Reads d r)
    (here : Field.IsFieldOf fields name c get) (given : d.field? fields name = some v) :
    c.Reads v (get r) := by
  obtain ⟨arriving, before, after, read⟩ := h
  obtain ⟨layout, between, laid, read⟩ := bind_eq_ok.1 read
  cases d with
  | object members closed =>
    obtain ⟨_, _, named, laid⟩ := bind_eq_ok.1 laid
    obtain ⟨rfl, rfl⟩ := pure_eq_ok.1 named
    obtain ⟨rfl, rfl⟩ := pure_eq_ok.1 laid
    obtain ⟨⟨seen, r'⟩, _, named, read⟩ := bind_eq_ok.1 read
    have same : r' = r := by
      dsimp only at read
      split at read
      · exact absurd read throw_ne_ok
      · split at read
        · exact absurd read throw_ne_ok
        · exact (pure_eq_ok.1 read).1
    subst same
    have member : (members.map fun m => (m.1, Source.json arriving m.2)).lookup name =
        some (.json arriving v) := by
      rw [Json.Document.lookup_map_snd]
      exact congrArg (Option.map _) given
    obtain ⟨n, m, read⟩ := here.readNamed member named
    exact ⟨arriving, n, m, read⟩
  | list items closed =>
    obtain ⟨rfl, rfl⟩ := pure_eq_ok.1 laid
    obtain ⟨⟨f, item⟩, found, rfl⟩ := Option.map_eq_some_iff.1 given
    have place : (fields.zip (items.map (Source.json arriving))).find? (·.1.name == name) =
        some (f, .json arriving item) := by
      rw [List.zip_map_right, List.find?_map]
      exact congrArg (Option.map _) found
    obtain ⟨n, m, read⟩ := Field.readPositional_zip here.distinct here.puts here.keep place read
    exact ⟨arriving, n, m, read⟩
  | _ => cases given

end WorkloadForms
