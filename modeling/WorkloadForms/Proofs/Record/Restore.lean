import WorkloadForms.Proofs.Json.Text
import WorkloadForms.Proofs.Record.Presentation
import WorkloadForms.Proofs.Text.Dictionary
import WorkloadForms.Proofs.Vocabulary

/-!
# What codecs write is read back

A codec restores the values of its type if reading what is written for a value gives the value with
its texts as they are heard, or a mismatch where the value cannot be read in this way
(`Codec.Restores`). The codecs of texts, numbers, words and lists restore their values, and so does
the codec of a record whose fields do (`Codec.Restores.record`).
-/

namespace WorkloadForms

/-- The reading of a value that is a mismatch unless the value can be read. -/
def Source.given (readable : Bool) (b : β) : Reading β :=
  if readable then pure b else throw .mismatch

open Source (given orMismatch)

/-- A lawful vocabulary with words that are heard as they are. -/
class ClearVocabulary (α : Type) [Vocabulary α] : Prop extends LawfulVocabulary α where
  isClear_word (a : α) : Text.isClear (Vocabulary.word a) = true

/-- A number stays, and a name is replaced. -/
def IntOrText.mapTexts (f : String → String) : IntOrText → IntOrText
  | .number x => .number x
  | .name s => .name (f s)

@[simp] theorem IntOrText.mapTexts_id (x : IntOrText) : x.mapTexts id = x := by
  cases x <;> rfl

/-- The dictionary of the entries with their texts replaced. -/
def Dictionary.mapTexts (f : String → String) (d : Dictionary) : Dictionary :=
  .ofList (d.entries.map fun e => (f e.1, f e.2))

@[simp] theorem Dictionary.mapTexts_id (d : Dictionary) : d.mapTexts id = d := by
  simp [mapTexts]

/-- An integer of 32 bits is one of 64 bits. -/
theorem Number.fits64_toInt32 (x : Int32) : Number.fits64 x.toInt = true := by
  have lower := x.le_toInt
  have upper := x.toInt_lt
  simp [Number.fits64]
  omega

/-- An integer of 64 bits with a sign is one of 64 bits. -/
theorem Number.fits64_toInt64 (x : Int64) : Number.fits64 x.toInt = true := by
  have lower := x.le_toInt
  have upper := x.toInt_lt
  simp [Number.fits64]
  omega

/-- The reading of a value that is put to use. -/
theorem Source.given_map (readable : Bool) (a : α) (f : α → β) :
    (given readable a >>= fun a => pure (f a)) = given readable (f a) := by
  cases readable <;> rfl

mutual

/-- A value that fits is whole. -/
theorem Json.isWhole_of_fits (j : Json) {n : Nat} (fits : j.fits n = true) : j.isWhole = true := by
  match j, n, fits with
  | .list items, _ + 1, fits => exact Json.areWhole_of_itemsFit items fits
  | .object members, _ + 1, fits => exact Json.haveWhole_of_membersFit members fits
  | .null, _, _ | .bool _, _, _ | .int _, _, _ | .text _, _, _ => rfl

/-- Items that fit are whole. -/
theorem Json.areWhole_of_itemsFit (items : List Json) {n : Nat}
    (fits : Json.itemsFit items n = true) : Json.areWhole items = true := by
  match items with
  | [] => rfl
  | item :: items =>
    obtain ⟨first, others⟩ := (Bool.and_eq_true _ _).mp fits
    rw [Json.areWhole, Json.isWhole_of_fits item first, Json.areWhole_of_itemsFit items others]
    rfl

/-- Members that fit are whole. -/
theorem Json.haveWhole_of_membersFit (members : List (String × Json)) {n : Nat}
    (fits : Json.membersFit members n = true) : Json.haveWhole members = true := by
  match members with
  | [] => rfl
  | (_, value) :: members =>
    obtain ⟨first, others⟩ := (Bool.and_eq_true _ _).mp fits
    rw [Json.haveWhole, Json.isWhole_of_fits value first,
      Json.haveWhole_of_membersFit members others]
    rfl

end

/-- What a codec writes opens no more than `k` collections, and is read as the value with its texts
as they are heard, where so many may still be opened, if the value can be read. -/
structure Codec.Restores (c : Codec β) (p : Presentation) (k : Nat) (hear : β → β)
    (readable : β → Bool := fun _ => true) : Prop where
  fits (b : β) : (c.write b).fits k = true
  present (b : β) : c.write b ≠ .null
  reads (b : β) (n : Nat) :
    k ≤ n → c.read (p.source n (c.write b)) = given (readable b) (hear b)

namespace Codec.Restores

variable {p : Presentation} {k : Nat}

/-- What is written has no numbers but integers. -/
theorem whole {c : Codec β} {hear : β → β} {readable : β → Bool} (h : c.Restores p k hear readable)
    (b : β) : (c.write b).isWhole = true :=
  Json.isWhole_of_fits _ (h.fits b)

/-! ## Codecs of single values -/

/-- Texts are read as they are heard. -/
theorem text : Codec.text.Restores p k p.hear where
  fits _ := rfl
  present _ h := by cases h
  reads s n _ := p.text n s

/-- Numbers of 32 bits are read as they are. -/
theorem int32 : Codec.int32.Restores p k id where
  fits := Number.fits64_toInt32
  present _ h := by cases h
  reads x n _ := by
    change (do orMismatch (Number.int32? (← (p.source n (.int x.toInt)).int))) = _
    rw [p.int, pure_bind, Number.int32?_toInt]
    rfl

/-- Numbers of 64 bits are read as they are. -/
theorem int64 : Codec.int64.Restores p k id where
  fits := Number.fits64_toInt64
  present _ h := by cases h
  reads x n _ := by
    change (do orMismatch (Number.int64? (← (p.source n (.int x.toInt)).int))) = _
    rw [p.int, pure_bind, Number.int64?_toInt]
    rfl

/-- Truth values are read as they are. -/
theorem flag : Codec.flag.Restores p k id where
  fits _ := rfl
  present _ h := by cases h
  reads b n _ := p.flag n b

/-- Numbers that may be given by name are read with the name as it is heard. -/
theorem intOrText : Codec.intOrText.Restores p k (IntOrText.mapTexts p.hear) where
  fits x := by
    cases x with
    | number x => exact Number.fits64_toInt32 x
    | name s => rfl
  present x h := by cases x <;> cases h
  reads x n _ := by
    cases x with
    | number x => exact p.number n x
    | name s => exact p.name n s

/-- A list that is kept in one text is read as that text is heard. -/
theorem separated (sep : Char) : (Codec.separated sep).Restores p k p.hear where
  fits _ := rfl
  present _ h := by cases h
  reads s n _ := p.separated n s sep

/-- Words of a lawful vocabulary without line breaks are read as they are. -/
theorem word [Vocabulary α] [ClearVocabulary α] :
    (Codec.word (α := α)).Restores p k id where
  fits _ := rfl
  present _ h := by cases h
  reads a n _ := by
    change (p.source n (.text (Vocabulary.word a))).word Vocabulary.ofWord? = _
    rw [p.word, p.hear_clear _ (ClearVocabulary.isClear_word a), ofWord?_word]
    rfl

/-- A value that may be absent is read if it can be and is there. -/
theorem option {c : Codec β} {hear : β → β} {readable : β → Bool}
    (h : c.Restores p k hear readable) (b : β) (n : Nat) (deep : k ≤ n) :
    c.option.read (p.source n (c.write b)) = given (readable b) (some (hear b)) := by
  change (do
    let s ← (p.source n (c.write b)).resolved
    if ← s.isAbsent then return none else return some (← c.read s)) = _
  rw [p.resolved, pure_bind, p.isAbsent n _ (h.whole b) (h.present b), pure_bind]
  change (do return some (← c.read (p.source n (c.write b)))) = _
  rw [h.reads b n deep, Source.given_map]

/-! ## Lists and dictionaries -/

/-- Written items fit if each of them does. -/
theorem itemsFit_map {f : β → Json} (fits : ∀ b, (f b).fits k = true) (bs : List β) :
    Json.itemsFit (bs.map f) k = true := by
  induction bs with
  | nil => rfl
  | cons b bs ih => rw [List.map_cons, Json.itemsFit, fits, ih]; rfl

/-- Items that are restored one by one. -/
theorem mapM_given {read : σ → Reading β} {source : α → σ} {hear : α → β}
    {readable : α → Bool} (reads : ∀ a, read (source a) = given (readable a) (hear a))
    (as : List α) :
    (as.map source).mapM read = given (as.all readable) (as.map hear) := by
  induction as with
  | nil => rfl
  | cons a as ih =>
    rw [List.map_cons, List.mapM_cons, ih, reads, List.all_cons, List.map_cons]
    cases readable a <;> cases as.all readable <;> rfl

/-- A list can be read if its items can. -/
theorem listIf {c : Codec β} {hear : β → β} {readable : β → Bool}
    (h : c.Restores p k hear readable) :
    c.list.Restores p (k + 1) (List.map hear) (List.all · readable) where
  fits bs := itemsFit_map h.fits bs
  present _ h := by cases h
  reads bs n deep := by
    obtain ⟨n, rfl⟩ : ∃ m, n = m + 1 := ⟨n - 1, by omega⟩
    change ((p.source (n + 1) (.list (bs.map c.write))).items >>= _) = _
    rw [p.items, pure_bind, List.map_map]
    have each (b : β) : c.read (p.source n (c.write b)) = given (readable b) (hear b) :=
      h.reads b n (by omega)
    change ((bs.map fun b => p.source n (c.write b)).mapM c.read >>= fun bs => pure bs) = _
    rw [bind_pure, mapM_given each]

/-- A list is read if all values can be. -/
theorem list {c : Codec β} {hear : β → β} (h : c.Restores p k hear) :
    c.list.Restores p (k + 1) (List.map hear) := by
  have lists : (fun bs : List β => bs.all fun _ => true) = fun _ => true := by
    funext bs
    simp
  exact lists ▸ h.listIf

/-- A dictionary is read as the one of its entries as they are heard. -/
theorem dictionary : Codec.dictionary.Restores p (k + 1) (Dictionary.mapTexts p.hear) where
  fits d := by
    change Json.membersFit _ k = true
    induction d.entries with
    | nil => rfl
    | cons e es ih => rw [List.map_cons, Json.membersFit, ih]; rfl
  present _ h := by cases h
  reads d n deep := by
    obtain ⟨n, rfl⟩ : ∃ m, n = m + 1 := ⟨n - 1, by omega⟩
    change ((p.source (n + 1)
      (.object (d.entries.map fun e => (e.1, .text e.2)))).members >>= _) = _
    rw [p.members, pure_bind, List.map_map]
    have each (e : String × String) :
        (do return (p.hear e.1, ← (p.source n (.text e.2)).text) : Reading (String × String))
          = given true (p.hear e.1, p.hear e.2) := by
      rw [p.text]
      rfl
    have all : (d.entries.map fun e => (p.hear e.1, p.source n (.text e.2))).mapM
          (fun m : String × Source => do return (m.1, ← m.2.text))
        = given (d.entries.all fun _ => true)
            (d.entries.map fun e => (p.hear e.1, p.hear e.2)) :=
      mapM_given each d.entries
    change ((d.entries.map fun e => (p.hear e.1, p.source n (.text e.2))).mapM
      (fun m : String × Source => do return (m.1, ← m.2.text)) >>= fun entries =>
        pure (Dictionary.ofList entries)) = _
    rw [all]
    simp [given, Dictionary.mapTexts]

end Codec.Restores

namespace Field

variable {R : Type} {p : Presentation} {k : Nat} {r before after : R}

/-! ## Fields -/

/-- What is written of a record for a field takes the record that is being read a step on, if the
value can be read; a field that is left out leaves that record as it is. -/
structure Step (f : Field R) (p : Presentation) (k : Nat) (r before after : R)
    (readable : Bool) : Prop where
  leftOut : f.write r = none → f.required = false ∧ readable = true ∧ after = before
  written (j : Json) : f.write r = some j → j.fits k = true ∧
    ∀ n, k ≤ n → f.read (p.source n j) before = given readable after

namespace Step

variable {name : String} {c : Codec β} {hear : β → β} {readable : β → Bool}

/-- A field is restored if its value is and leaving it out says the same. -/
theorem of {get : R → β} {set : β → R → R} {leaveOut : β → Bool}
    (h : c.Restores p k hear readable)
    (unset : leaveOut (get r) = true →
      readable (get r) = true ∧ set (hear (get r)) before = before) :
    (Field.of name c get set leaveOut).Step p k r before (set (hear (get r)) before)
      (readable (get r)) := by
  have write : (Field.of name c get set leaveOut).write r
      = if leaveOut (get r) then none else some (c.write (get r)) := rfl
  cases out : leaveOut (get r) with
  | true =>
    rw [out] at write
    refine ⟨fun _ => ⟨rfl, unset out⟩, fun j there => ?_⟩
    rw [write] at there
    cases there
  | false =>
    rw [out] at write
    refine ⟨fun absent => ?_, fun j there => ?_⟩
    · rw [write] at absent
      cases absent
    · rw [write] at there
      cases there
      refine ⟨h.fits _, fun n deep => ?_⟩
      change (do return set (← c.read (p.source n (c.write (get r)))) before) = _
      rw [h.reads _ n deep, Source.given_map]

/-- A field that is always written is restored if its value is. -/
theorem always {get : R → β} {set : β → R → R} (h : c.Restores p k hear readable) :
    (Field.always name c get set).Step p k r before (set (hear (get r)) before)
      (readable (get r)) :=
  of h fun out => by cases out

/-- A field that must be given is restored if its value is. -/
theorem needed {get : R → β} {set : β → R → R} (h : c.Restores p k hear readable) :
    (Field.needed name c get set).Step p k r before (set (hear (get r)) before)
      (readable (get r)) where
  leftOut absent := by cases absent
  written := by
    have step : (Field.always name c get set).Step p k r before (set (hear (get r)) before)
      (readable (get r)) := always h
    exact step.written

/-- A field that may be absent can be read if its value can, when there is one. -/
theorem optionalIf {get : R → Option β} {set : Option β → R → R}
    (h : c.Restores p k hear readable) (unset : set none before = before) :
    (Field.optional name c get set).Step p k r before (set ((get r).map hear) before)
      ((get r).all readable) := by
  cases value : get r with
  | none =>
    have write : (Field.optional name c get set).write r = none := by
      change (if (get r).isNone then none else _) = _
      rw [value]
      rfl
    refine ⟨fun _ => ⟨rfl, rfl, unset⟩, fun j there => ?_⟩
    rw [write] at there
    cases there
  | some b =>
    have write : (Field.optional name c get set).write r = some (c.write b) := by
      change (if (get r).isNone then none else some (c.option.write (get r))) = _
      rw [value]
      rfl
    refine ⟨fun absent => ?_, fun j there => ?_⟩
    · rw [write] at absent
      cases absent
    · rw [write] at there
      cases there
      refine ⟨h.fits b, fun n deep => ?_⟩
      change (do return set (← c.option.read (p.source n (c.write b))) before) = _
      rw [h.option b n deep, Source.given_map]
      rfl

/-- A field that may be absent is restored if its value is. -/
theorem optional {get : R → Option β} {set : Option β → R → R} (h : c.Restores p k hear)
    (unset : set none before = before) :
    (Field.optional name c get set).Step p k r before (set ((get r).map hear) before) true := by
  have step : (Field.optional name c get set).Step p k r before (set ((get r).map hear) before)
    ((get r).all fun _ => true) := optionalIf h unset
  have every : ((get r).all fun _ => true) = true := by simp
  exact every ▸ step

/-- A field that may be absent is restored as it is if its value is. -/
theorem kept {get : R → Option β} {set : Option β → R → R} (h : c.Restores p k id)
    (unset : set none before = before) :
    (Field.optional name c get set).Step p k r before (set (get r) before) true := by
  have step : (Field.optional name c get set).Step p k r before (set ((get r).map id) before)
    true := optional h unset
  rwa [Option.map_id] at step

/-- A list that is left out when it is empty can be read if its items can. -/
theorem listIf {get : R → List β} {set : List β → R → R} (h : c.Restores p k hear readable)
    (unset : set [] before = before) :
    (Field.list name c get set).Step p (k + 1) r before (set ((get r).map hear) before)
      ((get r).all readable) :=
  of h.listIf fun out => by
    rw [List.isEmpty_iff.1 out]
    exact ⟨rfl, unset⟩

/-- A list that is left out when it is empty is restored if its items are. -/
theorem list {get : R → List β} {set : List β → R → R} (h : c.Restores p k hear)
    (unset : set [] before = before) :
    (Field.list name c get set).Step p (k + 1) r before (set ((get r).map hear) before) true :=
  of h.list fun out => by
    rw [List.isEmpty_iff.1 out]
    exact ⟨rfl, unset⟩

/-- A flag that is left out when it is not set is restored. -/
theorem flag {get : R → Bool} {set : Bool → R → R} (unset : set false before = before) :
    (Field.flag name get set).Step p k r before (set (get r) before) true :=
  of .flag fun out => by
    have clear : get r = false := by simpa using out
    rw [clear]
    exact ⟨rfl, unset⟩

/-- A dictionary that is left out when it is empty is restored. -/
theorem dictionary {get : R → Dictionary} {set : Dictionary → R → R}
    (unset : set .empty before = before) :
    (Field.of name .dictionary get set Dictionary.isEmpty).Step p (k + 1) r before
      (set ((get r).mapTexts p.hear) before) true :=
  of .dictionary fun out => by
    have empty : get r = .empty := Dictionary.ext (List.isEmpty_iff.1 out)
    rw [empty]
    exact ⟨rfl, unset⟩

end Step

/-- What is written of a record for several fields takes the record that is being read from
`before` to `after`, if all values can be read. -/
inductive Steps (p : Presentation) (k : Nat) (r : R) : List (Field R) → R → R → Bool → Prop
  | nil {done : R} : Steps p k r [] done done true
  | consIf {f : Field R} {fs : List (Field R)} {start next done : R} {first rest : Bool} :
    f.Step p k r start next first → Steps p k r fs next done rest →
    Steps p k r (f :: fs) start done (first && rest)

/-- A field that can always be read comes before others. -/
theorem Steps.cons {f : Field R} {fs : List (Field R)} {start next done : R} {rest : Bool}
    (step : f.Step p k r start next true) (steps : Steps p k r fs next done rest) :
    Steps p k r (f :: fs) start done rest :=
  .consIf step steps

/-- The members that are written for fields. -/
def membersOf (r : R) (fields : List (Field R)) : List (String × Json) :=
  fields.filterMap fun f => (f.write r).map (f.name, ·)

/-- The member for the first field comes first, if one is written. -/
theorem membersOf_cons (r : R) (f : Field R) (fs : List (Field R)) :
    membersOf r (f :: fs) = match f.write r with
      | none => membersOf r fs
      | some j => (f.name, j) :: membersOf r fs := by
  rw [membersOf, List.filterMap_cons]
  cases f.write r <;> rfl

/-- Whether fields have different names, which are heard as they are. -/
def areNamed (fields : List (Field R)) : Bool :=
  (fields.all fun f => Text.isClear f.name) && decide (fields.map (·.name)).Nodup

/-- A field is found by its name among fields with different names. -/
theorem find?_name {fields : List (Field R)} {f : Field R} (distinct : (fields.map (·.name)).Nodup)
    (there : f ∈ fields) : fields.find? (·.name == f.name) = some f := by
  induction fields with
  | nil => cases there
  | cons g fields ih =>
    rw [List.map_cons, List.nodup_cons] at distinct
    rcases List.mem_cons.1 there with rfl | there
    · simp
    · have other : g.name ≠ f.name := fun same =>
        distinct.1 (same ▸ List.mem_map_of_mem there)
      rw [List.find?_cons_of_neg (by simpa using other), ih distinct.2 there]

/-- What is written for fields fits. -/
theorem Steps.fits {fs : List (Field R)} {readable : Bool}
    (h : Steps p k r fs before after readable) : Json.membersFit (membersOf r fs) k = true := by
  induction h with
  | nil => rfl
  | @consIf f fs _ _ _ _ _ step _ ih =>
    rw [membersOf_cons]
    cases write : f.write r with
    | none => exact ih
    | some j =>
      rw [Json.membersFit, (step.written j write).1, ih]
      rfl

/-- Reading the members that are written for the last ones of the fields of a record, where the
names before them have been seen. -/
theorem Steps.readNamed {fields fs : List (Field R)} {readable : Bool}
    (h : Steps p k r fs before after readable) (named : areNamed fields = true)
    (subset : ∀ f ∈ fs, f ∈ fields) (distinct : (fs.map (·.name)).Nodup) (n : Nat) (deep : k ≤ n)
    (seen : List String) (fresh : ∀ f ∈ fs, f.name ∉ seen) :
    ∃ seen', (∀ name ∈ seen, name ∈ seen') ∧ (∀ f ∈ fs, f.required = true → f.name ∈ seen') ∧
      Field.readNamed fields ((membersOf r fs).map fun m => (p.hear m.1, p.source n m.2)) seen
          before
        = given readable (seen', after) := by
  -- Every member that is read adds its name, so the names seen before are not fixed.
  induction h generalizing seen with
  | nil => exact ⟨seen, fun _ there => there, by simp, rfl⟩
  | @consIf f fs start next done first rest step _ ih =>
    rw [List.map_cons, List.nodup_cons] at distinct
    have subset' : ∀ g ∈ fs, g ∈ fields := fun g there => subset g (List.mem_cons_of_mem f there)
    rw [membersOf_cons]
    cases write : f.write r with
    | none =>
      obtain ⟨optional, clear, rfl⟩ := step.leftOut write
      obtain ⟨seen', kept, required, reads⟩ := ih subset' distinct.2 seen fun g there =>
        fresh g (List.mem_cons_of_mem f there)
      refine ⟨seen', kept, fun g there need => ?_, ?_⟩
      · rcases List.mem_cons.1 there with rfl | there
        · rw [optional] at need
          cases need
        · exact required g there need
      · rw [clear]
        exact reads
    | some j =>
      have fresh' : ∀ g ∈ fs, g.name ∉ f.name :: seen := by
        intro g there again
        rcases List.mem_cons.1 again with same | again
        · exact distinct.1 (same ▸ List.mem_map_of_mem there)
        · exact fresh g (List.mem_cons_of_mem f there) again
      obtain ⟨seen', kept, required, reads⟩ := ih subset' distinct.2 (f.name :: seen) fresh'
      refine ⟨seen', fun name there => kept name (List.mem_cons_of_mem _ there), ?_, ?_⟩
      · intro g there need
        rcases List.mem_cons.1 there with rfl | there
        · exact kept g.name List.mem_cons_self
        · exact required g there need
      · obtain ⟨clear, names⟩ := (Bool.and_eq_true _ _).mp named
        have here : f ∈ fields := subset f List.mem_cons_self
        have unseen : seen.contains f.name = false := by simpa using fresh f List.mem_cons_self
        rw [List.map_cons, Field.readNamed, p.hear_clear _ (List.all_eq_true.1 clear f here),
          find?_name (of_decide_eq_true names) here]
        simp only [unseen]
        change (f.read (p.source n j) start >>= _) = _
        rw [(step.written j write).2 n deep]
        cases first with
        | false => rfl
        | true => exact reads

end Field

/-- A record is restored if its fields are, with one collection more to open. -/
theorem Codec.Restores.record {fields : List (Field R)} {start : R} {p : Presentation} {k : Nat}
    {hear : R → R} {readable : R → Bool} (named : Field.areNamed fields = true)
    (steps : ∀ r, Field.Steps p k r fields start (hear r) (readable r)) :
    (Codec.record fields start).Restores p (k + 1) hear readable where
  fits r := (steps r).fits
  present _ h := by cases h
  reads r n deep := by
    obtain ⟨n, rfl⟩ : ∃ m, n = m + 1 := ⟨n - 1, by omega⟩
    have distinct : (fields.map (·.name)).Nodup :=
      of_decide_eq_true ((Bool.and_eq_true _ _).mp named).2
    obtain ⟨seen, -, required, reads⟩ := (steps r).readNamed named (fun _ there => there) distinct n
      (by omega) [] (by simp)
    have complete : (fields.any fun f => f.required && !seen.contains f.name) = false := by
      simpa using fun f there need => required f there need
    change ((p.source (n + 1) (.object (Field.membersOf r fields))).layout >>= _) = _
    rw [p.layout, pure_bind]
    change (Field.readNamed fields _ [] start >>= _) = _
    rw [reads]
    cases readable r with
    | false => rfl
    | true =>
      change (if (fields.any fun f => f.required && !seen.contains f.name) = true then _ else _) = _
      rw [complete]
      rfl

/-- What arrives as a JSON text of a value that was written is read as this value, where nothing is
heard otherwise. -/
theorem Codec.Restores.ofJsonText {c : Codec β} {k : Nat}
    (h : c.Restores (.document true id fun _ _ => rfl) k id) {s : String} {b : β}
    (written : Json.ofText? s = some (c.write b)) : c.ofJsonText s = .ok b := by
  have stays : (c.write b).mapTexts id = c.write b := Json.mapTexts_eq_self _ fun _ _ => rfl
  have reads : c.read (.json true (Json.Document.ofJson ((c.write b).mapTexts id))) = pure b :=
    h.reads b k (Nat.le_refl k)
  rw [stays] at reads
  rw [Codec.ofJsonText, Json.ofText_eq_of_ofText? written]
  dsimp only
  rw [reads]
  rfl

end WorkloadForms
