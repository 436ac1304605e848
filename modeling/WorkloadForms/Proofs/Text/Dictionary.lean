import WorkloadForms.Text.Dictionary

/-!
# Dictionaries as maps

A dictionary is determined by the value it has under every key (`ext_get?`). Under a key of a list
of entries that is entered, the last value stays (`get?_ofList`), so that entering the entries of a
dictionary gives the dictionary back (`ofList_entries`).
-/

namespace WorkloadForms.Dictionary

/-! ## Lookup -/

/-- Looking up a key among entries, the first one apart. -/
@[simp] theorem lookup_cons_eq (e : String × String) (l : List (String × String)) (key : String) :
    (e :: l).lookup key = if key = e.1 then some e.2 else l.lookup key := by
  rw [List.lookup_cons]
  cases h : key == e.1 <;> simp_all

/-- Looking up a key in entries where another one was put, or the same one. -/
theorem lookup_put (k v key : String) (l : List (String × String)) :
    (put k v l).lookup key = if key = k then some v else l.lookup key := by
  induction l with
  | nil => simp [put]
  | cons e l ih =>
    simp only [put]
    split
    · rw [lookup_cons_eq]
    · split
      · next same => by_cases h : key = k <;> simp [h, ← same]
      · next different => by_cases h : key = k <;> simp_all

/-- The value under a key after an insertion. -/
@[simp] theorem get?_insert (d : Dictionary) (k v key : String) :
    (d.insert k v).get? key = if key = k then some v else d.get? key :=
  lookup_put k v key d.entries

/-- An entry of a list without two entries for a key is found by its key. -/
theorem lookup_eq_some_of_mem {l : List (String × String)} {k v : String}
    (distinct : l.Pairwise fun a b => a.1 ≠ b.1) (h : (k, v) ∈ l) : l.lookup k = some v := by
  induction l with
  | nil => cases h
  | cons e l ih =>
    obtain ⟨first, rest⟩ := List.pairwise_cons.1 distinct
    rcases List.mem_cons.1 h with rfl | h
    · simp
    · have : k ≠ e.1 := (first _ h).symm
      simp [this, ih rest h]

/-- What is found in a list is an entry of it. -/
theorem mem_of_lookup_eq_some {l : List (String × String)} {k v : String}
    (h : l.lookup k = some v) : (k, v) ∈ l := by
  obtain ⟨before, behind, rfl, -⟩ := List.lookup_eq_some_iff.1 h
  simp

/-- No key of a dictionary has two entries. -/
theorem distinct (d : Dictionary) : d.entries.Pairwise fun a b => a.1 ≠ b.1 :=
  d.increasing.imp String.ne_of_lt

/-- The value under a key is that of its entry. -/
theorem get?_eq_some_iff {d : Dictionary} {k v : String} :
    d.get? k = some v ↔ (k, v) ∈ d.entries :=
  ⟨mem_of_lookup_eq_some, lookup_eq_some_of_mem d.distinct⟩

/-- Dictionaries with the same value under every key are the same. -/
theorem ext_get? {a b : Dictionary} (h : ∀ k, a.get? k = b.get? k) : a = b := by
  have nodup (d : Dictionary) : d.entries.Nodup :=
    d.distinct.imp fun different same => different (by rw [same])
  have members : ∀ e, e ∈ a.entries ↔ e ∈ b.entries := by
    intro e
    rw [← get?_eq_some_iff, ← get?_eq_some_iff, h]
  refine ext (List.Perm.eq_of_pairwise (fun x y _ _ xy yx => ?_) a.increasing b.increasing
    ((List.perm_ext_iff_of_nodup (nodup a) (nodup b)).2 members))
  exact absurd yx (String.lt_asymm xy)

/-- A dictionary is empty when it has no value under any key. -/
theorem isEmpty_iff_get? {d : Dictionary} : d.isEmpty = true ↔ ∀ k, d.get? k = none := by
  rw [isEmpty, List.isEmpty_iff]
  constructor
  · intro none k
    rw [get?, none, List.lookup_nil]
  · intro none
    refine List.eq_nil_iff_forall_not_mem.2 fun (k, v) there => ?_
    rw [← get?_eq_some_iff, none] at there
    cases there

/-! ## Entering entries -/

/-- The last value that is entered under a key stays. -/
theorem get?_foldl_insert (l : List (String × String)) (d : Dictionary) (k : String) :
    (l.foldl (fun d e => d.insert e.1 e.2) d).get? k = (l.reverse.lookup k).or (d.get? k) := by
  induction l generalizing d with
  | nil => rfl
  | cons e l ih =>
    rw [List.foldl_cons, ih, List.reverse_cons, List.lookup_append, Option.or_assoc, get?_insert]
    by_cases h : k = e.1 <;> simp [lookup_cons_eq e [], h]

/-- Under a key of a dictionary of entries is the last value of that key. -/
theorem get?_ofList (l : List (String × String)) (k : String) :
    (ofList l).get? k = l.reverse.lookup k := by
  rw [ofList, get?_foldl_insert]
  simp [get?, empty]

/-- Entries that are looked up by keys without two values for one may come in any order. -/
theorem lookup_reverse {l : List (String × String)}
    (distinct : l.Pairwise fun a b => a.1 ≠ b.1) (k : String) :
    l.reverse.lookup k = l.lookup k := by
  have reversed : l.reverse.Pairwise fun a b => a.1 ≠ b.1 :=
    List.pairwise_reverse.2 (distinct.imp fun h => h.symm)
  apply Option.ext
  intro v
  constructor
  · intro h
    exact lookup_eq_some_of_mem distinct (List.mem_reverse.1 (mem_of_lookup_eq_some h))
  · intro h
    exact lookup_eq_some_of_mem reversed (List.mem_reverse.2 (mem_of_lookup_eq_some h))

/-- Entering the entries of a dictionary gives the dictionary. -/
@[simp] theorem ofList_entries (d : Dictionary) : ofList d.entries = d := by
  apply ext_get?
  intro k
  rw [get?_ofList, lookup_reverse d.distinct, get?]

/-- An entry of a dictionary is one that was entered. -/
theorem mem_of_mem_ofList {l : List (String × String)} {e : String × String}
    (h : e ∈ (ofList l).entries) : e ∈ l := by
  have := get?_eq_some_iff.2 h
  rw [get?_ofList] at this
  exact List.mem_reverse.1 (mem_of_lookup_eq_some this)

/-- A dictionary of entries is empty when there are none. -/
theorem isEmpty_ofList (l : List (String × String)) : (ofList l).isEmpty = l.isEmpty := by
  cases l with
  | nil => rfl
  | cons e l =>
    have found : ((ofList (e :: l)).get? e.1).isSome = true := by
      rw [get?_ofList, List.reverse_cons, List.lookup_append]
      simp
    rw [isEmpty]
    cases h : (ofList (e :: l)).entries with
    | nil => simp [get?, h] at found
    | cons => rfl

end WorkloadForms.Dictionary
