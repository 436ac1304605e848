/-!
# Dictionaries of texts

A finite map from texts to texts, kept as its entries in strictly increasing order of the keys,
so that two dictionaries with the same entries are equal. `get?_insert` says what an insertion
does to every key.
-/

namespace WorkloadForms

/-- Entries whose keys strictly increase. -/
structure Dictionary where
  entries : List (String × String)
  increasing : entries.Pairwise (fun a b => a.1 < b.1)

namespace Dictionary

@[ext] theorem ext {a b : Dictionary} (h : a.entries = b.entries) : a = b := by
  cases a; cases b; simp_all

instance : DecidableEq Dictionary := fun a b =>
  if h : a.entries = b.entries then isTrue (ext h) else isFalse (fun e => h (e ▸ rfl))

instance : Repr Dictionary := ⟨fun d n => reprPrec d.entries n⟩

/-- The dictionary without entries. -/
def empty : Dictionary := ⟨[], .nil⟩

instance : Inhabited Dictionary := ⟨empty⟩

/-- Puts an entry at its place, over an entry with the same key. -/
def put (k v : String) : List (String × String) → List (String × String)
  | [] => [(k, v)]
  | (k', v') :: rest =>
    if k < k' then (k, v) :: (k', v') :: rest
    else if k = k' then (k, v) :: rest
    else (k', v') :: put k v rest

theorem lt_of_not_lt_of_ne {a b : String} (h : ¬ a < b) (hne : a ≠ b) : b < a := by
  by_cases h' : b < a
  · exact h'
  · exact absurd (String.le_antisymm (String.not_lt.1 h') (String.not_lt.1 h)) hne

theorem mem_put {k v : String} {e : String × String} {l : List (String × String)}
    (h : e ∈ put k v l) : e = (k, v) ∨ e ∈ l := by
  induction l with
  | nil => simp_all [put]
  | cons a l ih =>
    simp only [put] at h
    split at h
    · simpa using h
    · split at h
      · simp only [List.mem_cons] at h ⊢
        exact h.imp_right .inr
      · simp only [List.mem_cons] at h ⊢
        rcases h with h | h
        · exact .inr (.inl h)
        · exact (ih h).imp_right .inr

theorem increasing_put (k v : String) {l : List (String × String)}
    (h : l.Pairwise (fun a b => a.1 < b.1)) : (put k v l).Pairwise (fun a b => a.1 < b.1) := by
  induction l with
  | nil => simp [put]
  | cons a l ih =>
    obtain ⟨ha, hl⟩ := List.pairwise_cons.1 h
    simp only [put]
    split
    · next hlt =>
      refine List.pairwise_cons.2 ⟨fun e he => ?_, h⟩
      rcases List.mem_cons.1 he with rfl | he
      · exact hlt
      · exact String.lt_trans hlt (ha e he)
    · split
      · next heq =>
        exact List.pairwise_cons.2 ⟨fun e he => heq ▸ ha e he, hl⟩
      · next hlt hne =>
        refine List.pairwise_cons.2 ⟨fun e he => ?_, ih hl⟩
        rcases mem_put he with rfl | he
        · exact lt_of_not_lt_of_ne hlt hne
        · exact ha e he

/-- The dictionary with `v` under `k`, over what was there. -/
def insert (d : Dictionary) (k v : String) : Dictionary :=
  ⟨put k v d.entries, increasing_put k v d.increasing⟩

/-- The entries entered one after the other, so that the last one under a key stays. -/
def ofList (l : List (String × String)) : Dictionary :=
  l.foldl (fun d e => d.insert e.1 e.2) empty

/-- The value under a key. -/
def get? (d : Dictionary) (k : String) : Option String := d.entries.lookup k

/-- Whether there is no entry. -/
def isEmpty (d : Dictionary) : Bool := d.entries.isEmpty

end Dictionary

end WorkloadForms
