import WorkloadForms.Text.Token

/-!
# Reading joined lists

`tokens_joined` says what is read of parts that were joined with the separator between them: the
tokens of every part, one after the other. The tokens of a text are not empty, not to be trimmed,
and without the separator (`IsToken`), and a list of such texts survives being joined and read
again (`tokens_joined_of_isToken`), so a list of tokens does (`tokens_joined_tokens`).
-/

namespace WorkloadForms.Text

/-! ## Parts -/

/-- The parts of two texts with a separator between them are the parts of each. -/
theorem split_append_sep (sep : Char) (a b : List Char) :
    split sep (a ++ sep :: b) = split sep a ++ split sep b := by
  induction a with
  | nil => simp [split]
  | cons c a ih =>
    by_cases h : c = sep
    · simp [split, h, ih]
    · rw [List.cons_append, split, if_neg h, ih, split, if_neg h]
      cases e : split sep a with
      | nil => exact absurd e (split_ne_nil sep a)
      | cons part parts => rfl

/-- A text without the separator is its only part. -/
theorem split_eq_singleton {sep : Char} {s : List Char} (h : sep ∉ s) : split sep s = [s] := by
  induction s with
  | nil => rfl
  | cons c s ih =>
    rw [List.mem_cons, not_or] at h
    rw [split, if_neg (Ne.symm h.1), ih h.2]

/-- No part holds the separator. -/
theorem sep_notMem_of_mem_split {sep : Char} {s part : List Char} (h : part ∈ split sep s) :
    sep ∉ part := by
  induction s generalizing part with
  | nil => simp_all [split]
  | cons c s ih =>
    by_cases hc : c = sep
    · rw [split, if_pos hc] at h
      rcases List.mem_cons.1 h with rfl | h
      · simp
      · exact ih h
    · rw [split, if_neg hc] at h
      cases e : split sep s with
      | nil => exact absurd e (split_ne_nil sep s)
      | cons first parts =>
        rw [e] at h ih
        rcases List.mem_cons.1 h with rfl | h
        · have := ih (List.mem_cons_self ..)
          simp [Ne.symm hc, this]
        · exact ih (List.mem_cons_of_mem _ h)

/-! ## Trimming -/

/-- A text that neither starts nor ends with a blank is not trimmed. -/
theorem trim_eq_self {s : List Char} (first : ∀ c, s.head? = some c → isBlank c = false)
    (last : ∀ c, s.getLast? = some c → isBlank c = false) : trim s = s := by
  rw [trim, trimLeft_eq_self_iff.2 first, trimRight, trimLeft_eq_self_iff.2, List.reverse_reverse]
  rw [List.head?_reverse]
  exact last

/-- What is trimmed on the right ends with no blank. -/
theorem getLast?_trimRight {s : List Char} {c : Char} (h : (trimRight s).getLast? = some c) :
    isBlank c = false := by
  rw [trimRight, List.getLast?_reverse] at h
  exact head?_trimLeft h

/-- Trimming on the right leaves a beginning of the text. -/
theorem trimRight_isPrefix (s : List Char) : trimRight s <+: s := by
  have h : trimLeft s.reverse <:+ s.reverse := List.dropWhile_suffix _
  simpa [trimRight] using List.reverse_prefix.2 h

/-- What is trimmed starts with no blank. -/
theorem head?_trim {s : List Char} {c : Char} (h : (trim s).head? = some c) :
    isBlank c = false := by
  obtain ⟨r, hr⟩ := trimRight_isPrefix (trimLeft s)
  apply head?_trimLeft (s := s)
  rw [← hr, ← h, trim]
  cases e : trimRight (trimLeft s) with
  | nil => rw [trim, e] at h; cases h
  | cons => rfl

/-- Trimming twice is trimming once. -/
theorem trim_trim (s : List Char) : trim (trim s) = trim s :=
  trim_eq_self (fun _ => head?_trim) fun _ => getLast?_trimRight

/-- The characters of a trimmed text are those of the text. -/
theorem mem_of_mem_trim {s : List Char} {c : Char} (h : c ∈ trim s) : c ∈ s :=
  (List.dropWhile_sublist isBlank).subset ((trimRight_isPrefix _).subset h)

/-! ## Tokens -/

/-- The tokens of two texts with a separator between them are the tokens of each. -/
theorem tokenChars_append_sep (sep : Char) (a b : List Char) :
    tokenChars sep (a ++ sep :: b) = tokenChars sep a ++ tokenChars sep b := by
  simp [tokenChars, split_append_sep]

/-- The tokens of joined parts are those of every part. -/
theorem tokenChars_joinChars (sep : Char) (parts : List (List Char)) :
    tokenChars sep (joinChars sep parts) = parts.flatMap (tokenChars sep) := by
  induction parts with
  | nil => rfl
  | cons part parts ih =>
    cases parts with
    | nil => simp [joinChars]
    | cons => rw [joinChars, tokenChars_append_sep, ih, List.flatMap_cons] <;> simp

/-- What is read of joined parts: the tokens of every part. -/
theorem tokens_joined (sep : Char) (parts : List String) :
    tokens sep (joined sep parts) = parts.flatMap (tokens sep) := by
  rw [tokens, joined, String.toList_ofList, tokenChars_joinChars, List.map_flatMap,
    List.flatMap_map]
  rfl

/-! ## Texts that may be tokens -/

/-- Whether a text may be a token: it is not empty, it neither starts nor ends with a blank, and it
does not hold the separator. -/
structure IsToken (sep : Char) (s : String) : Prop where
  filled : s ≠ ""
  trimmed : trimmed s = s
  single : sep ∉ s.toList

/-- Every token is a text that may be one. -/
theorem isToken_of_mem_tokens {sep : Char} {s t : String} (h : t ∈ tokens sep s) :
    IsToken sep t := by
  obtain ⟨cs, hcs, rfl⟩ := List.mem_map.1 h
  have filled := ne_nil_of_mem_tokenChars hcs
  simp only [tokenChars, List.mem_filter, List.mem_map] at hcs
  obtain ⟨⟨part, hp, rfl⟩, -⟩ := hcs
  refine ⟨?filled, ?trimmed, ?single⟩
  case filled => simpa using filled
  case trimmed => rw [trimmed, String.toList_ofList, trim_trim]
  case single =>
    rw [String.toList_ofList]
    exact fun hm => sep_notMem_of_mem_split hp (mem_of_mem_trim hm)

/-- A text that may be a token is its own only token. -/
theorem tokens_of_isToken {sep : Char} {t : String} (h : IsToken sep t) : tokens sep t = [t] := by
  have trim_self : trim t.toList = t.toList := by
    simpa [trimmed] using congrArg String.toList h.trimmed
  simp [tokens, tokenChars, split_eq_singleton h.single, trim_self, h.filled]

/-- Texts that may be tokens survive being joined and read again. -/
theorem tokens_joined_of_isToken {sep : Char} {parts : List String}
    (h : ∀ t ∈ parts, IsToken sep t) : tokens sep (joined sep parts) = parts := by
  rw [tokens_joined]
  calc parts.flatMap (tokens sep)
      = (parts.map fun t => [t]).flatten := by
        rw [List.flatMap_def, List.map_congr_left fun t ht => tokens_of_isToken (h t ht)]
    _ = parts := by rw [← List.flatMap_def]; simp

/-- Texts are the tokens of each of them exactly when every one may be a token. -/
theorem flatMap_tokens_eq_self_iff {sep : Char} {ts : List String} :
    ts.flatMap (tokens sep) = ts ↔ ∀ t ∈ ts, IsToken sep t := by
  constructor
  · intro same t there
    rw [← same, List.mem_flatMap] at there
    obtain ⟨s, -, token⟩ := there
    exact isToken_of_mem_tokens token
  · intro all
    rw [← tokens_joined, tokens_joined_of_isToken all]

/-- The parts of a text between blanks are blank exactly when the text is. -/
theorem forall_mem_split_allBlank_iff {sep : Char} (hs : isBlank sep = true) (s : List Char) :
    (∀ part ∈ split sep s, AllBlank part) ↔ AllBlank s := by
  induction s with
  | nil => simp [split, AllBlank]
  | cons c s ih =>
    have cons : AllBlank (c :: s) ↔ isBlank c = true ∧ AllBlank s := List.forall_mem_cons
    rw [split, cons, ← ih]
    split
    · next same => simp [same, hs, AllBlank]
    · cases e : split sep s with
      | nil => exact absurd e (split_ne_nil sep s)
      | cons part parts => simp [AllBlank, and_assoc]

/-- A text has no tokens between blanks exactly when it is blank. -/
theorem tokens_eq_nil_iff {sep : Char} (hs : isBlank sep = true) {s : String} :
    tokens sep s = [] ↔ blank s = true := by
  rw [blank_eq_true_iff, ← forall_mem_split_allBlank_iff hs, tokens, List.map_eq_nil_iff]
  simp [tokenChars, trim_eq_nil_iff]

/-- Tokens survive being joined and read again. -/
@[simp] theorem tokens_joined_tokens (sep : Char) (s : String) :
    tokens sep (joined sep (tokens sep s)) = tokens sep s :=
  tokens_joined_of_isToken fun _ => isToken_of_mem_tokens

/-- `tokens_joined` for the words of a command. -/
theorem lines_joined (parts : List String) : lines (joined '\n' parts) = parts.flatMap lines :=
  tokens_joined '\n' parts

/-- A command has no words exactly when it is blank. -/
theorem lines_eq_nil_iff {s : String} : lines s = [] ↔ blank s = true :=
  tokens_eq_nil_iff (by decide)

/-- `tokens_joined_tokens` for the words of a command. -/
@[simp] theorem lines_joined_lines (s : String) : lines (joined '\n' (lines s)) = lines s :=
  tokens_joined_tokens '\n' s

/-- `tokens_joined_tokens` for comma separated values. -/
@[simp] theorem commas_joined_commas (s : String) : commas (joined ',' (commas s)) = commas s :=
  tokens_joined_tokens ',' s

end WorkloadForms.Text
