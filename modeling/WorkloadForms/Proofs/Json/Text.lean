import Mathlib.Tactic.SplitIfs
import WorkloadForms.Json.Printer
import WorkloadForms.Proofs.Number.Decimal
import WorkloadForms.Record.Source

/-!
# Compact JSON texts are read back

A JSON value whose numbers are integers of 64 bits and whose collections are not nested too deeply
(`Json.fits`) is read back from its compact text (`Json.ofText?_compact`).
-/

namespace WorkloadForms.Json

open Document

/-! ## Values that can be read back -/

mutual

/-- Whether all numbers of a value are integers of 64 bits and at most so many collections are
nested in it. -/
def fits : Json → Nat → Bool
  | .int i, _ => Number.fits64 i
  | .decimal _, _ => false
  | .list _, 0 => false
  | .list items, n + 1 => itemsFit items n
  | .object _, 0 => false
  | .object members, n + 1 => membersFit members n
  | _, _ => true

/-- Whether all items fit. -/
def itemsFit : List Json → Nat → Bool
  | [], _ => true
  | item :: items, n => fits item n && itemsFit items n

/-- Whether the values of all members fit. -/
def membersFit : List (String × Json) → Nat → Bool
  | [], _ => true
  | (_, value) :: members, n => fits value n && membersFit members n

end

/-! ## Quoted texts -/

/-- A character that is no blank is not skipped. -/
theorem skipSpace_cons {c : Char} (h : isSpace c = false) (s : List Char) :
    skipSpace (c :: s) = c :: s := by
  simp [skipSpace, h]

/-- A text is read up to the quote that closes it. -/
theorem value_text {depth n : Nat} {s cs rest : List Char}
    (read : quotedText s = some (some cs, rest)) :
    value depth (n + 1) ('"' :: s) = (.text (String.ofList cs), some rest) := by
  simp (disch := decide) [value, skipSpace_cons, read]

/-- The piece that a character is read as when it was written in a quoted text. -/
def pieceOf (c : Char) : Piece :=
  if c.toNat < 32 ∧ c ≠ '\n' ∧ c ≠ '\r' ∧ c ≠ '\t' ∧ c.toNat ≠ 8 ∧ c.toNat ≠ 12 then .unit c.toNat
  else .char c

/-- Two hexadecimal digits behind two zeros write a control character. -/
theorem number?_hexDigit {n : Nat} (h : n < 32) :
    Text.number? 16 ['0', '0', hexDigit (n / 16), hexDigit n] = some n := by
  revert n
  decide +kernel

/-- An escape of a single character is read as that character. -/
theorem pieces_plainEscape {e c : Char} (h : plainEscape? e = some c) (s : List Char) :
    pieces ('\\' :: e :: s) = (pieces s).map fun r => (.char c :: r.1, r.2) := by
  have other : e ≠ 'u' := by
    rintro rfl
    cases h
  simp [pieces, other, h]

/-- A character is read as one piece, however it is written. -/
theorem pieces_escape (c : Char) (s : List Char) :
    pieces (escape c ++ s) = (pieces s).map fun r => (pieceOf c :: r.1, r.2) := by
  have of {d : Char} (h : c.toNat = d.toNat) : c = d := by
    rw [← Char.ofNat_toNat c, h, Char.ofNat_toNat]
  rw [escape]
  split_ifs with quote slash feed ret tab back form control
  · subst quote; exact pieces_plainEscape rfl s
  · subst slash; exact pieces_plainEscape rfl s
  · subst feed; exact pieces_plainEscape rfl s
  · subst ret; exact pieces_plainEscape rfl s
  · subst tab; exact pieces_plainEscape rfl s
  · obtain rfl := of (d := Char.ofNat 8) back; exact pieces_plainEscape rfl s
  · obtain rfl := of (d := Char.ofNat 12) form; exact pieces_plainEscape rfl s
  · simp [pieces, pieceOf, number?_hexDigit, *]
  · simp [pieces, pieceOf, *]

/-- A unit that is no half of a surrogate pair stands for its character. -/
theorem pieceChars_unit {n : Nat} (whole : isSurrogate n = false) (ps : List Piece) :
    pieceChars (.unit n :: ps) = (pieceChars ps).map (Char.ofNat n :: ·) := by
  rw [pieceChars.eq_def]
  simp [whole]

/-- The piece of a character stands for the character. -/
theorem pieceChars_pieceOf (c : Char) (ps : List Piece) :
    pieceChars (pieceOf c :: ps) = (pieceChars ps).map (c :: ·) := by
  rw [pieceOf]
  split
  · next control =>
    have whole : isSurrogate c.toNat = false := by
      simp only [isSurrogate, Bool.and_eq_false_iff, decide_eq_false_iff_not]
      omega
    rw [pieceChars_unit whole, Char.ofNat_toNat]
  · rfl

/-- A text between quotes is read up to the quote that closes it. -/
theorem quotedText_escape (cs rest : List Char) :
    quotedText (cs.flatMap escape ++ '"' :: rest) = some (some cs, rest) := by
  have read : pieces (cs.flatMap escape ++ '"' :: rest) = some (cs.map pieceOf, rest) := by
    induction cs with
    | nil => rfl
    | cons c cs ih => rw [List.flatMap_cons, List.append_assoc, pieces_escape, ih]; rfl
  have held : pieceChars (cs.map pieceOf) = some cs := by
    clear read
    induction cs with
    | nil => rfl
    | cons c cs ih => rw [List.map_cons, pieceChars_pieceOf, ih]; rfl
  rw [quotedText, read, Option.map_some, held]

/-! ## Integers -/

/-- What may follow a value in a compact text: nothing, a comma or the end of a collection. -/
def Follows (rest : List Char) : Prop :=
  ∀ c ∈ rest.head?, c = ',' ∨ c = ']' ∨ c = '\x7d'

/-- The digits of a number end where something follows that may follow a value. -/
theorem digits_toDigits (n : Nat) {rest : List Char} (follows : Follows rest) :
    digits (Nat.toDigits 10 n ++ rest) = (Nat.toDigits 10 n, rest) := by
  have all : ∀ c ∈ Nat.toDigits 10 n, Text.isDigit c = true := fun c =>
    Text.isDigit_of_mem_toDigits
  have stop : rest.takeWhile Text.isDigit = [] ∧ rest.dropWhile Text.isDigit = rest := by
    cases rest with
    | nil => exact ⟨rfl, rfl⟩
    | cons c rest =>
      have : Text.isDigit c = false := by
        rcases follows c rfl with rfl | rfl | rfl <;> decide
      simp [this]
  rw [digits, List.takeWhile_append_of_pos all, List.dropWhile_append_of_pos all, stop.1, stop.2,
    List.append_nil]

/-- No fraction and no exponent stands where a value may be followed. -/
theorem parts_of_follows {rest : List Char} (follows : Follows rest) :
    fractionPart rest = some (none, rest) ∧ exponentPart rest = some (none, rest) := by
  cases rest with
  | nil => exact ⟨rfl, rfl⟩
  | cons c rest => rcases follows c rfl with rfl | rfl | rfl <;> exact ⟨rfl, rfl⟩

/-- A sign and the digits of an integer of 64 bits make this integer. -/
theorem numberOf_toDigits {i : Int} (fits : Number.fits64 i = true) {negative : Bool}
    (sign : negative = decide (i < 0)) (literal : List Char) :
    numberOf negative (Nat.toDigits 10 i.natAbs) none none literal = .int i := by
  have value : (if i < 0 then -(i.natAbs : Int) else i.natAbs) = i := by split <;> omega
  have minus : (decide (i < 0) && i.natAbs == 0) = false := by
    rw [Bool.and_eq_false_iff, decide_eq_false_iff_not, beq_eq_false_iff_ne]
    omega
  subst sign
  simp only [numberOf, Option.getD_none, List.append_nil, Text.number?_toDigits, Option.getD_some,
    decide_eq_true_eq, value, minus, fits]
  rfl

/-- An integer of 64 bits is read from its decimal text. -/
theorem number_toString {i : Int} (fits : Number.fits64 i = true) {rest : List Char}
    (follows : Follows rest) : number ((toString i).toList ++ rest) = some (.int i, rest) := by
  obtain ⟨fraction, exponent⟩ := parts_of_follows follows
  have whole : Nat.toDigits 10 i.natAbs ≠ [] := Nat.toDigits_ne_nil
  have leading : ¬ (1 < (Nat.toDigits 10 i.natAbs).length ∧
      (Nat.toDigits 10 i.natAbs).head? = some '0') := by
    rcases Yaml.Scalar.toDigits_cases i.natAbs with zero | ⟨d, ds, digits, nonzero, -⟩
    · simp [zero]
    · simp [digits, nonzero]
  rw [Yaml.Scalar.toList_toString]
  split
  · next negative =>
    simp [number, digits_toDigits _ follows, whole, leading, fraction, exponent,
      numberOf_toDigits fits (decide_eq_true negative).symm]
  · next positive =>
    have unsigned : ∀ r, Nat.toDigits 10 i.natAbs ++ rest ≠ '-' :: r := by
      rcases Yaml.Scalar.toDigits_cases i.natAbs with zero | ⟨d, ds, digits, -, digit⟩
      · simp [zero]
      · rw [digits]
        rintro r same
        obtain ⟨rfl, -⟩ := List.cons.inj same
        cases digit
    simp [number, digits_toDigits _ follows, whole, leading, fraction, exponent,
      numberOf_toDigits fits (decide_eq_false positive).symm]

/-- An integer starts with a minus or a digit. -/
theorem exists_toString (i : Int) :
    ∃ c cs, (toString i).toList = c :: cs ∧ (c = '-' ∨ Text.isDigit c = true) := by
  have filled : Nat.toDigits 10 i.natAbs ≠ [] := Nat.toDigits_ne_nil
  obtain ⟨d, ds, digits⟩ := List.exists_cons_of_ne_nil filled
  rw [Yaml.Scalar.toList_toString]
  split
  · exact ⟨_, _, rfl, .inl rfl⟩
  · exact ⟨d, ds, digits, .inr (Text.isDigit_of_mem_toDigits (n := i.natAbs) (by simp [digits]))⟩

/-! ## One step of reading -/

/-- A text that starts with neither a blank nor the end of a collection. -/
structure Opens (s : List Char) : Prop where
  skip : skipSpace s = s
  nonempty : s ≠ []
  list : ∀ r, s ≠ ']' :: r
  object : ∀ r, s ≠ '\x7d' :: r

/-- A character that is neither a blank nor the end of a collection opens a value. -/
theorem opens_cons {c : Char} (h : isSpace c = false ∧ c ≠ ']' ∧ c ≠ '\x7d') (s : List Char) :
    Opens (c :: s) where
  skip := skipSpace_cons h.1 s
  nonempty := List.cons_ne_nil c s
  list _ same := h.2.1 (List.cons.inj same).1
  object _ same := h.2.2 (List.cons.inj same).1

/-- A minus or a digit is none of the characters that values of other types start with. -/
theorem ne_of_number {c d : Char} (h : c = '-' ∨ Text.isDigit c = true)
    (other : d ≠ '-' ∧ Text.isDigit d = false) : c ≠ d := by
  rintro rfl
  rcases h with minus | digit
  · exact other.1 minus
  · rw [digit] at other
    cases other.2

/-- A minus or a digit opens a value. -/
theorem opens_number {c : Char} (h : c = '-' ∨ Text.isDigit c = true) (s : List Char) :
    Opens (c :: s) := by
  refine opens_cons ⟨?_, ne_of_number h (by decide), ne_of_number h (by decide)⟩ s
  have blank : c ≠ ' ' ∧ c ≠ '\n' ∧ c ≠ '\t' ∧ c ≠ '\r' :=
    ⟨ne_of_number h (by decide), ne_of_number h (by decide), ne_of_number h (by decide),
      ne_of_number h (by decide)⟩
  simpa [isSpace, and_assoc] using blank

/-- The compact text of a value opens it. -/
theorem opens_compactChars {j : Json} {n : Nat} (fits : j.fits n = true) (rest : List Char) :
    Opens (j.compactChars ++ rest) := by
  cases j with
  | null => exact opens_cons (by decide) _
  | bool b => cases b <;> exact opens_cons (by decide) _
  | int i =>
    obtain ⟨c, cs, form, start⟩ := exists_toString i
    have chars : (Json.int i).compactChars = c :: cs := form
    rw [chars]
    exact opens_number start (cs ++ rest)
  | decimal l => cases fits
  | text s => exact opens_cons (by decide) _
  | list items => exact opens_cons (by decide) _
  | object members => exact opens_cons (by decide) _

section Steps

variable {depth n : Nat} {s r rest : List Char} {d : Document}

/-- A number is read where a minus or a digit stands. -/
theorem value_number {c : Char} (start : c = '-' ∨ Text.isDigit c = true)
    (read : number (c :: s) = some (d, rest)) : value depth (n + 1) (c :: s) = (d, some rest) := by
  have null : c ≠ 'n' := ne_of_number start (by decide)
  have true : c ≠ 't' := ne_of_number start (by decide)
  have false : c ≠ 'f' := ne_of_number start (by decide)
  have quote : c ≠ '"' := ne_of_number start (by decide)
  have list : c ≠ '[' := ne_of_number start (by decide)
  have object : c ≠ '\x7b' := ne_of_number start (by decide)
  rw [value, (opens_number start s).skip]
  simp [read, null, true, false, quote, list, object]

/-- An integer of 64 bits is read from its decimal text. -/
theorem value_int {i : Int} (fits : Number.fits64 i = true) (follows : Follows rest) :
    value depth (n + 1) ((toString i).toList ++ rest) = (.int i, some rest) := by
  obtain ⟨c, cs, form, start⟩ := exists_toString i
  have read := number_toString fits follows
  rw [form] at read ⊢
  exact value_number start read

/-- An empty list is read. -/
theorem value_list_nil (shallow : depth + 1 < depthLimit) :
    value depth (n + 1) ('[' :: ']' :: rest) = (.list [] true, some rest) := by
  simp (disch := decide) [value, skipSpace_cons, container, shallow]

/-- A list is read if its items are. -/
theorem value_list {ds : List Document} (shallow : depth + 1 < depthLimit) (opens : Opens s)
    (read : listItems (depth + 1) n s = (ds, some rest)) :
    value depth (n + 1) ('[' :: s) = (.list ds true, some rest) := by
  have other := opens.list
  rw [value, skipSpace_cons (by decide)]
  simp [opens.skip, read, container, shallow]

/-- An empty object is read. -/
theorem value_object_nil (shallow : depth + 1 < depthLimit) :
    value depth (n + 1) ('\x7b' :: '\x7d' :: rest) = (.object [] true, some rest) := by
  simp (disch := decide) [value, skipSpace_cons, container, shallow]

/-- An object is read if its members are. -/
theorem value_object {ms : List (String × Document)} (shallow : depth + 1 < depthLimit)
    (opens : Opens s) (read : objectMembers (depth + 1) n s = (ms, some rest)) :
    value depth (n + 1) ('\x7b' :: s) = (.object ms true, some rest) := by
  have other := opens.object
  rw [value, skipSpace_cons (by decide)]
  simp [opens.skip, read, container, shallow]

/-- The last item is the one before a bracket. -/
theorem listItems_last (read : value depth n s = (d, some (']' :: rest))) :
    listItems depth (n + 1) s = ([d], some rest) := by
  simp (disch := decide) [listItems, read, skipSpace_cons]

/-- A comma separates an item from those after it. -/
theorem listItems_cons {ds : List Document} (read : value depth n s = (d, some (',' :: r)))
    (opens : Opens r) (next : listItems depth n r = (ds, some rest)) :
    listItems depth (n + 1) s = (d :: ds, some rest) := by
  have comma : skipSpace (',' :: r) = ',' :: r := skipSpace_cons (by decide) r
  have other := opens.list
  have more := opens.nonempty
  simp [listItems, read, comma, opens.skip, next]

/-- A name and its colon are read before the value of a member. -/
theorem quotedText_name (name : String) (s : List Char) :
    quotedText (name.toList.flatMap escape ++ '"' :: ':' :: s) =
      some (some name.toList, ':' :: s) :=
  quotedText_escape name.toList (':' :: s)

/-- The last member is the one before a brace. -/
theorem objectMembers_last {name : String} (read : value depth n s = (d, some ('\x7d' :: rest))) :
    objectMembers depth (n + 1) (quoted name ++ ':' :: s) = ([(name, d)], some rest) := by
  simp (disch := decide) [objectMembers, quoted, quotedText_name, skipSpace_cons, read]

/-- A comma separates a member from those after it. -/
theorem objectMembers_cons {name : String} {ms : List (String × Document)}
    (read : value depth n s = (d, some (',' :: r)))
    (next : objectMembers depth n r = (ms, some rest)) :
    objectMembers depth (n + 1) (quoted name ++ ':' :: s) = ((name, d) :: ms, some rest) := by
  simp (disch := decide) [objectMembers, quoted, quotedText_name, skipSpace_cons, read, next]

end Steps

/-! ## Values -/

/-- A comma and the end of a collection may follow a value. -/
theorem follows_cons {c : Char} (h : c = ',' ∨ c = ']' ∨ c = '\x7d') (s : List Char) :
    Follows (c :: s) := by
  intro d same
  obtain rfl := Option.some.inj same
  exact h

/-- The compact text of items opens the first of them. -/
theorem opens_compactItems {item : Json} {items : List Json} {n : Nat}
    (fits : itemsFit (item :: items) n = true) (rest : List Char) :
    Opens (compactItems (item :: items) ++ rest) := by
  have first := ((Bool.and_eq_true _ _).mp fits).1
  cases items with
  | nil => exact opens_compactChars first rest
  | cons next items =>
    have chars : compactItems (item :: next :: items) =
        item.compactChars ++ ',' :: compactItems (next :: items) := by simp [compactItems]
    rw [chars, List.append_assoc]
    exact opens_compactChars first _

/-- The compact text of members opens with a quote. -/
theorem opens_compactMembers (member : String × Json) (members : List (String × Json))
    (rest : List Char) : Opens (compactMembers (member :: members) ++ rest) := by
  cases members <;> exact opens_cons (by decide) _

/-- The compact text of a value is not empty. -/
theorem length_compactChars_pos {j : Json} {n : Nat} (fits : j.fits n = true) :
    0 < j.compactChars.length := by
  have opens := opens_compactChars fits []
  rw [List.append_nil] at opens
  exact List.length_pos_iff.2 opens.nonempty

mutual

/-- A value that fits is read from its compact text, if no more collections are around it than the
limit leaves open. -/
theorem value_compactChars (j : Json) {n depth fuel : Nat} {rest : List Char}
    (fits : j.fits n = true) (shallow : depth + n < depthLimit)
    (enough : 2 * j.compactChars.length ≤ fuel) (follows : Follows rest) :
    value depth fuel (j.compactChars ++ rest) = (Document.ofJson j, some rest) := by
  -- A step into a value and one past it or into its items: two for a character are enough.
  obtain ⟨fuel, rfl⟩ : ∃ m, fuel = m + 1 :=
    ⟨fuel - 1, by have := length_compactChars_pos fits; omega⟩
  match j, n, fits with
  | .null, _, _ => rfl
  | .bool true, _, _ => rfl
  | .bool false, _, _ => rfl
  | .int i, _, fits => exact value_int fits follows
  | .text s, _, _ =>
    have chars : (Json.text s).compactChars = '"' :: (s.toList.flatMap escape ++ ['"']) := rfl
    rw [chars, List.cons_append, List.append_assoc, List.singleton_append,
      value_text (quotedText_escape s.toList rest), String.ofList_toList]
    rfl
  | .list [], n + 1, _ => exact value_list_nil (by omega)
  | .list (item :: items), n + 1, fits =>
    have chars : (Json.list (item :: items)).compactChars ++ rest =
        '[' :: (compactItems (item :: items) ++ ']' :: rest) := by simp [compactChars]
    rw [chars]
    refine value_list (by omega) (opens_compactItems fits _) ?_
    exact listItems_compactItems (item :: items) (List.cons_ne_nil _ _) fits (by omega)
      (by simp [compactChars] at enough; omega)
  | .object [], n + 1, _ => exact value_object_nil (by omega)
  | .object (member :: members), n + 1, fits =>
    have chars : (Json.object (member :: members)).compactChars ++ rest =
        '\x7b' :: (compactMembers (member :: members) ++ '\x7d' :: rest) := by simp [compactChars]
    rw [chars]
    refine value_object (by omega) (opens_compactMembers member members _) ?_
    exact objectMembers_compactMembers (member :: members) (List.cons_ne_nil _ _) fits (by omega)
      (by simp [compactChars] at enough; omega)

/-- Items that fit are read up to the bracket behind them. -/
theorem listItems_compactItems (items : List Json) (filled : items ≠ []) {n depth fuel : Nat}
    {rest : List Char} (fits : itemsFit items n = true) (shallow : depth + n < depthLimit)
    (enough : 2 * (compactItems items).length < fuel) :
    listItems depth fuel (compactItems items ++ ']' :: rest)
      = (Document.ofItems items, some rest) := by
  obtain ⟨fuel, rfl⟩ : ∃ m, fuel = m + 1 := ⟨fuel - 1, by omega⟩
  match items, filled, fits with
  | [item], _, fits =>
    have first := ((Bool.and_eq_true _ _).mp fits).1
    rw [compactItems] at enough ⊢
    exact listItems_last
      (value_compactChars item first shallow (by omega) (follows_cons (by simp) rest))
  | item :: next :: items, _, fits =>
    obtain ⟨first, others⟩ := (Bool.and_eq_true _ _).mp fits
    have chars : compactItems (item :: next :: items) ++ ']' :: rest =
        item.compactChars ++ ',' :: (compactItems (next :: items) ++ ']' :: rest) := by
      simp [compactItems]
    have length : (compactItems (item :: next :: items)).length =
        item.compactChars.length + (compactItems (next :: items)).length + 1 := by
      simp [compactItems]
      omega
    rw [chars]
    exact listItems_cons
      (value_compactChars item first shallow (by omega) (follows_cons (by simp) _))
      (opens_compactItems others _)
      (listItems_compactItems (next :: items) (List.cons_ne_nil _ _) others shallow (by omega))

/-- Members that fit are read up to the brace behind them. -/
theorem objectMembers_compactMembers (members : List (String × Json)) (filled : members ≠ [])
    {n depth fuel : Nat} {rest : List Char} (fits : membersFit members n = true)
    (shallow : depth + n < depthLimit) (enough : 2 * (compactMembers members).length < fuel) :
    objectMembers depth fuel (compactMembers members ++ '\x7d' :: rest)
      = (Document.ofMembers members, some rest) := by
  obtain ⟨fuel, rfl⟩ : ∃ m, fuel = m + 1 := ⟨fuel - 1, by omega⟩
  match members, filled, fits with
  | [(name, value)], _, fits =>
    have first := ((Bool.and_eq_true _ _).mp fits).1
    have chars : compactMembers [(name, value)] ++ '\x7d' :: rest =
        quoted name ++ ':' :: (value.compactChars ++ '\x7d' :: rest) := by simp [compactMembers]
    have length : value.compactChars.length ≤ (compactMembers [(name, value)]).length := by
      simp [compactMembers]
      omega
    rw [chars]
    exact objectMembers_last (value_compactChars value first shallow (by omega)
      (follows_cons (by simp) rest))
  | (name, value) :: next :: members, _, fits =>
    obtain ⟨first, others⟩ := (Bool.and_eq_true _ _).mp fits
    have chars : compactMembers ((name, value) :: next :: members) ++ '\x7d' :: rest =
        quoted name ++ ':' :: (value.compactChars ++ ',' ::
          (compactMembers (next :: members) ++ '\x7d' :: rest)) := by
      simp [compactMembers]
    have length : value.compactChars.length + (compactMembers (next :: members)).length
        < (compactMembers ((name, value) :: next :: members)).length := by
      simp [compactMembers]
      omega
    rw [chars]
    exact objectMembers_cons (value_compactChars value first shallow (by omega)
      (follows_cons (by simp) _))
      (objectMembers_compactMembers (next :: members) (List.cons_ne_nil _ _) others shallow
        (by omega))

end

mutual

/-- The document of a value stands for the value. -/
theorem toJson?_ofJson (j : Json) : (Document.ofJson j).toJson? = some j := by
  match j with
  | .null => rfl
  | .bool _ => rfl
  | .int _ => rfl
  | .decimal _ => rfl
  | .text _ => rfl
  | .list items => rw [Document.ofJson, Document.toJson?, itemsToJson?_ofItems]; rfl
  | .object members => rw [Document.ofJson, Document.toJson?, membersToJson?_ofMembers]; rfl

/-- The documents of items stand for the items. -/
theorem itemsToJson?_ofItems (items : List Json) :
    itemsToJson? (Document.ofItems items) = some items := by
  match items with
  | [] => rfl
  | item :: items =>
    rw [Document.ofItems, itemsToJson?, toJson?_ofJson, itemsToJson?_ofItems]
    rfl

/-- The documents of members stand for the members. -/
theorem membersToJson?_ofMembers (members : List (String × Json)) :
    membersToJson? (Document.ofMembers members) = some members := by
  match members with
  | [] => rfl
  | (name, value) :: members =>
    rw [Document.ofMembers, membersToJson?, toJson?_ofJson, membersToJson?_ofMembers]
    rfl

end

mutual

/-- A document that stands for a value is the document of that value. -/
theorem eq_ofJson (d : Document) {j : Json} (h : d.toJson? = some j) :
    d = Document.ofJson j := by
  match d with
  | .null | .bool _ | .int _ | .decimal _ | .text _ =>
    obtain rfl := Option.some.inj h
    rfl
  | .list items true =>
    obtain ⟨js, hjs, rfl⟩ := Option.map_eq_some_iff.1 h
    rw [Document.ofJson, ← eq_ofItems items hjs]
  | .object members true =>
    obtain ⟨ms, hms, rfl⟩ := Option.map_eq_some_iff.1 h
    rw [Document.ofJson, ← eq_ofMembers members hms]
  | .list _ false | .object _ false | .unusable | .broken => cases h

/-- Documents that stand for items are the documents of these items. -/
theorem eq_ofItems (ds : List Document) {js : List Json} (h : itemsToJson? ds = some js) :
    ds = Document.ofItems js := by
  match ds with
  | [] =>
    obtain rfl := Option.some.inj h
    rfl
  | d :: ds =>
    obtain ⟨j, hj, h⟩ := Option.bind_eq_some_iff.1 h
    obtain ⟨js, hjs, h⟩ := Option.bind_eq_some_iff.1 h
    obtain rfl := Option.some.inj h
    rw [Document.ofItems, ← eq_ofJson d hj, ← eq_ofItems ds hjs]

/-- Documents that stand for members are the documents of these members. -/
theorem eq_ofMembers (ds : List (String × Document)) {ms : List (String × Json)}
    (h : membersToJson? ds = some ms) : ds = Document.ofMembers ms := by
  match ds with
  | [] =>
    obtain rfl := Option.some.inj h
    rfl
  | (name, d) :: ds =>
    obtain ⟨j, hj, h⟩ := Option.bind_eq_some_iff.1 h
    obtain ⟨ms, hms, h⟩ := Option.bind_eq_some_iff.1 h
    obtain rfl := Option.some.inj h
    rw [Document.ofMembers, ← eq_ofJson d hj, ← eq_ofMembers ds hms]

end

/-! ## Texts -/

/-- A text that writes a value is read to its end, as the document of the value. -/
theorem ofText_eq_of_ofText? {s : String} {j : Json} (h : Json.ofText? s = some j) :
    Document.ofText s = (Document.ofJson j, true) := by
  rw [Json.ofText?] at h
  split at h
  · next d read => rw [read, eq_ofJson d h]
  · cases h

/-- A value that fits is read back from its compact text. -/
theorem ofText?_compact {j : Json} {n : Nat} (fits : j.fits n = true) (shallow : n < depthLimit) :
    Json.ofText? j.compact = some j := by
  have chars : j.compact.toList = j.compactChars ++ [] := by simp [compact]
  have ends : Follows [] := by
    intro c h
    cases h
  have read : Document.ofText j.compact = (Document.ofJson j, true) := by
    rw [Document.ofText, chars, value_compactChars j fits (by omega) (by simp) ends]
    rfl
  rw [Json.ofText?, read]
  exact toJson?_ofJson j

end WorkloadForms.Json
