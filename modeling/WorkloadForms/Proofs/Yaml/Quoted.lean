import WorkloadForms.Json.Printer
import WorkloadForms.Yaml.Token.Quoted

/-!
# Reading quoted texts

JSON escapes quotes, backslashes and control characters between quotes, but not the line breaks
beyond ASCII. A reader of YAML folds such a break with the blanks around it, and refuses a line that
starts with a document marker. `hear?` says what it hears of a text: the text itself when there is
no such break (`hear?_clear`). `readQuoted_quoted` says that the reader hears this and stops
behind the closing quote.
-/

namespace WorkloadForms

open Json (escape quoted hexDigit)

namespace Yaml

/-- A line break that JSON leaves as it stands between quotes. -/
def isRawBreak (c : Char) : Bool := c == nextLine || isSeparator c

/-- What a line break is read as. -/
def breakChar (c : Char) : Char := if isSeparator c then c else '\n'

/-- A gap character of a text that is quoted. -/
def isRawGap (c : Char) : Bool := c == ' ' || isRawBreak c

/-- Whether `n` times `x` stands in front of an end. -/
def startsRun (x : Char) (ends : Option Char → Bool) : Nat → List Char → Bool
  | 0, cs => ends cs.head?
  | n + 1, cs => cs.head? == some x && startsRun x ends n cs.tail

/-- Whether characters between quotes start with a document marker. -/
def startsMarker (cs : List Char) : Bool :=
  startsRun '-' (·.any isRawGap) 3 cs || startsRun '.' (·.any isRawGap) 3 cs

/-- What a reader of YAML hears of characters that JSON puts between quotes, behind a gap;
`fresh` says that a line starts there. Line breaks that JSON does not escape are folded, and no
line may start with a document marker. -/
def hearChars (gap : Gap) (fresh : Bool) : List Char → Option (List Char)
  | [] => some gap.text.reverse
  | c :: cs =>
    if isRawBreak c then hearChars (gap.lineBreak (breakChar c)) true cs
    else if c = ' ' then hearChars (gap.blank c) false cs
    else if fresh && startsMarker (c :: cs) then none
    else (hearChars (.inline []) false cs).map (gap.text.reverse ++ c :: ·)

/-- What a reader of YAML hears of a text that JSON quotes. -/
def hear? (s : String) : Option String := (hearChars (.inline []) false s.toList).map String.ofList

/-- What is heard of a text, or the text itself when nothing is. -/
def heard (s : String) : String := (hear? s).getD s

/-! ## Escapes -/

/-- A character that is escaped between quotes. -/
def isEscaped (c : Char) : Bool := c == '"' || c == '\\' || decide (c.toNat < 32)

/-- A character that is not escaped stands as it is. -/
theorem escape_raw {c : Char} (h : isEscaped c = false) : escape c = [c] := by
  simp only [isEscaped, Bool.or_eq_false_iff, beq_eq_false_iff_ne, decide_eq_false_iff_not] at h
  obtain ⟨⟨quote, slash⟩, low⟩ := h
  have (d : Char) (hd : d.toNat < 32) : c ≠ d := by rintro rfl; exact low hd
  rw [escape, if_neg quote, if_neg slash, if_neg (this _ (by decide)), if_neg (this _ (by decide)),
    if_neg (this _ (by decide)), if_neg (by omega), if_neg (by omega), if_neg low]

/-- The digits of an escaped control character. -/
theorem number?_hex {n : Nat} (h : n < 32) :
    Text.number? 16 ['0', '0', hexDigit (n / 16), hexDigit n] = some n := by
  decide +revert +kernel

/-- An escaped character is read back from behind its backslash. -/
theorem escape_escaped {c : Char} (h : isEscaped c = true) :
    ∃ x e, escape c = '\\' :: x :: e ∧ isBreak x = false ∧
      ∀ r, readEscape (x :: (e ++ r)) = some (c, e.length + 1) := by
  have short (x : Char) (known : shortEscape? x = some c) (r : List Char) :
      readEscape (x :: ([] ++ r)) = some (c, ([] : List Char).length + 1) := by
    simp [readEscape, known]
  by_cases quote : c = '"'
  · exact ⟨'"', [], by subst quote; rfl, by decide, short '"' (by subst quote; rfl)⟩
  by_cases slash : c = '\\'
  · exact ⟨'\\', [], by subst slash; rfl, by decide, short '\\' (by subst slash; rfl)⟩
  by_cases feed : c = '\n'
  · exact ⟨'n', [], by subst feed; rfl, by decide, short 'n' (by subst feed; rfl)⟩
  by_cases ret : c = '\r'
  · exact ⟨'r', [], by subst ret; rfl, by decide, short 'r' (by subst ret; rfl)⟩
  by_cases tab : c = '\t'
  · exact ⟨'t', [], by subst tab; rfl, by decide, short 't' (by subst tab; rfl)⟩
  have same : Char.ofNat c.toNat = c := Char.ofNat_toNat c
  by_cases back : c.toNat = 8
  · refine ⟨'b', [], by simp [escape, quote, slash, feed, ret, tab, back], by decide, short 'b' ?_⟩
    rw [← same, back]; rfl
  by_cases form : c.toNat = 12
  · refine ⟨'f', [], by simp [escape, quote, slash, feed, ret, tab, form], by decide,
      short 'f' ?_⟩
    rw [← same, form]; rfl
  have low : c.toNat < 32 := by simpa [isEscaped, quote, slash] using h
  refine ⟨'u', ['0', '0', hexDigit (c.toNat / 16), hexDigit c.toNat],
    by simp [escape, quote, slash, feed, ret, tab, back, form, low], by decide, fun r => ?_⟩
  have code := number?_hex low
  have below : ¬ (0xD800 ≤ c.toNat ∧ c.toNat ≤ 0xDFFF) := by omega
  have small : ¬ 0x10FFFF < c.toNat := by omega
  simp [readEscape, shortEscape?, escapeWidth?, code, below, small, same]

/-- Of the characters that are not escaped, only the raw breaks end a line. -/
theorem isBreak_of_not_escaped {c : Char} (h : isEscaped c = false) :
    isBreak c = isRawBreak c := by
  have feed : (c == '\n') = false := beq_false_of_ne (by rintro rfl; revert h; decide)
  have ret : (c == '\r') = false := beq_false_of_ne (by rintro rfl; revert h; decide)
  rw [isBreak, isRawBreak, feed, ret]
  rfl

/-- Of the characters that are not escaped, only the raw gaps end a word. -/
theorem isGapOrBreak_of_not_escaped {c : Char} (h : isEscaped c = false) :
    isGapOrBreak c = isRawGap c := by
  have tab : (c == '\t') = false := beq_false_of_ne (by rintro rfl; revert h; decide)
  rw [isGapOrBreak, isGap, isRawGap, tab, isBreak_of_not_escaped h, Bool.or_false]

/-- A raw gap is not escaped. -/
theorem isEscaped_of_isRawGap {c : Char} (h : isRawGap c = true) : isEscaped c = false := by
  have code : c.toNat = 32 ∨ c.toNat = 0x85 ∨ c.toNat = 0x2028 ∨ c.toNat = 0x2029 := by
    simp only [isRawGap, isRawBreak, isSeparator, Bool.or_eq_true, beq_iff_eq] at h
    rcases h with rfl | rfl | h | h
    · exact .inl rfl
    · exact .inr (.inl rfl)
    · exact .inr (.inr (.inl h))
    · exact .inr (.inr (.inr h))
  have quote : (c == '"') = false :=
    beq_false_of_ne (by rintro rfl; revert code; decide)
  have slash : (c == '\\') = false :=
    beq_false_of_ne (by rintro rfl; revert code; decide)
  rw [isEscaped, quote, slash, decide_eq_false (by omega)]
  rfl

/-! ## What stands between quotes -/

/-- The characters of a text between quotes, with the closing quote and what follows. -/
def body (cs rest : List Char) : List Char := cs.flatMap escape ++ '"' :: rest

theorem body_nil (rest : List Char) : body [] rest = '"' :: rest := rfl

theorem body_raw {c : Char} (h : isEscaped c = false) (cs rest : List Char) :
    body (c :: cs) rest = c :: body cs rest := by
  simp [body, escape_raw h]

/-- An escaped character starts with a backslash. -/
theorem head?_body_escaped {c : Char} (h : isEscaped c = true) (cs rest : List Char) :
    (body (c :: cs) rest).head? = some '\\' := by
  obtain ⟨x, e, form, -⟩ := escape_escaped h
  simp [body, form]

/-- A quoted text starts with a character that is not escaped where the text does. -/
theorem head?_body {x : Char} (raw : isEscaped x = false) (cs rest : List Char) :
    (body cs rest).head? = some x ↔ cs.head? = some x := by
  cases cs with
  | nil =>
    have : '"' ≠ x := by rintro rfl; revert raw; decide
    simp [body_nil, this]
  | cons c cs =>
    cases h : isEscaped c with
    | true =>
      have slash : '\\' ≠ x := by rintro rfl; revert raw; decide
      have other : c ≠ x := by rintro rfl; simp_all
      simp [head?_body_escaped h, slash, other]
    | false => simp [body_raw h]

/-- A word of a quoted text ends before a character where it ends in the text. -/
theorem endsWord_head?_body (cs rest : List Char) :
    endsWord (body cs rest).head? = cs.head?.any isRawGap := by
  cases cs with
  | nil => rfl
  | cons c cs =>
    cases h : isEscaped c with
    | true =>
      have solid : isRawGap c = false :=
        Bool.eq_false_iff.2 fun gap => by simp_all [isEscaped_of_isRawGap gap]
      rw [head?_body_escaped h]
      simp [solid]
      decide
    | false => simp [body_raw h, endsWord, isGapOrBreak_of_not_escaped h]

/-- A marker is three characters with the end of a word behind them. -/
theorem atMarker_eq (c : Cursor) (x : Char) :
    c.atMarker x = (c.column == 0 && startsRun x endsWord 3 c.rest) := by
  simp [Cursor.atMarker, Cursor.peek, startsRun, Bool.and_assoc, List.head?_eq_getElem?]

/-- A run of a character stands in a quoted text where it stands in the text. -/
theorem startsRun_body {x : Char} (raw : isEscaped x = false) (n : Nat) (cs rest : List Char) :
    startsRun x endsWord n (body cs rest) = startsRun x (·.any isRawGap) n cs := by
  induction n generalizing cs with
  | zero => exact endsWord_head?_body cs rest
  | succ n ih =>
    have first : ((body cs rest).head? == some x) = (cs.head? == some x) := by
      rw [Bool.eq_iff_iff, beq_iff_eq, beq_iff_eq, head?_body raw]
    rw [startsRun, startsRun, first]
    cases cs with
    | nil => rfl
    | cons c cs =>
      by_cases same : c = x
      · subst same
        rw [body_raw raw, List.tail_cons, ih, List.tail_cons]
      · have : ((c :: cs).head? == some x) = false :=
          beq_false_of_ne fun h => same (Option.some.inj h)
        rw [this, Bool.false_and, Bool.false_and]

/-- Whether a document marker stands at the cursor in a quoted text. -/
theorem atAnyMarker_body {c : Cursor} {cs rest : List Char} (h : c.rest = body cs rest) :
    c.atAnyMarker = (c.column == 0 && startsMarker cs) := by
  rw [Cursor.atAnyMarker, atMarker_eq, atMarker_eq, h, startsRun_body (by decide),
    startsRun_body (by decide), startsMarker, Bool.and_or_distrib_left]

/-! ## Reading what is quoted -/

section
variable {c : Cursor} {x : Char} {cs rest : List Char}

theorem body_gap (gap : isRawGap x = true) (h : c.rest = body (x :: cs) rest) :
    c.rest = x :: body cs rest := by
  rw [h, body_raw (isEscaped_of_isRawGap gap)]

/-- No line ends before a character that is no break. -/
theorem break?_none (h : c.rest = x :: rest) (solid : isBreak x = false) : c.break? = none := by
  have ret : x ≠ '\r' := by rintro rfl; revert solid; decide
  unfold Cursor.break?
  split
  · next e => exact absurd (List.cons.inj (h.symm.trans e)).1 ret
  · next e =>
    obtain ⟨rfl, rfl⟩ := List.cons.inj (h.symm.trans e)
    rw [solid]; rfl
  · rfl

/-- A line ends at a raw break. -/
theorem break?_some (h : c.rest = x :: rest) (broken : isRawBreak x = true) :
    c.break? = some (breakChar x, ⟨rest, c.index + 1, c.line + 1, 0⟩) := by
  have ret : x ≠ '\r' := by rintro rfl; revert broken; decide
  have isBreak : isBreak x = true := by
    rw [isRawBreak, Bool.or_eq_true] at broken
    rcases broken with broken | broken <;> simp [Yaml.isBreak, broken]
  unfold Cursor.break?
  split
  · next e => exact absurd (List.cons.inj (h.symm.trans e)).1 ret
  · next e =>
    obtain ⟨rfl, rfl⟩ := List.cons.inj (h.symm.trans e)
    rw [isBreak, if_pos rfl, breakChar]
  · simp_all

/-- A raw break adds to a gap. -/
theorem Gap.read_break (g : Gap) (n : Nat) (broken : isRawBreak x = true)
    (h : c.rest = body (x :: cs) rest) :
    Gap.read 0 (n + 1) g c
      = Gap.read 0 n (g.lineBreak (breakChar x)) ⟨body cs rest, c.index + 1, c.line + 1, 0⟩ := by
  rw [Gap.read, break?_some (body_gap (by simp [isRawGap, broken]) h) broken]

/-- A blank adds to a gap. -/
theorem Gap.read_blank (g : Gap) (n : Nat) (h : c.rest = body (' ' :: cs) rest) :
    Gap.read 0 (n + 1) g c = Gap.read 0 n (g.blank ' ') (c.skip 1) := by
  have h := body_gap (by decide) h
  rw [Gap.read, break?_none h (by decide)]
  simp [Cursor.peek, h, isGap]

/-- A gap stops where a word does not end. -/
theorem Gap.read_solid {margin : Nat} (g : Gap) (n : Nat)
    (solid : endsWord c.rest.head? = false) : Gap.read margin n g c = some (g, c) := by
  cases n with
  | zero => rfl
  | succ n =>
    cases h : c.rest with
    | nil => rw [h] at solid; cases solid
    | cons x rest =>
      rw [h] at solid
      have parts : isGap x = false ∧ isBreak x = false := by
        simpa [endsWord, isGapOrBreak] using solid
      rw [Gap.read, break?_none h parts.2]
      simp [Cursor.peek, h, parts.1]

/-- No marker starts with a gap. -/
theorem startsMarker_gap (gap : isRawGap x = true) : startsMarker (x :: cs) = false := by
  have dash : (some x == some '-') = false :=
    beq_false_of_ne (by rintro ⟨⟩; revert gap; decide)
  have dot : (some x == some '.') = false :=
    beq_false_of_ne (by rintro ⟨⟩; revert gap; decide)
  simp only [startsMarker, startsRun, List.head?_cons, dash, dot]
  rfl

/-- In front of a gap the reader reads the gap. -/
theorem readDoubleQuoted_gap (n : Nat) (acc : List Char) (gap : isRawGap x = true)
    (h : c.rest = body (x :: cs) rest) :
    readDoubleQuoted (n + 1) acc c
      = (Gap.read 0 n (.inline []) c).bind fun p => readDoubleQuoted n (p.1.text ++ acc) p.2 := by
  have raw := isEscaped_of_isRawGap gap
  have marker : c.atAnyMarker = false := by
    rw [atAnyMarker_body h, startsMarker_gap gap, Bool.and_false]
  have solid : x ≠ '"' ∧ x ≠ '\\' := by
    constructor <;> (rintro rfl; revert raw; decide)
  have blank : isGapOrBreak x = true := by rw [isGapOrBreak_of_not_escaped raw, gap]
  rw [readDoubleQuoted, marker, body_gap gap h]
  simp [solid, blank]

/-- The reader takes one character of a word. -/
theorem readDoubleQuoted_word (n : Nat) (acc : List Char) (solid : isRawGap x = false)
    (h : c.rest = body (x :: cs) rest) :
    readDoubleQuoted (n + 1) acc c
      = if c.column == 0 && startsMarker (x :: cs) then none
        else readDoubleQuoted n (x :: acc) (c.skip (escape x).length) := by
  rw [readDoubleQuoted, atAnyMarker_body h]
  split
  · rfl
  · cases raw : isEscaped x with
    | true =>
      obtain ⟨y, e, form, unbroken, read⟩ := escape_escaped raw
      have behind : c.rest = '\\' :: y :: (e ++ body cs rest) := by
        simp [h, body, form]
      have next : (c.skip 1).rest = y :: (e ++ body cs rest) := by
        simp [Cursor.skip, behind]
      rw [behind, form]
      simp [break?_none next unbroken, read]
    | false =>
      have behind : c.rest = x :: body cs rest := by rw [h, body_raw raw]
      have other : x ≠ '"' ∧ x ≠ '\\' := by
        constructor <;> (rintro rfl; revert raw; decide)
      have word : isGapOrBreak x = false := by rw [isGapOrBreak_of_not_escaped raw, solid]
      rw [behind, escape_raw raw]
      simp [other, word]

end

/-- What is heard behind a gap: the gap, and what is heard behind none. -/
theorem hearChars_solid (g : Gap) (fresh : Bool) {cs : List Char}
    (solid : cs.head?.any isRawGap = false) :
    hearChars g fresh cs = (hearChars (.inline []) fresh cs).map (g.text.reverse ++ ·) := by
  cases cs with
  | nil => simp [hearChars, Gap.text]
  | cons x cs =>
    have parts : x ≠ ' ' ∧ isRawBreak x = false := by simpa [isRawGap] using solid
    simp only [hearChars, parts, if_false, Bool.false_eq_true]
    split
    · rfl
    · simp [Gap.text]; rfl

/-- The cursor behind one character of a quoted text. -/
def passChar (c : Cursor) (x : Char) : Cursor :=
  if isRawBreak x then ⟨c.rest.drop 1, c.index + 1, c.line + 1, 0⟩
  else c.skip (escape x).length

/-- The cursor behind the closing quote of a text. -/
def behindQuote (c : Cursor) (cs : List Char) : Cursor := (cs.foldl passChar c).skip 1

/-- What a reader at a cursor gives that hears `cs` behind a gap, with `acc` read before. -/
def Hears (g : Gap) (acc : List Char) (c : Cursor) (cs : List Char)
    (given : Option (List Char × Cursor)) : Prop :=
  given = (hearChars g (c.column == 0) cs).map fun w => (acc.reverse ++ w, behindQuote c cs)

/-- Reading a gap and then on. -/
def readGapped (m n : Nat) (g : Gap) (acc : List Char) (c : Cursor) :
    Option (List Char × Cursor) :=
  (Gap.read 0 m g c).bind fun p => readDoubleQuoted n (p.1.text ++ acc) p.2

section
variable {c : Cursor} {x : Char} {cs rest : List Char}

/-- A character is passed with its escape. -/
theorem rest_passChar (h : c.rest = body (x :: cs) rest) :
    (passChar c x).rest = body cs rest := by
  unfold passChar
  split
  · next broken => rw [body_gap (by simp [isRawGap, broken]) h]; rfl
  · simp [Cursor.skip, h, body]

/-- An escape has a character at least. -/
theorem length_escape_pos (x : Char) : 0 < (escape x).length := by
  cases raw : isEscaped x with
  | true =>
    obtain ⟨y, e, form, -⟩ := escape_escaped raw
    simp [form]
  | false => simp [escape_raw raw]

/-- Behind a character less remains. -/
theorem length_passChar (h : c.rest = body (x :: cs) rest) :
    (passChar c x).rest.length < c.rest.length := by
  have width := length_escape_pos x
  rw [rest_passChar h, h]
  simp only [body, List.flatMap_cons, List.append_assoc, List.length_append]
  omega

/-- Behind a character that is no break a line does not start. -/
theorem column_passChar (solid : isRawBreak x = false) : ((passChar c x).column == 0) = false := by
  have width := length_escape_pos x
  rw [passChar, solid]
  exact beq_false_of_ne (by simp only [Cursor.skip, Bool.false_eq_true, if_false]; omega)

/-- At the closing quote nothing more is heard. -/
theorem hears_end {n : Nat} (acc : List Char) (h : c.rest = body [] rest)
    (fuel : c.rest.length < n) :
    Hears (.inline []) acc c [] (readDoubleQuoted n acc c) := by
  obtain ⟨n, rfl⟩ : ∃ k, n = k + 1 := ⟨n - 1, by omega⟩
  have marker : c.atAnyMarker = false := by
    rw [atAnyMarker_body h]
    exact Bool.and_false _
  rw [Hears, readDoubleQuoted, marker]
  simp [h, body_nil, hearChars, Gap.text, behindQuote]

/-- A gap that does not go on is added to what is heard behind it. -/
theorem hears_solid {g : Gap} {m n : Nat} {acc : List Char} (h : c.rest = body cs rest)
    (solid : cs.head?.any isRawGap = false)
    (word : Hears (.inline []) (g.text ++ acc) c cs (readDoubleQuoted n (g.text ++ acc) c)) :
    Hears g acc c cs (readGapped m n g acc c) := by
  have stop : Gap.read 0 m g c = some (g, c) :=
    Gap.read_solid g m (by rw [h, endsWord_head?_body, solid])
  rw [Hears] at word
  rw [Hears, readGapped, stop, Option.bind_some, word, hearChars_solid g _ solid, Option.map_map]
  simp [Function.comp_def]

/-- One character of a gap is read. -/
theorem hears_gap {g : Gap} {m n : Nat} {acc : List Char} (gap : isRawGap x = true)
    (h : c.rest = body (x :: cs) rest) (enough : c.rest.length ≤ m)
    (next : ∀ g m, (passChar c x).rest.length ≤ m →
      Hears g acc (passChar c x) cs (readGapped m n g acc (passChar c x))) :
    Hears g acc c (x :: cs) (readGapped m n g acc c) := by
  have less := length_passChar h
  obtain ⟨m, rfl⟩ : ∃ k, m = k + 1 := ⟨m - 1, by omega⟩
  have moved : (passChar c x).rest.length ≤ m := by omega
  by_cases broken : isRawBreak x = true
  · have passed : passChar c x = ⟨body cs rest, c.index + 1, c.line + 1, 0⟩ := by
      rw [← rest_passChar h, passChar, if_pos broken]
    have heard := next (g.lineBreak (breakChar x)) m moved
    rw [Hears, readGapped] at heard ⊢
    rw [Gap.read_break g m broken h, ← passed, heard, passed]
    simp [hearChars, broken, behindQuote, passed]
  · have space : x = ' ' := by simpa [isRawGap, broken] using gap
    subst space
    have passed : passChar c ' ' = c.skip 1 := by
      rw [passChar, if_neg broken]
      rfl
    have heard := next (g.blank ' ') m moved
    rw [Hears, readGapped, column_passChar (by decide)] at heard
    rw [Hears, readGapped, Gap.read_blank g m h, ← passed, heard]
    simp [hearChars, broken, behindQuote]

/-- One character of a word is read. -/
theorem hears_word {n : Nat} {acc : List Char} (solid : isRawGap x = false)
    (h : c.rest = body (x :: cs) rest)
    (next : Hears (.inline []) (x :: acc) (passChar c x) cs
      (readDoubleQuoted n (x :: acc) (passChar c x))) :
    Hears (.inline []) acc c (x :: cs) (readDoubleQuoted (n + 1) acc c) := by
  have parts : x ≠ ' ' ∧ isRawBreak x = false := by simpa [isRawGap] using solid
  have passed : passChar c x = c.skip (escape x).length := by
    rw [passChar, parts.2]
    rfl
  rw [Hears, column_passChar parts.2] at next
  rw [Hears, readDoubleQuoted_word n acc solid h, ← passed, next]
  simp only [hearChars, parts, if_false, Bool.false_eq_true]
  split
  · rfl
  · simp [Function.comp_def, Gap.text, behindQuote]

end

/-- A reader behind a word and one behind a gap hear what `hearChars` says. -/
theorem hears_body (cs rest : List Char) :
    (∀ (n : Nat) (acc : List Char) (c : Cursor), c.rest = body cs rest → c.rest.length < n →
      Hears (.inline []) acc c cs (readDoubleQuoted n acc c)) ∧
    ∀ (g : Gap) (m n : Nat) (acc : List Char) (c : Cursor), c.rest = body cs rest →
      c.rest.length ≤ m → c.rest.length < n → Hears g acc c cs (readGapped m n g acc c) := by
  induction cs with
  | nil =>
    have word (n : Nat) (acc : List Char) (c : Cursor) (h : c.rest = body [] rest)
        (fuel : c.rest.length < n) := hears_end acc h fuel
    exact ⟨word, fun g m n acc c h _ fuel => hears_solid h rfl (word n _ c h fuel)⟩
  | cons x cs ih =>
    obtain ⟨word, gap⟩ := ih
    cases kind : isRawGap x with
    | true =>
      have step (g : Gap) (m n : Nat) (acc : List Char) (c : Cursor)
          (h : c.rest = body (x :: cs) rest) (enough : c.rest.length ≤ m)
          (fuel : c.rest.length ≤ n) : Hears g acc c (x :: cs) (readGapped m n g acc c) :=
        hears_gap kind h enough fun g m enough' =>
          gap g m n acc _ (rest_passChar h) enough' (Nat.lt_of_lt_of_le (length_passChar h) fuel)
      refine ⟨fun n acc c h fuel => ?_, fun g m n acc c h enough fuel =>
        step g m n acc c h enough (Nat.le_of_lt fuel)⟩
      obtain ⟨n, rfl⟩ : ∃ k, n = k + 1 := ⟨n - 1, by omega⟩
      rw [readDoubleQuoted_gap n acc kind h]
      exact step (.inline []) n n acc c h (by omega) (by omega)
    | false =>
      have step (n : Nat) (acc : List Char) (c : Cursor) (h : c.rest = body (x :: cs) rest)
          (fuel : c.rest.length < n) :
          Hears (.inline []) acc c (x :: cs) (readDoubleQuoted n acc c) := by
        obtain ⟨n, rfl⟩ : ∃ k, n = k + 1 := ⟨n - 1, by omega⟩
        have less := length_passChar h
        exact hears_word kind h (word n (x :: acc) _ (rest_passChar h) (by omega))
      exact ⟨step, fun g m n acc c h _ fuel =>
        hears_solid h (by simpa using kind) (step n _ c h fuel)⟩

/-! ## Quoted texts -/

/-- The cursor behind a quoted text, where the opening quote is at `c`. -/
def behindQuoted (c : Cursor) (s : String) : Cursor := behindQuote (c.skip 1) s.toList

/-- The reader takes a quoted text for what is heard of it. -/
theorem readQuoted_quoted {s : String} {rest : List Char} {n : Nat} {c : Cursor}
    (h : c.rest = quoted s ++ rest) (fuel : c.rest.length ≤ n) :
    readQuoted n c = (hear? s).map fun w => (.scalar w .quoted, behindQuoted c s) := by
  have opened : c.rest = '"' :: body s.toList rest := by simp [h, quoted, body]
  have inside : (c.skip 1).rest = body s.toList rest := by simp [Cursor.skip, opened]
  have moved : ((c.skip 1).column == 0) = false :=
    beq_false_of_ne (by simp only [Cursor.skip]; omega)
  have heard := (hears_body s.toList rest).1 n [] (c.skip 1) inside
    (by rw [inside]; simp only [opened, List.length_cons] at fuel; omega)
  have sees : c.sees '"' = true := by simp [Cursor.sees, opened]
  rw [Hears, moved] at heard
  rw [readQuoted, sees, if_pos rfl, heard, hear?, behindQuoted]
  cases hearChars (.inline []) false s.toList <;> rfl

/-- What follows a quoted text remains behind it. -/
theorem rest_behindQuoted {s : String} {rest : List Char} {c : Cursor}
    (h : c.rest = quoted s ++ rest) : (behindQuoted c s).rest = rest := by
  have go (cs : List Char) (c : Cursor) (h : c.rest = body cs rest) :
      (behindQuote c cs).rest = rest := by
    induction cs generalizing c with
    | nil => simp [behindQuote, Cursor.skip, h, body_nil]
    | cons x cs ih => exact ih _ (rest_passChar h)
  exact go _ _ (by simp [Cursor.skip, h, quoted, body])

/-- A quoted text takes as many places as it has characters. -/
theorem index_behindQuoted (c : Cursor) (s : String) :
    (behindQuoted c s).index = c.index + (quoted s).length := by
  have go (cs : List Char) (c : Cursor) :
      (behindQuote c cs).index = c.index + (cs.flatMap escape).length + 1 := by
    induction cs generalizing c with
    | nil => rfl
    | cons x cs ih =>
      have passed : (passChar c x).index = c.index + (escape x).length := by
        unfold passChar
        split
        · next broken =>
          rw [escape_raw (isEscaped_of_isRawGap (by simp [isRawGap, broken]))]
          rfl
        · rfl
      have next := ih (passChar c x)
      rw [passed] at next
      rw [List.flatMap_cons, List.length_append, ← Nat.add_assoc]
      exact next
  have next := go s.toList (c.skip 1)
  simp only [quoted, List.length_cons, List.length_append, List.length_nil]
  have opened : (c.skip 1).index = c.index + 1 := rfl
  rw [behindQuoted, next, opened]
  omega

/-- A quoted text takes as many lines more as it has breaks. -/
theorem line_behindQuoted (c : Cursor) (s : String) :
    (behindQuoted c s).line = c.line + s.toList.countP isRawBreak := by
  have go (cs : List Char) (c : Cursor) :
      (behindQuote c cs).line = c.line + cs.countP isRawBreak := by
    induction cs generalizing c with
    | nil => rfl
    | cons x cs ih =>
      have passed : (passChar c x).line = c.line + if isRawBreak x then 1 else 0 := by
        unfold passChar
        split <;> rfl
      have next := ih (passChar c x)
      rw [passed] at next
      rw [List.countP_cons, Nat.add_comm (cs.countP isRawBreak), ← Nat.add_assoc]
      exact next
  exact go s.toList (c.skip 1)

/-! ## Texts that are heard as they are -/

/-- Characters without line breaks of their own are heard as they are. -/
theorem hearChars_clear {cs : List Char} (clear : ∀ c ∈ cs, isRawBreak c = false)
    (blanks : List Char) :
    hearChars (.inline blanks) false cs = some (blanks.reverse ++ cs) := by
  induction cs generalizing blanks with
  | nil => simp [hearChars, Gap.text]
  | cons c cs ih =>
    have rest (c : Char) (h : c ∈ cs) := clear c (List.mem_cons_of_mem _ h)
    rw [hearChars, clear c (List.mem_cons_self ..)]
    by_cases space : c = ' '
    · rw [if_neg (by simp), if_pos space, Gap.blank, ih rest]
      simp
    · rw [if_neg (by simp), if_neg space, Bool.false_and, if_neg (by simp), ih rest]
      simp [Gap.text]

/-- A text without line breaks of its own is heard as it is. -/
theorem hear?_clear {s : String} (clear : ∀ c ∈ s.toList, isRawBreak c = false) :
    hear? s = some s := by
  rw [hear?, hearChars_clear clear]
  simp

end Yaml
end WorkloadForms
