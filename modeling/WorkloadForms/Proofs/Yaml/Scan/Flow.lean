import WorkloadForms.Proofs.Yaml.Scan.Calm
import WorkloadForms.Text.Ascii

/-!
# The tokens of flow collections

What the scanner reads at a token of a flow collection: at a bracket (`scan_open`, `scan_close`), at
a comma (`scan_comma`), at a quoted text (`scan_quoted`), at a name with its colon (`scan_name`) and
at a plain word (`scan_word`). A name is a key when it stands on one line and takes at most 1024
characters; a quoted text of which nothing is heard stops the scanner.
-/

namespace WorkloadForms.Yaml

open Json (quoted)

namespace Scanner

/-! ## Brackets and commas -/

section
variable {s s' : Scanner} {x : Char} {rest : List Char} {t : Token}

/-- No marker starts with another character. -/
theorem atMarker_ne {c : Cursor} {y : Char} (h : c.rest = x :: rest) (ne : x ≠ y) :
    c.atMarker y = false := by
  simp [Cursor.atMarker, Cursor.peek, h, ne]

/-- The bracket that opens a flow collection, with its token. -/
def Opens (x : Char) (t : Token) : Prop :=
  x = '[' ∧ t = .flowSequenceStart ∨ x = '\x7b' ∧ t = .flowMappingStart

/-- The bracket that closes a flow collection, with its token. -/
def Closes (x : Char) (t : Token) : Prop :=
  x = ']' ∧ t = .flowSequenceEnd ∨ x = '\x7d' ∧ t = .flowMappingEnd

theorem tokenAt_opens (opens : Opens x t) (h : s.cursor.rest = x :: rest) (n : Nat) :
    s.tokenAt n x = s.openFlow t := by
  rcases opens with ⟨rfl, rfl⟩ | ⟨rfl, rfl⟩ <;>
    simp [tokenAt, atMarker_ne (y := '-') h, atMarker_ne (y := '.') h]

theorem tokenAt_closes (closes : Closes x t) (h : s.cursor.rest = x :: rest) (n : Nat) :
    s.tokenAt n x = s.closeFlow t := by
  rcases closes with ⟨rfl, rfl⟩ | ⟨rfl, rfl⟩ <;>
    simp [tokenAt, atMarker_ne (y := '-') h, atMarker_ne (y := '.') h]

theorem tokenAt_comma (h : s.cursor.rest = ',' :: rest) (n : Nat) :
    s.tokenAt n ','
      = s.dropKey.map fun s => { s.pushChars .flowEntry 1 with keyAllowed := true } := by
  simp [tokenAt, atMarker_ne (y := '-') h, atMarker_ne (y := '.') h]
  cases s.dropKey <;> rfl

/-- A flow collection is opened. -/
theorem scan_open (opens : Opens x t) (h : Arrives s s' x rest) :
    ∃ s'', Reads s [t] s'' ∧ At (s.flowDepth + 1) rest s'' ∧ s''.keyAllowed = true := by
  obtain ⟨cs, saved, calm, -⟩ := h.calm.saveKey
  have behind : (s'.cursor.skip 1).rest = rest := by simp [Cursor.skip, h.rest]
  have taken (n : Nat) : s'.tokenAt n x = some { s'.pushChars t 1 with
      flowDepth := s'.flowDepth + 1, candidates := none :: cs, keyAllowed := true } := by
    rw [tokenAt_opens opens h.rest, openFlow, saved]
    rfl
  refine ⟨_, ⟨h.leads (fun n _ => taken n) ?_, ?_⟩, ⟨?_, ?_, ?_⟩, rfl⟩
  · exact Nat.le_of_eq (congrArg List.length behind)
  · simp [push, pushChars, h.tokens]
  · refine ⟨calm.indent, calm.outer, by simpa using calm.nested, fun k mem => ?_⟩
    exact calm.optional k (by simpa using mem)
  · exact congrArg (· + 1) h.depth
  · exact congrArg ahead behind

/-- A flow collection is closed. -/
theorem scan_close {depth : Nat} (closes : Closes x t) (h : Arrives s s' x rest)
    (nested : s.flowDepth = depth + 1) :
    ∃ s'', Reads s [t] s'' ∧ At depth rest s'' := by
  obtain ⟨cs, dropped, calm⟩ := h.calm.dropKey
  have behind : (s'.cursor.skip 1).rest = rest := by simp [Cursor.skip, h.rest]
  have inside : s'.flowDepth = depth + 1 := h.depth.trans nested
  have taken (n : Nat) : s'.tokenAt n x = some { s'.pushChars t 1 with
      flowDepth := s'.flowDepth - 1, candidates := cs.drop 1, keyAllowed := false } := by
    rw [tokenAt_closes closes h.rest, closeFlow, dropped]
    simp [inFlow, inside, pushChars, push]
  refine ⟨_, ⟨h.leads (fun n _ => taken n) ?_, ?_⟩, ⟨?_, ?_, ?_⟩⟩
  · exact Nat.le_of_eq (congrArg List.length behind)
  · simp [push, pushChars, h.tokens]
  · refine ⟨calm.indent, calm.outer, ?_, fun k mem => calm.optional k (List.mem_of_mem_drop mem)⟩
    have := calm.nested
    simp only [List.length_drop] at this ⊢
    omega
  · simp [inside]
  · exact congrArg ahead behind

/-- A comma is read. -/
theorem scan_comma (h : Arrives s s' ',' rest) :
    ∃ s'', Reads s [.flowEntry] s'' ∧ At s.flowDepth rest s'' ∧ s''.keyAllowed = true := by
  obtain ⟨cs, dropped, calm⟩ := h.calm.dropKey
  have behind : (s'.cursor.skip 1).rest = rest := by simp [Cursor.skip, h.rest]
  have taken (n : Nat) : s'.tokenAt n ',' = some
      { s'.pushChars .flowEntry 1 with candidates := cs, keyAllowed := true } := by
    rw [tokenAt_comma h.rest, dropped]
    rfl
  refine ⟨_, ⟨h.leads (fun n _ => taken n) ?_, ?_⟩, ⟨?_, ?_, ?_⟩, rfl⟩
  · exact Nat.le_of_eq (congrArg List.length behind)
  · simp [push, pushChars, h.tokens]
  · exact ⟨calm.indent, calm.outer, calm.nested, calm.optional⟩
  · exact h.depth
  · exact congrArg ahead behind

end

/-! ## Quoted texts and names -/

section
variable {s s' : Scanner} {rest : List Char} {text : String}

theorem tokenAt_quote (h : s.cursor.rest = '"' :: rest) (n : Nat) :
    s.tokenAt n '"' = s.node (readQuoted n) := by
  simp [tokenAt, atMarker_ne (y := '-') h, atMarker_ne (y := '.') h]

/-- A quoted text starts with a quote. -/
theorem quoted_cons (text : String) (rest : List Char) :
    ∃ more, quoted text ++ rest = '"' :: more :=
  ⟨_, List.cons_append ..⟩

/-- The state behind a quoted text with these candidates. -/
def behindText (s : Scanner) (text : String) (cs : List (Option KeyCandidate)) : Scanner :=
  { s with
    cursor := behindQuoted s.cursor text, tokens := .scalar (heard text) .quoted :: s.tokens
    tokenCount := s.tokenCount + 1, keyAllowed := false, candidates := cs }

/-- A quoted text is read if something is heard of it. -/
theorem tokenAt_quoted (calm : Calm s) (h : s.cursor.rest = quoted text ++ rest) :
    ∃ cs, Calm (s.behindText text cs) ∧
      (s.keyAllowed = true → cs.head? = some (some s.candidate)) ∧
      ∀ n, s.cursor.rest.length ≤ n →
        s.tokenAt n '"' = if (hear? text).isSome then some (s.behindText text cs) else none := by
  obtain ⟨cs, saved, calm', first⟩ := calm.saveKey
  obtain ⟨more, opened⟩ := quoted_cons text rest
  refine ⟨cs, ⟨calm'.indent, calm'.outer, calm'.nested, calm'.optional⟩, first, fun n less => ?_⟩
  rw [tokenAt_quote (h.trans opened), node, saved]
  simp only [Option.bind_eq_bind, Option.bind_some, readQuoted_quoted h less]
  cases heard : hear? text with
  | none => rfl
  | some w => simp [behindText, push, Yaml.heard, heard]

/-- A quoted text is read, or the text cannot be cut. -/
theorem scan_quoted {depth : Nat} (h : At (depth + 1) (quoted text ++ rest) s) :
    ((hear? text).isSome = true ∧
      ∃ s', Reads s [.scalar (heard text) .quoted] s' ∧ At (depth + 1) rest s') ∨
    (hear? text).isSome = false ∧ Fails s := by
  obtain ⟨more, opened⟩ := quoted_cons text rest
  obtain ⟨s', there⟩ := At.arrives (opened ▸ h) (by decide)
  have here : s'.cursor.rest = quoted text ++ rest := there.rest.trans opened.symm
  obtain ⟨cs, calm, -, taken⟩ := tokenAt_quoted there.calm here
  have behind : (s'.behindText text cs).cursor.rest = rest := rest_behindQuoted here
  cases heard : (hear? text).isSome with
  | true =>
    simp only [heard, if_true] at taken
    refine .inl ⟨rfl, _, ⟨there.leads taken ?_, ?_⟩, calm, there.depth.trans h.depth,
      congrArg ahead behind⟩
    · have := congrArg List.length opened
      simp only [quoted, List.length_append, List.length_cons] at this
      rw [behind]
      omega
    · simp [behindText, there.tokens]
  | false =>
    simp only [heard] at taken
    exact .inr ⟨rfl, there.fails taken⟩

/-- A name that stands on one line and is not too long to be a simple key. -/
def isSimple (name : String) : Bool :=
  name.toList.all (fun c => !isRawBreak c) && decide ((quoted name).length ≤ 1024)

/-- The tokens of a name and its colon: a name that is not simple is no key. -/
def nameTokens (name : String) : List Token :=
  if isSimple name then [.key, .scalar (heard name) .quoted, .value]
  else [.scalar (heard name) .quoted, .value]

/-- The candidate in front of a name is stale behind it when the name is not simple. -/
theorem isStale_behindText (s : Scanner) (name : String) (cs : List (Option KeyCandidate)) :
    (s.behindText name cs).isStale s.candidate = !isSimple name := by
  have line : (behindQuoted s.cursor name).line
      = s.cursor.line + name.toList.countP isRawBreak := line_behindQuoted s.cursor name
  have index : (behindQuoted s.cursor name).index = s.cursor.index + (quoted name).length :=
    index_behindQuoted s.cursor name
  rw [Bool.eq_iff_iff]
  simp only [isStale, candidate, behindText, line, index, isSimple, Bool.or_eq_true,
    decide_eq_true_eq, Bool.not_eq_true', Bool.and_eq_false_iff, decide_eq_false_iff_not,
    List.all_eq_false]
  have broken : s.cursor.line < s.cursor.line + name.toList.countP isRawBreak ↔
      ∃ c ∈ name.toList, ¬ (!isRawBreak c) = true := by
    rw [Nat.lt_add_right_iff_pos, List.countP_pos_iff]
    simp
  rw [broken]
  simp only [Bool.not_eq_true', Bool.not_eq_false]
  exact or_congr Iff.rfl (by omega)

theorem tokenAt_colon (flow : s.flowDepth ≠ 0) (h : s.cursor.rest = ':' :: rest) (n : Nat) :
    s.tokenAt n ':' = s.value := by
  simp [tokenAt, atMarker_ne (y := '-') h, atMarker_ne (y := '.') h, inFlow, flow]

/-- In a flow collection the colon makes a key of the candidate, if there is one. -/
theorem Calm.value (calm : Calm s) (flow : s.flowDepth ≠ 0) {k : Option KeyCandidate}
    {cs : List (Option KeyCandidate)} {t : Token} {ts : List Token}
    (first : s.candidates = k :: cs) (number : ∀ c, k = some c → c.tokenNumber + 1 = s.tokenCount)
    (last : s.tokens = t :: ts) :
    ∃ s', s.value = some s' ∧ Calm s' ∧ s'.flowDepth = s.flowDepth ∧
      s'.cursor = s.cursor.skip 1 ∧
      s'.tokens = .value :: t :: if k.isSome then .key :: ts else ts := by
  have nested := calm.nested
  have optional (c : KeyCandidate) (mem : some c ∈ cs) : c.required = false :=
    calm.optional c (by rw [first]; exact List.mem_cons_of_mem _ mem)
  rw [first] at nested
  cases k with
  | none =>
    refine ⟨{ s.pushChars .value 1 with keyAllowed := false }, ?_,
      ⟨calm.indent, calm.outer, calm.nested, calm.optional⟩, rfl, rfl, ?_⟩
    · simp [Scanner.value, first, roll, inFlow, flow, pushChars]
    · simp [pushChars, push, last]
  | some c =>
    have back : s.tokenCount - c.tokenNumber = 1 := by
      have := number c rfl
      omega
    refine ⟨{ (s.insertAt c.tokenNumber .key).pushChars .value 1 with
        candidates := none :: cs, keyAllowed := false }, ?_, ⟨calm.indent, calm.outer, ?_, ?_⟩,
      rfl, rfl, ?_⟩
    · simp [Scanner.value, first, roll, inFlow, insertAt, flow, pushChars]
    · simpa [pushChars, push, insertAt] using nested
    · intro c' mem
      exact optional c' (by simpa using mem)
    · simp [pushChars, push, insertAt, back, last]

/-- The colon behind a name is read. -/
theorem scan_colon {depth : Nat} {name : String} {cs : List (Option KeyCandidate)}
    (calm : Calm (s.behindText name (some s.candidate :: cs))) (nested : s.flowDepth = depth + 1)
    (behind : (behindQuoted s.cursor name).rest = ':' :: rest) :
    ∃ s', Leads (s.behindText name (some s.candidate :: cs)) s' ∧
      s'.tokens = (nameTokens name).reverse ++ s.tokens ∧ At (depth + 1) rest s' := by
  have there := calm.arrives (x := ':') (by decide) behind
  have flow : (s.behindText name (some s.candidate :: cs)).prune.flowDepth ≠ 0 := by
    change s.flowDepth ≠ 0
    omega
  have stale : (some s.candidate).any (s.behindText name (some s.candidate :: cs)).isStale
      = !isSimple name := isStale_behindText s name _
  have kept : (s.behindText name (some s.candidate :: cs)).prune.candidates
      = (if isSimple name then some s.candidate else none)
        :: (s.behindText name (some s.candidate :: cs)).prune.candidates.drop 1 := by
    change (if (some s.candidate).any (s.behindText name (some s.candidate :: cs)).isStale
      then none else some s.candidate) :: _ = _
    rw [stale]
    cases isSimple name <;> rfl
  have number (c : KeyCandidate)
      (h : (if isSimple name then some s.candidate else none) = some c) :
      c.tokenNumber + 1 = s.tokenCount + 1 := by
    split at h
    · obtain rfl := Option.some.inj h
      rfl
    · cases h
  obtain ⟨s', taken, calm', nested', moved, tokens⟩ := there.calm.value flow
    kept number rfl
  have past : s'.cursor.rest = rest := by
    rw [moved]
    exact (congrArg (List.drop 1) behind)
  refine ⟨s', there.leads (fun n _ => (tokenAt_colon flow there.rest n).trans taken) ?_,
    ?_, calm', nested'.trans nested, congrArg ahead past⟩
  · exact Nat.le_of_eq (congrArg List.length past)
  · rw [tokens, nameTokens]
    cases isSimple name <;> simp

/-- A name and its colon are read. -/
theorem scan_name {depth : Nat} {name : String} (allowed : s.keyAllowed = true)
    (h : At (depth + 1) (quoted name ++ ':' :: rest) s) :
    ((hear? name).isSome = true ∧
      ∃ s', Reads s (nameTokens name) s' ∧ At (depth + 1) rest s') ∨
    (hear? name).isSome = false ∧ Fails s := by
  obtain ⟨more, opened⟩ := quoted_cons name (':' :: rest)
  obtain ⟨s', there⟩ := At.arrives (opened ▸ h) (by decide)
  have here : s'.cursor.rest = quoted name ++ ':' :: rest := there.rest.trans opened.symm
  obtain ⟨cs, calm, first, taken⟩ := tokenAt_quoted there.calm here
  cases heard : (hear? name).isSome with
  | false =>
    simp only [heard] at taken
    exact .inr ⟨rfl, there.fails taken⟩
  | true =>
    simp only [heard, if_true] at taken
    have behind : (s'.behindText name cs).cursor.rest = ':' :: rest := rest_behindQuoted here
    have toColon : Leads s (s'.behindText name cs) := by
      refine there.leads taken ?_
      have := congrArg List.length opened
      simp only [quoted, List.length_append, List.length_cons] at this
      rw [behind, List.length_cons]
      omega
    obtain ⟨cs', rfl⟩ : ∃ cs', cs = some s'.candidate :: cs' := by
      have := first (there.allowed.trans allowed)
      cases cs with
      | nil => cases this
      | cons k cs' => exact ⟨cs', by rw [Option.some.inj this]⟩
    obtain ⟨s'', leads, tokens, next⟩ := scan_colon calm (there.depth.trans h.depth) behind
    exact .inl ⟨rfl, s'', ⟨toColon.trans leads, by rw [tokens, there.tokens]⟩, next⟩

end

/-! ## Plain words -/

/-- A number or a truth value: letters and digits, perhaps behind a minus. -/
def isPlainWord (w : List Char) : Bool :=
  w.all Text.isWord && (w.head?.any (· != '-') || w.tail.head?.any Text.isDigit)

/-- What follows a value in a flow collection: a comma, or a bracket on a line of its own. -/
def Ends (rest : List Char) : Prop :=
  ∃ r, rest = ',' :: r ∨ ∃ k x, rest = '\n' :: (List.replicate k ' ' ++ x :: r) ∧
    (x = ']' ∨ x = '\x7d')

/-- The characters of words are printable ASCII characters. -/
theorem toNat_of_isWord {x : Char} (word : Text.isWord x = true) :
    0x20 ≤ x.toNat ∧ x.toNat ≤ 0x7E := by
  simp only [Text.isWord, Text.isDigit, Bool.or_eq_true, Bool.and_eq_true, decide_eq_true_eq,
    beq_iff_eq, Char.le_def, UInt32.le_iff_toNat_le] at word
  rcases word with (((⟨low, high⟩ | ⟨low, high⟩) | ⟨low, high⟩) | rfl) | rfl
  · exact ⟨Nat.le_trans (by decide) low, Nat.le_trans high (by decide)⟩
  · exact ⟨Nat.le_trans (by decide) low, Nat.le_trans high (by decide)⟩
  · exact ⟨Nat.le_trans (by decide) low, Nat.le_trans high (by decide)⟩
  · decide
  · decide

/-- No word ends before a character of a word. -/
theorem isGapOrBreak_of_isWord {x : Char} (word : Text.isWord x = true) :
    isGapOrBreak x = false := by
  have other (c : Char) (h : Text.isWord c = false) : (x == c) = false :=
    beq_false_of_ne (by rintro rfl; simp_all)
  have high := (toNat_of_isWord word).2
  have separator : isSeparator x = false := by
    simp only [isSeparator, Bool.or_eq_false_iff, beq_eq_false_iff_ne]
    omega
  simp [isGapOrBreak, isGap, isBreak, separator, other ' ' (by decide), other '\t' (by decide),
    other '\n' (by decide), other '\r' (by decide), other nextLine (by decide)]

/-- No bracket is a character of a word. -/
theorem isFlowIndicator_of_isWord {x : Char} (word : Text.isWord x = true) :
    isFlowIndicator x = false := by
  have other (c : Char) (h : Text.isWord c = false) : (x == c) = false :=
    beq_false_of_ne (by rintro rfl; simp_all)
  simp [isFlowIndicator, other ',' (by decide), other '[' (by decide), other ']' (by decide),
    other '\x7b' (by decide), other '\x7d' (by decide)]

/-- The characters of a word up to a comma or a line feed. -/
theorem plainWord_word {w rest : List Char} (word : w.all Text.isWord = true)
    (ends : rest.head? = some ',' ∨ rest.head? = some '\n') :
    plainWord true (w ++ rest) = some w := by
  induction w with
  | nil =>
    cases rest with
    | nil => simp at ends
    | cons x r =>
      rcases ends with h | h <;> obtain rfl := Option.some.inj h <;>
        simp [plainWord, isGapOrBreak, isGap, isBreak, isFlowIndicator, isSeparator, nextLine]
  | cons x w ih =>
    rw [List.all_cons, Bool.and_eq_true] at word
    have colon : (x == ':') = false :=
      beq_false_of_ne (by rintro rfl; exact absurd word.1 (by decide))
    rw [List.cons_append, plainWord, isGapOrBreak_of_isWord word.1, colon,
      isFlowIndicator_of_isWord word.1, ih word.2]
    simp

/-- Blanks behind a line feed add nothing to a gap. -/
theorem read_blanks {c : Cursor} {x : Char} {r : List Char} {margin k : Nat}
    (solid : isGapOrBreak x = false) (h : c.rest = List.replicate k ' ' ++ x :: r)
    (f m : List Char) {n : Nat} (fuel : k ≤ n) :
    Gap.read margin n (.folded f m) c = some (.folded f m, c.skip k) := by
  induction k generalizing c n with
  | zero =>
    have stop : endsWord c.rest.head? = false := by simp [h, endsWord, solid]
    rw [Gap.read_solid _ _ stop]
    rfl
  | succ k ih =>
    obtain ⟨n, rfl⟩ : ∃ m, n = m + 1 := ⟨n - 1, by omega⟩
    have here : c.rest = ' ' :: (List.replicate k ' ' ++ x :: r) := by
      rw [h, List.replicate_succ, List.cons_append]
    have there : (c.skip 1).rest = List.replicate k ' ' ++ x :: r := by
      simp [Cursor.skip, here]
    have far : (c.skip 1).skip k = c.skip (k + 1) := by
      simp only [Cursor.skip, List.drop_drop, Cursor.mk.injEq, true_and, Nat.add_comm 1 k]
      omega
    rw [Gap.read, break?_none here (by decide)]
    simp [Cursor.peek, here, isGap, Gap.blank, ih there (n := n) (by omega), far]

/-- A line feed and blanks behind it are a gap. -/
theorem read_newLine {c : Cursor} {x : Char} {r : List Char} {k : Nat} (margin : Nat)
    (solid : isGapOrBreak x = false) (h : c.rest = '\n' :: (List.replicate k ' ' ++ x :: r)) :
    ∃ c' : Cursor, c'.rest = x :: r ∧ ∀ n, k < n →
      Gap.read margin n (.inline []) c = some (.folded ['\n'] [], c') := by
  let c₁ : Cursor := ⟨List.replicate k ' ' ++ x :: r, c.index + 1, c.line + 1, 0⟩
  refine ⟨c₁.skip k, ?_, fun n less => ?_⟩
  · simp [c₁, Cursor.skip]
  · obtain ⟨n, rfl⟩ : ∃ m, n = m + 1 := ⟨n - 1, by omega⟩
    have broken : c.break? = some ('\n', c₁) := by
      simp [Cursor.break?, h, isBreak, isSeparator, c₁]
    rw [Gap.read, broken]
    exact read_blanks solid rfl ['\n'] [] (by omega)

section
variable {c : Cursor} {w rest : List Char}

/-- No marker and no comment starts with a plain word. -/
theorem not_atAnyMarker_word (word : isPlainWord w = true) (h : c.rest = w ++ rest) :
    (c.atAnyMarker || c.sees '#') = false := by
  rw [isPlainWord, Bool.and_eq_true] at word
  obtain ⟨all, first⟩ := word
  cases w with
  | nil => cases first
  | cons x w =>
    have letter : Text.isWord x = true := (List.all_eq_true.1 all) x (List.mem_cons_self ..)
    have hash : x ≠ '#' := by rintro rfl; exact absurd letter (by decide)
    have dot : x ≠ '.' := by rintro rfl; exact absurd letter (by decide)
    have dash : c.atMarker '-' = false := by
      rcases Decidable.em (x = '-') with rfl | other
      · cases w with
        | nil => cases first
        | cons d w =>
          have digit : Text.isDigit d = true := first
          have other : d ≠ '-' := by rintro rfl; exact absurd digit (by decide)
          simp [Cursor.atMarker, Cursor.peek, h, other]
      · exact atMarker_ne h other
    rw [Cursor.atAnyMarker, dash, atMarker_ne h dot]
    simp [Cursor.sees, h, hash]

/-- Words of a flow collection are read up to a comma or up to a bracket. -/
theorem readPlainWords_word (word : isPlainWord w = true) (ends : Ends rest)
    (h : c.rest = w ++ rest) (margin : Nat) :
    ∃ broken, ∃ c' : Cursor, ahead c'.rest = ahead rest ∧ c'.rest.length ≤ rest.length ∧
      ∀ n, c.rest.length ≤ n →
        readPlainWords true margin n [] (.inline []) c = some (w, broken, c') := by
  have all : w.all Text.isWord = true := by
    rw [isPlainWord, Bool.and_eq_true] at word
    exact word.1
  have filled : w ≠ [] := by rintro rfl; cases word
  have free := not_atAnyMarker_word word h
  have behind : (c.skip w.length).rest = rest := by simp [Cursor.skip, h]
  have long : 0 < w.length := List.length_pos_iff.2 filled
  obtain ⟨r, rfl | ⟨k, x, rfl, bracket⟩⟩ := ends
  · refine ⟨false, c.skip w.length, congrArg ahead behind, Nat.le_of_eq (congrArg _ behind),
      fun n fuel => ?_⟩
    obtain ⟨n, rfl⟩ : ∃ m, n = m + 1 := ⟨n - 1, by simp [h] at fuel; omega⟩
    have comma : isGapOrBreak ',' = false := by decide
    simp [readPlainWords, free, h, plainWord_word all, filled, behind, comma, Gap.text]
  · have solid : isGapOrBreak x = false := by rcases bracket with rfl | rfl <;> decide
    have noBlank : isSolid x = true := by rcases bracket with rfl | rfl <;> decide
    have indicator : isFlowIndicator x = true := by rcases bracket with rfl | rfl <;> decide
    obtain ⟨c', there, gap⟩ := read_newLine margin solid behind
    refine ⟨true, c', ?_, ?_, fun n fuel => ?_⟩
    · rw [there, ahead_newLine]
    · simp only [there, List.length_cons, List.length_append]
      omega
    · have enough : k + 2 < n + 1 := by
        simp only [h, List.length_append, List.length_cons, List.length_replicate] at fuel
        omega
      obtain ⟨n, rfl⟩ : ∃ m, n = m + 2 := ⟨n - 2, by omega⟩
      have colon : x ≠ ':' := by rintro rfl; revert indicator; decide
      have none : plainWord true c'.rest = some [] := by
        simp [there, plainWord, solid, colon, indicator]
      have broken : isGapOrBreak '\n' = true := by decide
      rw [readPlainWords, free, h, plainWord_word all (.inr rfl)]
      simp [filled, behind, broken, gap (n + 1) (by omega), Gap.text, readPlainWords, none,
        Gap.isFolded]

/-- A plain word is taken for a plain scalar. -/
theorem tokenAt_word {s : Scanner} {x : Char} (word : isPlainWord (x :: w) = true)
    (h : s.cursor.rest = x :: w ++ rest) (n : Nat) : s.tokenAt n x = s.plain n := by
  have free := not_atAnyMarker_word word h
  simp only [Cursor.atAnyMarker, Bool.or_eq_false_iff] at free
  rw [isPlainWord, Bool.and_eq_true] at word
  obtain ⟨all, first⟩ := word
  rw [List.all_cons, Bool.and_eq_true] at all
  have other (c : Char) (h : Text.isWord c = false) : x ≠ c := by
    rintro rfl
    exact absurd all.1 (by simp [h])
  have starts : (x == '-' && endsWord (s.cursor.peek 1)) = false ∧
      startsPlain s.inFlow x (s.cursor.peek 1) = true := by
    rcases Decidable.em (x = '-') with rfl | dash
    · cases w with
      | nil => cases first
      | cons d w =>
        have digit : Text.isDigit d = true := first
        have letter : Text.isWord d = true := by simp [Text.isWord, digit]
        have solid := isGapOrBreak_of_isWord letter
        have noGap : isGap d = false := by simp_all [isGapOrBreak]
        simp [Cursor.peek, h, endsWord, solid, startsPlain, noGap]
    · have solid := isGapOrBreak_of_isWord all.1
      have flow := isFlowIndicator_of_isWord all.1
      simp [dash, startsPlain, solid, flow, other '?' (by decide), other ':' (by decide),
        other '#' (by decide), other '&' (by decide), other '*' (by decide), other '!' (by decide),
        other '|' (by decide), other '>' (by decide), other '\'' (by decide),
        other '"' (by decide), other '%' (by decide), other '@' (by decide),
        other '\x60' (by decide)]
  simp [tokenAt, free, starts, other '%' (by decide), other '[' (by decide),
    other ']' (by decide), other '\x7b' (by decide), other '\x7d' (by decide),
    other ',' (by decide), other '?' (by decide), other ':' (by decide), other '*' (by decide),
    other '&' (by decide), other '!' (by decide), other '|' (by decide), other '>' (by decide),
    other '\'' (by decide), other '"' (by decide)]

/-- A plain word is read as a scalar. -/
theorem scan_word {s : Scanner} {depth : Nat} (word : isPlainWord w = true) (ends : Ends rest)
    (h : At (depth + 1) (w ++ rest) s) :
    ∃ s', Reads s [.scalar (String.ofList w) .plain] s' ∧ At (depth + 1) rest s' := by
  cases w with
  | nil => cases word
  | cons x w =>
    have letter : Text.isWord x = true := by
      rw [isPlainWord, List.all_cons, Bool.and_eq_true, Bool.and_eq_true] at word
      exact word.1.1
    have solid : isSolid x = true := by
      have high := (toNat_of_isWord letter).2
      have hash : x ≠ '#' := by rintro rfl; exact absurd letter (by decide)
      have mark : x ≠ byteOrderMark := by rintro rfl; exact absurd high (by decide)
      simp [isSolid, isGapOrBreak_of_isWord letter, hash, mark]
    obtain ⟨s', there⟩ := At.arrives h solid
    obtain ⟨cs, saved, calm, -⟩ := there.calm.saveKey
    have inFlow : s'.inFlow = true := by
      simp [Scanner.inFlow, there.depth, h.depth]
    obtain ⟨broken, c, next, short, read⟩ :=
      readPlainWords_word word ends there.rest (s'.indent + 1).toNat
    have taken (n : Nat) (fuel : s'.cursor.rest.length ≤ n) :
        s'.tokenAt n x = some { s'.push (.scalar (String.ofList (x :: w)) .plain) with
          cursor := c, keyAllowed := broken, candidates := cs } := by
      rw [tokenAt_word word there.rest, plain, saved]
      simp only [Option.bind_eq_bind, Option.bind_some]
      rw [show Scanner.inFlow { s' with candidates := cs } = true from inFlow, read n fuel]
      rfl
    refine ⟨_, ⟨there.leads taken ?_, ?_⟩, ⟨calm.indent, calm.outer, calm.nested, calm.optional⟩,
      there.depth.trans h.depth, next⟩
    · have : rest.length ≤ (w ++ rest).length := by simp
      exact Nat.le_trans short this
    · simp [push, there.tokens]

end

end Scanner

end WorkloadForms.Yaml
