import WorkloadForms.Proofs.Yaml.Quoted
import WorkloadForms.Yaml.Token.Scan

/-!
# From token to token

A text of flow collections is scanned token by token, in states that no block has been opened in
(`Calm`). `Leads` says that scanning on from one state is scanning on from another. In a flow
collection the scanner arrives at the next token, whatever blanks stand before it (`At.arrives`).
-/

namespace WorkloadForms.Yaml

/-- A character that is neither blank nor starts a comment. -/
def isSolid (x : Char) : Bool := !isGapOrBreak x && x != '#' && x != byteOrderMark

/-- The blanks and line feeds that may stand between tokens. -/
def isLayout (x : Char) : Bool := x == ' ' || x == '\n'

/-- What remains behind blanks and line feeds. -/
def ahead (cs : List Char) : List Char := cs.dropWhile isLayout

/-- A token starts with no blank. -/
theorem isLayout_of_isSolid {x : Char} (solid : isSolid x = true) : isLayout x = false := by
  have space : (x == ' ') = false := beq_false_of_ne (by rintro rfl; revert solid; decide)
  have feed : (x == '\n') = false := beq_false_of_ne (by rintro rfl; revert solid; decide)
  rw [isLayout, space, feed]
  rfl

/-- In front of a token nothing is passed over. -/
theorem ahead_solid {x : Char} (solid : isSolid x = true) (cs : List Char) :
    ahead (x :: cs) = x :: cs := by
  rw [ahead, List.dropWhile_cons, isLayout_of_isSolid solid]
  rfl

/-- Blanks are passed over. -/
theorem ahead_blanks (k : Nat) (cs : List Char) :
    ahead (List.replicate k ' ' ++ cs) = ahead cs := by
  induction k with
  | zero => rfl
  | succ k ih => exact ih

/-- A line feed and blanks behind it are passed over. -/
theorem ahead_newLine (k : Nat) (cs : List Char) :
    ahead ('\n' :: (List.replicate k ' ' ++ cs)) = ahead cs :=
  ahead_blanks k cs

namespace Scanner

/-- A state in which no block collection has been opened and no key is required. -/
structure Calm (s : Scanner) : Prop where
  indent : s.indent = -1
  outer : s.outerIndents = []
  nested : s.candidates.length = s.flowDepth + 1
  optional : ∀ k, some k ∈ s.candidates → k.required = false

/-- Scanning on from `s` is scanning on from `s'`. -/
def Leads (s s' : Scanner) : Prop :=
  ∀ n, s.cursor.rest.length < n → ∃ m, s'.cursor.rest.length < m ∧ run n s = run m s'

/-- The text cannot be cut from `s` on. -/
def Fails (s : Scanner) : Prop := ∀ n, s.cursor.rest.length < n → run n s = none

theorem Leads.trans {s s' s'' : Scanner} (h : Leads s s') (h' : Leads s' s'') : Leads s s'' := by
  intro n less
  obtain ⟨m, less', same⟩ := h n less
  obtain ⟨k, less'', same'⟩ := h' m less'
  exact ⟨k, less'', same.trans same'⟩

/-- Where scanning on fails, scanning fails. -/
theorem Leads.fails {s s' : Scanner} (h : Leads s s') (h' : Fails s') : Fails s := by
  intro n less
  obtain ⟨m, less', same⟩ := h n less
  exact same.trans (h' m less')

/-! ## Between tokens -/

theorem rest_skipWhile (c : Cursor) (p : Char → Bool) :
    (c.skipWhile p).rest = c.rest.dropWhile p := by
  have drop (cs : List Char) : cs.drop (cs.takeWhile p).length = cs.dropWhile p := by
    induction cs with
    | nil => rfl
    | cons x cs ih => cases h : p x <;> simp [h, ih]
  exact drop c.rest

/-- Behind blanks stands the next token, the end of the text, or a line feed. -/
theorem dropWhile_blank {cs : List Char} (tabs : Bool)
    (solid : (ahead cs).head?.all isSolid = true) :
    let rest := cs.dropWhile fun y => y == ' ' || (y == '\t' && tabs)
    rest = ahead cs ∨ ∃ t, rest = '\n' :: t ∧ ahead t = ahead cs ∧ t.length < cs.length := by
  induction cs with
  | nil => exact .inl rfl
  | cons y cs ih =>
    by_cases space : y = ' '
    · subst space
      rcases ih solid with found | ⟨t, found, next, less⟩
      · exact .inl found
      · exact .inr ⟨t, found, next, Nat.lt_succ_of_lt less⟩
    · by_cases feed : y = '\n'
      · subst feed
        exact .inr ⟨cs, rfl, rfl, Nat.lt_succ_self _⟩
      · have here : ahead (y :: cs) = y :: cs := by
          simp [ahead, isLayout, space, feed]
        rw [here] at solid
        have tab : y ≠ '\t' := by
          rintro rfl
          exact absurd (show isSolid '\t' = true from solid) (by decide)
        exact .inl (by simp [here, space, tab])

section
variable {s : Scanner} {x : Char} {r : List Char}

/-- The blanks in front of a token. -/
def isBlankIn (s : Scanner) (y : Char) : Bool :=
  y == ' ' || (y == '\t' && (s.inFlow || !s.keyAllowed))

/-- Behind blanks the scanner passes over a line break. -/
theorem toNextToken_break {c : Cursor} {y : Char} (n : Nat)
    (unmarked : s.cursor.sees byteOrderMark = false)
    (bare : (s.cursor.skipWhile s.isBlankIn).sees '#' = false)
    (broken : (s.cursor.skipWhile s.isBlankIn).break? = some (y, c)) :
    toNextToken (n + 1) s
      = toNextToken n { s with cursor := c, keyAllowed := s.keyAllowed || !s.inFlow } := by
  have bare' := bare
  have broken' := broken
  unfold isBlankIn at bare' broken'
  simp [toNextToken, unmarked, bare', broken']

/-- Behind blanks the scanner stops where no line ends. -/
theorem toNextToken_stop (n : Nat) (unmarked : s.cursor.sees byteOrderMark = false)
    (bare : (s.cursor.skipWhile s.isBlankIn).sees '#' = false)
    (whole : (s.cursor.skipWhile s.isBlankIn).break? = none) :
    toNextToken (n + 1) s = { s with cursor := s.cursor.skipWhile s.isBlankIn } := by
  have bare' := bare
  have whole' := whole
  unfold isBlankIn at bare' whole'
  simp [toNextToken, unmarked, bare', whole']
  rfl

theorem isBreak_of_isSolid (solid : isSolid x = true) : isBreak x = false := by
  have parts : (isGap x = false ∧ isBreak x = false) := by
    simp only [isSolid, isGapOrBreak, Bool.and_eq_true, Bool.not_eq_true'] at solid
    simpa using solid.1.1
  exact parts.2

/-- In front of a token the scanner does not move. -/
theorem toNextToken_solid (solid : isSolid x = true) (h : s.cursor.rest = x :: r) {n : Nat}
    (fuel : 0 < n) : toNextToken n s = s := by
  obtain ⟨n, rfl⟩ : ∃ k, n = k + 1 := ⟨n - 1, by omega⟩
  have solid' := solid
  simp only [isSolid, Bool.and_eq_true, bne_iff_ne, ne_eq] at solid'
  have stay : s.cursor.skipWhile s.isBlankIn = s.cursor := by
    have blank : s.isBlankIn x = false := by
      have space : (x == ' ') = false := beq_false_of_ne (by rintro rfl; revert solid; decide)
      have tab : (x == '\t') = false := beq_false_of_ne (by rintro rfl; revert solid; decide)
      rw [isBlankIn, space, tab]
      rfl
    rw [Cursor.skipWhile, h, List.takeWhile_cons, blank]
    rfl
  rw [toNextToken_stop n, stay]
  · simp [Cursor.sees, h, solid']
  · rw [stay]; simp [Cursor.sees, h, solid']
  · rw [stay, break?_none h (isBreak_of_isSolid solid)]

/-- No mark of byte order stands before a token or the end of the text. -/
theorem sees_mark (solid : (ahead s.cursor.rest).head?.all isSolid = true) :
    s.cursor.sees byteOrderMark = false := by
  refine beq_false_of_ne fun mark => ?_
  cases e : s.cursor.rest with
  | nil => rw [e] at mark; cases mark
  | cons y cs =>
    rw [e] at mark solid
    obtain rfl := Option.some.inj mark
    exact absurd solid (show ¬ isSolid byteOrderMark = true by decide)

/-- The scanner moves to the next token or the end, whatever blanks stand before it. -/
theorem exists_toNextToken (solid : (ahead s.cursor.rest).head?.all isSolid = true) :
    ∃ (c : Cursor) (allowed : Bool), c.rest = ahead s.cursor.rest ∧
      (s.flowDepth ≠ 0 → allowed = s.keyAllowed) ∧ ∀ n, s.cursor.rest.length < n →
        toNextToken n s = { s with cursor := c, keyAllowed := allowed } := by
  induction k : s.cursor.rest.length using Nat.strongRecOn generalizing s with
  | ind k ih =>
    have unmarked := sees_mark solid
    have moved : (s.cursor.skipWhile s.isBlankIn).rest = s.cursor.rest.dropWhile fun y =>
        y == ' ' || (y == '\t' && (s.inFlow || !s.keyAllowed)) := rest_skipWhile _ _
    rcases dropWhile_blank (s.inFlow || !s.keyAllowed) solid with found | ⟨t, found, next, less⟩
    · rw [found] at moved
      have bare : (s.cursor.skipWhile s.isBlankIn).sees '#' = false := by
        refine beq_false_of_ne fun hash => ?_
        rw [moved] at hash
        rw [hash] at solid
        exact absurd solid (by decide)
      have whole : (s.cursor.skipWhile s.isBlankIn).break? = none := by
        cases e : ahead s.cursor.rest with
        | nil => simp [Cursor.break?, moved, e]
        | cons x r =>
          rw [e] at solid
          exact break?_none (moved.trans e) (isBreak_of_isSolid solid)
      refine ⟨s.cursor.skipWhile s.isBlankIn, s.keyAllowed, moved, fun _ => rfl, fun n less => ?_⟩
      obtain ⟨n, rfl⟩ : ∃ k, n = k + 1 := ⟨n - 1, by omega⟩
      exact toNextToken_stop n unmarked bare whole
    · rw [found] at moved
      let c : Cursor := ⟨t, (s.cursor.skipWhile s.isBlankIn).index + 1,
        (s.cursor.skipWhile s.isBlankIn).line + 1, 0⟩
      have broken : (s.cursor.skipWhile s.isBlankIn).break? = some ('\n', c) := by
        simp [Cursor.break?, moved, isBreak, isSeparator, c]
      obtain ⟨c', allowed, rest, same, moves⟩ := ih t.length (by omega)
        (s := { s with cursor := c, keyAllowed := s.keyAllowed || !s.inFlow })
        (next.symm ▸ solid) rfl
      refine ⟨c', allowed, rest.trans next, fun flow => ?_, fun n less => ?_⟩
      · have inFlow : s.inFlow = true := by simp [Scanner.inFlow, flow]
        rw [same flow, inFlow, Bool.not_true, Bool.or_false]
      · obtain ⟨n, rfl⟩ : ∃ k, n = k + 1 := ⟨n - 1, by omega⟩
        rw [toNextToken_break n unmarked (by simp [Cursor.sees, moved]) broken,
          moves n (by omega)]

end

/-! ## Calm states -/

section
variable {s : Scanner} {x : Char} {r : List Char}

/-- The state without the candidates that can no longer be keys. -/
def prune (s : Scanner) : Scanner :=
  { s with candidates := s.candidates.map fun k => if k.any s.isStale then none else k }

/-- A state stays calm in another place, with other tokens. -/
theorem Calm.move (calm : Calm s) (c : Cursor) (ts : List Token) (n : Nat) (allowed : Bool) :
    Calm { s with cursor := c, tokens := ts, tokenCount := n, keyAllowed := allowed } :=
  ⟨calm.indent, calm.outer, calm.nested, calm.optional⟩

/-- A state stays calm when candidates are forgotten. -/
theorem Calm.prune (calm : Calm s) : Calm s.prune := by
  refine ⟨calm.indent, calm.outer, by simp [Scanner.prune, calm.nested], fun k mem => ?_⟩
  obtain ⟨k', mem', found⟩ := List.mem_map.1 mem
  split at found
  · cases found
  · exact calm.optional k (found ▸ mem')

/-- In a calm state stale candidates are forgotten. -/
theorem Calm.dropStale (calm : Calm s) : s.dropStale = some s.prune := by
  have optional : (s.candidates.any fun k => k.any s.isStale && k.any (·.required)) = false := by
    rw [List.any_eq_false]
    rintro (_ | k) mem
    · simp
    · simp [calm.optional k mem]
  rw [Scanner.dropStale]
  simp only [optional]
  rfl

/-- In a calm state no block is closed. -/
theorem Calm.unroll (calm : Calm s) (column : Int) : s.unroll column = s := by
  rw [Scanner.unroll, calm.outer]
  split <;> rfl

/-- The scanner takes the next token. -/
theorem Calm.run_token (calm : Calm s) {c : Cursor} {n : Nat}
    (moved : toNextToken (n + 1) s = { s with cursor := c }) (h : c.rest = x :: r) :
    run (n + 1) s
      = (({ s with cursor := c } : Scanner).prune.tokenAt (n + 1) x).bind (run n) := by
  have there : Calm { s with cursor := c } := calm.move c s.tokens s.tokenCount s.keyAllowed
  have head : ({ s with cursor := c } : Scanner).prune.cursor.rest.head? = some x := by
    simp [Scanner.prune, h]
  rw [run, moved, there.dropStale]
  simp only [Option.bind_eq_bind, Option.bind_some, there.prune.unroll, head]

/-- Forgetting the innermost candidate leaves a calm state. -/
theorem Calm.dropKey (calm : Calm s) :
    ∃ cs, s.dropKey = some { s with candidates := cs } ∧ Calm { s with candidates := cs } := by
  match e : s.candidates with
  | [] => exact absurd calm.nested (by simp [e])
  | none :: rest =>
    refine ⟨s.candidates, ?_, calm⟩
    rw [Scanner.dropKey]
    simp only [e]
    exact congrArg some (by rw [← e])
  | some k :: rest =>
    have nested := calm.nested
    rw [e] at nested
    refine ⟨none :: rest, ?_, calm.indent, calm.outer, by simpa using nested, ?_⟩
    · have optional : k.required = false := calm.optional k (by simp [e])
      simp [Scanner.dropKey, e, optional]
    · intro k' mem
      exact calm.optional k' (by rw [e]; simp_all)

/-- At the end the tokens are those that have been read. -/
theorem Calm.run_end (calm : Calm s) (h : ahead s.cursor.rest = []) {n : Nat}
    (fuel : s.cursor.rest.length < n) : run n s = some s.tokens.reverse := by
  obtain ⟨n, rfl⟩ : ∃ k, n = k + 1 := ⟨n - 1, by omega⟩
  obtain ⟨c, allowed, rest, -, moved⟩ := exists_toNextToken (s := s) (by rw [h]; rfl)
  have there := calm.move c s.tokens s.tokenCount allowed
  obtain ⟨cs, dropped, -⟩ := there.prune.dropKey
  have none : ({ s with cursor := c, keyAllowed := allowed } : Scanner).prune.cursor.rest.head?
      = none := by simp [Scanner.prune, rest, h]
  rw [run, moved _ fuel, there.dropStale]
  simp only [Option.bind_eq_bind, Option.bind_some, there.prune.unroll, none, atDocumentEdge,
    dropped]
  rfl

/-- The candidate that the scanner notes at its place. -/
def candidate (s : Scanner) : KeyCandidate where
  required := !s.inFlow && s.indent == (s.cursor.column : Int)
  tokenNumber := s.tokenCount
  index := s.cursor.index
  line := s.cursor.line
  column := s.cursor.column

/-- Noting a candidate leaves a calm state. -/
theorem Calm.saveKey (calm : Calm s) :
    ∃ cs, s.saveKey = some { s with candidates := cs } ∧ Calm { s with candidates := cs } ∧
      (s.keyAllowed = true → cs.head? = some (some s.candidate)) := by
  by_cases allowed : s.keyAllowed = true
  · obtain ⟨cs, dropped, calm'⟩ := calm.dropKey
    refine ⟨some s.candidate :: cs.drop 1, ?_, ⟨calm'.indent, calm'.outer, ?_, ?_⟩, fun _ => rfl⟩
    · rw [Scanner.saveKey, if_pos allowed, dropped]
      rfl
    · have nested := calm'.nested
      simp only [List.length_cons, List.length_drop] at nested ⊢
      omega
    · intro k mem
      rcases List.mem_cons.1 mem with here | mem
      · obtain rfl := Option.some.inj here
        have : (s.indent == (s.cursor.column : Int)) = false := by
          rw [calm.indent]
          exact beq_false_of_ne (by omega)
        simp [candidate, this]
      · exact calm'.optional k (List.mem_of_mem_drop mem)
  · exact ⟨s.candidates, by rw [Scanner.saveKey, if_neg allowed], calm, fun h => absurd h allowed⟩

end

/-! ## Arriving at a token -/

/-- A calm state at so many open flow collections, up to blanks in front of what remains. -/
structure At (depth : Nat) (rest : List Char) (s : Scanner) : Prop where
  calm : Calm s
  depth : s.flowDepth = depth
  rest : ahead s.cursor.rest = ahead rest

theorem At.congr {depth : Nat} {rest rest' : List Char} {s : Scanner} (h : At depth rest s)
    (same : ahead rest = ahead rest') : At depth rest' s :=
  ⟨h.calm, h.depth, h.rest.trans same⟩

/-- From `s` the scanner reads tokens and goes on from `s'`. -/
structure Reads (s : Scanner) (ts : List Token) (s' : Scanner) : Prop where
  leads : Leads s s'
  tokens : s'.tokens = ts.reverse ++ s.tokens

theorem Reads.trans {s s' s'' : Scanner} {ts ts' : List Token} (h : Reads s ts s')
    (h' : Reads s' ts' s'') : Reads s (ts ++ ts') s'' :=
  ⟨h.leads.trans h'.leads, by rw [h'.tokens, h.tokens]; simp⟩

/-- The scanner goes on from `s` at the character `x` of the state `s'`. -/
structure Arrives (s s' : Scanner) (x : Char) (behind : List Char) : Prop where
  calm : Calm s'
  rest : s'.cursor.rest = x :: behind
  depth : s'.flowDepth = s.flowDepth
  allowed : s'.keyAllowed = s.keyAllowed
  tokens : s'.tokens = s.tokens
  shorter : behind.length < s.cursor.rest.length
  run : ∀ n, s.cursor.rest.length < n + 1 →
    Scanner.run (n + 1) s = (s'.tokenAt (n + 1) x).bind (Scanner.run n)

section
variable {s s' s'' : Scanner} {x : Char} {rest : List Char}

/-- In a flow collection the scanner arrives at the next token. -/
theorem At.arrives {depth : Nat} (h : At (depth + 1) (x :: rest) s) (solid : isSolid x = true) :
    ∃ s', Arrives s s' x rest := by
  have next := h.rest
  rw [ahead_solid solid] at next
  obtain ⟨c, allowed, there, same, moved⟩ := exists_toNextToken (s := s) (by rw [next]; exact solid)
  obtain rfl := same (by rw [h.depth]; omega)
  rw [next] at there
  have calm : Calm { s with cursor := c } := h.calm.move c s.tokens s.tokenCount s.keyAllowed
  refine ⟨({ s with cursor := c } : Scanner).prune, calm.prune, there, rfl, rfl, rfl, ?_,
    fun n less => h.calm.run_token (moved _ less) there⟩
  have : (ahead s.cursor.rest).length ≤ s.cursor.rest.length :=
    (List.dropWhile_suffix _).length_le
  rw [next, List.length_cons] at this
  omega

/-- A state that stands at a token has arrived there. -/
theorem Calm.arrives (calm : Calm s) (solid : isSolid x = true) (h : s.cursor.rest = x :: rest) :
    Arrives s s.prune x rest :=
  ⟨calm.prune, h, rfl, rfl, rfl, by simp [h],
    fun _ _ => calm.run_token (toNextToken_solid solid h (Nat.succ_pos _)) h⟩

/-- Reading the token at the place of arrival. -/
theorem Arrives.leads (h : Arrives s s' x rest)
    (taken : ∀ n, s'.cursor.rest.length ≤ n → s'.tokenAt n x = some s'')
    (behind : s''.cursor.rest.length ≤ rest.length) : Leads s s'' := by
  intro n less
  obtain ⟨n, rfl⟩ : ∃ k, n = k + 1 := ⟨n - 1, by omega⟩
  have shorter := h.shorter
  refine ⟨n, by omega, ?_⟩
  rw [h.run n less, taken (n + 1) (by rw [h.rest, List.length_cons]; omega), Option.bind_some]

/-- The text cannot be cut where there is no token at the place of arrival. -/
theorem Arrives.fails (h : Arrives s s' x rest)
    (stuck : ∀ n, s'.cursor.rest.length ≤ n → s'.tokenAt n x = none) : Fails s := by
  intro n less
  obtain ⟨n, rfl⟩ : ∃ k, n = k + 1 := ⟨n - 1, by omega⟩
  have shorter := h.shorter
  rw [h.run n less, stuck (n + 1) (by rw [h.rest, List.length_cons]; omega), Option.bind_none]

end

end Scanner

end WorkloadForms.Yaml
