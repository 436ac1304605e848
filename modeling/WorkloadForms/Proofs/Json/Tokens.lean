import WorkloadForms.Proofs.Number.Decimal
import WorkloadForms.Proofs.Yaml.Scan.Flow

/-!
# JSON cut into the tokens of YAML

The tokens that a scanner of YAML finds in the text of a JSON value (`scan_value`): those of the
value, if something is heard of each of its texts, and none otherwise. A printed object is cut into
its tokens exactly if all its texts are legible (`tokens_of_pretty`).
-/

namespace WorkloadForms.Json

open Yaml (Token heard hear? Scanner)
open Yaml.Scanner

mutual

/-- All texts of a value, the names of members among them. -/
def texts : Json → List String
  | .text s => [s]
  | .list items => itemTexts items
  | .object members => memberTexts members
  | _ => []

/-- The texts of items. -/
def itemTexts : List Json → List String
  | [] => []
  | item :: items => texts item ++ itemTexts items

/-- The names and texts of members. -/
def memberTexts : List (String × Json) → List String
  | [] => []
  | (name, value) :: members => name :: (texts value ++ memberTexts members)

end

mutual

/-- Whether all numbers of a value are integers. -/
def isWhole : Json → Bool
  | .decimal _ => false
  | .list items => areWhole items
  | .object members => haveWhole members
  | _ => true

/-- Whether all numbers of items are integers. -/
def areWhole : List Json → Bool
  | [] => true
  | item :: items => isWhole item && areWhole items

/-- Whether all numbers of members are integers. -/
def haveWhole : List (String × Json) → Bool
  | [] => true
  | (_, value) :: members => isWhole value && haveWhole members

end

mutual

/-- The tokens of a value that is printed over several lines. -/
def tokens : Json → List Token
  | .text s => [.scalar (heard s) .quoted]
  | .list items => .flowSequenceStart :: (itemTokens items ++ [.flowSequenceEnd])
  | .object members => .flowMappingStart :: (memberTokens members ++ [.flowMappingEnd])
  | scalar => [.scalar (String.ofList (scalarChars scalar)) .plain]

/-- The tokens of items with commas between them. -/
def itemTokens : List Json → List Token
  | [] => []
  | [item] => tokens item
  | item :: items => tokens item ++ .flowEntry :: itemTokens items

/-- The tokens of members with commas between them. -/
def memberTokens : List (String × Json) → List Token
  | [] => []
  | [(name, value)] => nameTokens name ++ tokens value
  | (name, value) :: members =>
    nameTokens name ++ tokens value ++ .flowEntry :: memberTokens members

end

/-- Whether anything is heard of a text. -/
def audible (s : String) : Bool := (hear? s).isSome

/-- The scanner reads tokens if all these texts are audible, and stops if not. -/
def Scans (s : Scanner) (texts : List String) (ts : List Token) (depth : Nat)
    (rest : List Char) : Prop :=
  (texts.all audible = true ∧ ∃ s', Reads s ts s' ∧ At depth rest s') ∨
    (texts.all audible = false ∧ Fails s)

section
variable {s s' : Scanner} {texts texts' : List String} {ts ts' : List Token} {depth depth' : Nat}
  {rest rest' : List Char}

theorem Scans.stay (here : At depth rest s) : Scans s [] [] depth rest :=
  .inl ⟨rfl, s, ⟨fun n less => ⟨n, less, rfl⟩, rfl⟩, here⟩

theorem Scans.after (h : Reads s ts s') (next : Scans s' texts ts' depth rest) :
    Scans s texts (ts ++ ts') depth rest := by
  rcases next with ⟨audible, s'', h', here⟩ | ⟨silent, fails⟩
  · exact .inl ⟨audible, s'', h.trans h', here⟩
  · exact .inr ⟨silent, h.leads.fails fails⟩

theorem Scans.bind (first : Scans s texts ts depth rest)
    (next : ∀ s', At depth rest s' → Scans s' texts' ts' depth' rest') :
    Scans s (texts ++ texts') (ts ++ ts') depth' rest' := by
  rcases first with ⟨heard, s', h, here⟩ | ⟨silent, fails⟩
  · rcases next s' here with ⟨heard', s'', h', here'⟩ | ⟨silent', fails'⟩
    · exact .inl ⟨by rw [List.all_append, heard, heard']; rfl, s'', h.trans h', here'⟩
    · exact .inr ⟨by rw [List.all_append, silent', Bool.and_false], h.leads.fails fails'⟩
  · exact .inr ⟨by rw [List.all_append, silent, Bool.false_and], fails⟩

end

/-- A bracket on a line of its own, behind the last item or member. -/
def Closing (rest : List Char) : Prop :=
  ∃ k x r, rest = '\n' :: (List.replicate k ' ' ++ x :: r) ∧ (x = ']' ∨ x = '\x7d')

theorem Closing.ends {rest : List Char} (h : Closing rest) : Ends rest := by
  obtain ⟨k, x, r, form, bracket⟩ := h
  exact ⟨r, .inr ⟨k, x, form, bracket⟩⟩

section
variable {s s' : Scanner} {texts : List String} {ts : List Token} {depth : Nat}
  {rest : List Char}

/-- A text is read if it is audible. -/
theorem scan_text {text : String} (h : At (depth + 1) (quoted text ++ rest) s) :
    Scans s [text] [.scalar (heard text) .quoted] (depth + 1) rest := by
  rcases scan_quoted h with ⟨heard, reads⟩ | ⟨silent, fails⟩
  · exact .inl ⟨by simp [audible, heard], reads⟩
  · exact .inr ⟨by simp [audible, silent], fails⟩

/-- A name and its colon are read if the name is audible. -/
theorem scan_label {name : String} (allowed : s.keyAllowed = true)
    (h : At (depth + 1) (quoted name ++ ':' :: rest) s) :
    Scans s [name] (nameTokens name) (depth + 1) rest := by
  rcases scan_name allowed h with ⟨heard, reads⟩ | ⟨silent, fails⟩
  · exact .inl ⟨by simp [audible, heard], reads⟩
  · exact .inr ⟨by simp [audible, silent], fails⟩

/-- A collection is read if what stands in it is. -/
theorem scan_collection {x y : Char} {t u : Token} {inner gap : List Char} (opens : Opens x t)
    (closes : Closes y u) (h : Arrives s s' x (inner ++ (gap ++ y :: rest)))
    (nested : s.flowDepth = depth) (blank : Yaml.ahead (gap ++ y :: rest) = y :: rest)
    (inside : ∀ s₁, At (depth + 1) (inner ++ (gap ++ y :: rest)) s₁ → s₁.keyAllowed = true →
      Scans s₁ texts ts (depth + 1) (gap ++ y :: rest)) :
    Scans s texts (t :: (ts ++ [u])) depth rest := by
  obtain ⟨s₁, opened, here, allowed⟩ := scan_open opens h
  rw [nested] at here
  have solid : Yaml.isSolid y = true := by
    rcases closes with ⟨rfl, -⟩ | ⟨rfl, -⟩ <;> decide
  have whole : Scans s₁ (texts ++ []) (ts ++ [u]) depth rest := by
    refine (inside s₁ here allowed).bind fun s₂ here => ?_
    have close : At (depth + 1) (y :: rest) s₂ :=
      here.congr (blank.trans (Yaml.ahead_solid solid rest).symm)
    obtain ⟨s₂', there⟩ := close.arrives solid
    obtain ⟨s₃, closed, behind⟩ := scan_close closes there close.depth
    exact .inl ⟨rfl, s₃, closed, behind⟩
  rw [List.append_nil] at whole
  exact Scans.after opened whole

end

/-- What is printed on new lines is read like what is printed at once. -/
theorem ahead_line (depth : Nat) (cs : List Char) :
    Yaml.ahead (newLine depth ++ cs) = Yaml.ahead cs :=
  Yaml.ahead_newLine (2 * depth) cs

/-- A number is a plain word. -/
theorem isPlainWord_int (n : Int) : isPlainWord (toString n).toList = true := by
  have word {c : Char} (h : c ∈ Nat.toDigits 10 n.natAbs) : Text.isWord c = true := by
    simp [Text.isWord, Text.isDigit_of_mem_toDigits h]
  have all : (Nat.toDigits 10 n.natAbs).all Text.isWord = true :=
    List.all_eq_true.2 fun c => word
  obtain ⟨d, ds, digits⟩ :=
    List.exists_cons_of_ne_nil (Nat.toDigits_ne_nil (n := n.natAbs) (b := 10))
  have digit : Text.isDigit d = true :=
    Text.isDigit_of_mem_toDigits (n := n.natAbs) (by simp [digits])
  have minus : d ≠ '-' := by rintro rfl; exact absurd digit (by decide)
  rw [Yaml.Scalar.toList_toString, isPlainWord]
  split
  · rw [List.all_cons, all]
    simp [digits, digit]
    decide
  · rw [all]
    simp [digits, minus]

mutual

/-- A value is cut into its tokens if its texts are audible. -/
theorem scan_value (j : Json) (whole : j.isWhole = true) {indent depth : Nat} {s : Scanner}
    {rest : List Char} (ends : Ends rest)
    (h : At (depth + 1) (j.prettyChars indent ++ rest) s) :
    Scans s j.texts j.tokens (depth + 1) rest := by
  match j with
  | .text _ => exact scan_text h
  | .decimal _ => cases whole
  | .null => exact .inl ⟨rfl, scan_word (w := "null".toList) (by decide) ends h⟩
  | .bool true => exact .inl ⟨rfl, scan_word (w := "true".toList) (by decide) ends h⟩
  | .bool false => exact .inl ⟨rfl, scan_word (w := "false".toList) (by decide) ends h⟩
  | .int n => exact .inl ⟨rfl, scan_word (isPlainWord_int n) ends h⟩
  | .list [] =>
    have apart : At (depth + 1) ('[' :: ([] ++ ([] ++ ']' :: rest))) s := h
    obtain ⟨s', there⟩ := apart.arrives (by decide)
    exact scan_collection (.inl ⟨rfl, rfl⟩) (.inl ⟨rfl, rfl⟩) there h.depth
      (Yaml.ahead_solid (by decide) rest) fun _ here _ => .stay here
  | .list (item :: items) =>
    have apart : (Json.list (item :: items)).prettyChars indent ++ rest
        = '[' :: (prettyItems (indent + 1) (item :: items) ++ (newLine indent ++ ']' :: rest)) := by
      simp [prettyChars]
    obtain ⟨s', there⟩ := At.arrives (apart ▸ h) (by decide)
    refine scan_collection (.inl ⟨rfl, rfl⟩) (.inl ⟨rfl, rfl⟩) there h.depth
      ((ahead_line indent _).trans (Yaml.ahead_solid (by decide) rest)) fun s₁ here _ => ?_
    exact scan_items (item :: items) whole ⟨_, _, _, rfl, .inl rfl⟩ here
  | .object [] =>
    have apart : At (depth + 1) ('\x7b' :: ([] ++ ([] ++ '\x7d' :: rest))) s := h
    obtain ⟨s', there⟩ := apart.arrives (by decide)
    exact scan_collection (.inr ⟨rfl, rfl⟩) (.inr ⟨rfl, rfl⟩) there h.depth
      (Yaml.ahead_solid (by decide) rest) fun _ here _ => .stay here
  | .object (member :: members) =>
    have apart : (Json.object (member :: members)).prettyChars indent ++ rest
        = '\x7b' :: (prettyMembers (indent + 1) (member :: members)
          ++ (newLine indent ++ '\x7d' :: rest)) := by
      simp [prettyChars]
    obtain ⟨s', there⟩ := At.arrives (apart ▸ h) (by decide)
    refine scan_collection (.inr ⟨rfl, rfl⟩) (.inr ⟨rfl, rfl⟩) there h.depth
      ((ahead_line indent _).trans (Yaml.ahead_solid (by decide) rest)) fun s₁ here allowed => ?_
    exact scan_members (member :: members) whole ⟨_, _, _, rfl, .inr rfl⟩ allowed here

/-- Items are cut into their tokens if their texts are audible. -/
theorem scan_items (items : List Json) (whole : areWhole items = true) {indent depth : Nat}
    {s : Scanner} {rest : List Char} (closing : Closing rest)
    (h : At (depth + 1) (prettyItems indent items ++ rest) s) :
    Scans s (itemTexts items) (itemTokens items) (depth + 1) rest := by
  match items with
  | [] => exact .stay h
  | [item] =>
    have apart : prettyItems indent [item] ++ rest
        = newLine indent ++ (item.prettyChars indent ++ rest) := by
      simp [prettyItems]
    have single : itemTexts [item] = item.texts := by simp [itemTexts]
    rw [single]
    rw [areWhole, Bool.and_eq_true] at whole
    exact scan_value item whole.1 closing.ends ((apart ▸ h).congr (ahead_line indent _))
  | item :: next :: items =>
    have apart : prettyItems indent (item :: next :: items) ++ rest
        = newLine indent ++ (item.prettyChars indent
          ++ (',' :: (prettyItems indent (next :: items) ++ rest))) := by
      simp [prettyItems]
    rw [areWhole, Bool.and_eq_true] at whole
    have several : itemTokens (item :: next :: items)
        = item.tokens ++ .flowEntry :: itemTokens (next :: items) := rfl
    rw [itemTexts, several]
    refine (scan_value item whole.1 ⟨_, .inl rfl⟩ ((apart ▸ h).congr (ahead_line indent _))).bind
      fun s₁ here => ?_
    obtain ⟨s₁', there⟩ := here.arrives (by decide)
    obtain ⟨s₂, comma, here', -⟩ := scan_comma there
    rw [here.depth] at here'
    exact (scan_items (next :: items) whole.2 closing here').after comma

/-- Members are cut into their tokens if their names and texts are audible. -/
theorem scan_members (members : List (String × Json)) (whole : haveWhole members = true)
    {indent depth : Nat} {s : Scanner} {rest : List Char} (closing : Closing rest)
    (allowed : s.keyAllowed = true)
    (h : At (depth + 1) (prettyMembers indent members ++ rest) s) :
    Scans s (memberTexts members) (memberTokens members) (depth + 1) rest := by
  match members with
  | [] => exact .stay h
  | [(name, value)] =>
    have apart : prettyMembers indent [(name, value)] ++ rest
        = newLine indent
          ++ (quoted name ++ ':' :: (' ' :: (value.prettyChars indent ++ rest))) := by
      simp [prettyMembers]
    have single : memberTexts [(name, value)] = [name] ++ value.texts := by simp [memberTexts]
    rw [single, memberTokens]
    rw [haveWhole, Bool.and_eq_true] at whole
    refine (scan_label allowed ((apart ▸ h).congr (ahead_line indent _))).bind fun s₁ here => ?_
    exact scan_value value whole.1 closing.ends (here.congr rfl)
  | (name, value) :: next :: members =>
    have apart : prettyMembers indent ((name, value) :: next :: members) ++ rest
        = newLine indent ++ (quoted name ++ ':' :: (' ' :: (value.prettyChars indent
          ++ (',' :: (prettyMembers indent (next :: members) ++ rest))))) := by
      simp [prettyMembers]
    rw [haveWhole, Bool.and_eq_true] at whole
    have labelled := scan_label allowed ((apart ▸ h).congr (ahead_line indent _))
    have valued : Scans s ([name] ++ value.texts) (nameTokens name ++ value.tokens) (depth + 1)
        (',' :: (prettyMembers indent (next :: members) ++ rest)) :=
      labelled.bind fun s₁ here => scan_value value whole.1 ⟨_, .inl rfl⟩ (here.congr rfl)
    have several : memberTokens ((name, value) :: next :: members)
        = nameTokens name ++ value.tokens ++ .flowEntry :: memberTokens (next :: members) := rfl
    rw [memberTexts, several, ← List.singleton_append, ← List.append_assoc]
    refine valued.bind fun s₁ here => ?_
    obtain ⟨s₁', there⟩ := here.arrives (by decide)
    obtain ⟨s₂, comma, here', allowed'⟩ := scan_comma there
    rw [here.depth] at here'
    exact (scan_members (next :: members) whole.2 closing allowed' here').after comma

end

/-! ## The whole text -/

/-- Whether the characters of a text that are not escaped may stand in a YAML text. -/
def isPrintable (s : String) : Bool :=
  s.toList.all fun c => Yaml.isEscaped c || Yaml.isPermitted c

/-- An escape is made of permitted characters. -/
theorem all_isPermitted_escape (c : Char) :
    (escape c).all Yaml.isPermitted = (Yaml.isEscaped c || Yaml.isPermitted c) := by
  cases escaped : Yaml.isEscaped c with
  | false => simp [Yaml.escape_raw escaped]
  | true =>
    have hex (n : Nat) : Yaml.isPermitted (hexDigit n) = true := by
      have digits : ∀ k < 16, Yaml.isPermitted (Nat.digitChar k) = true := by decide
      exact digits (n % 16) (Nat.mod_lt _ (by decide))
    rw [Bool.true_or, escape]
    iterate 7
      split
      · decide
    split
    · simp only [List.all_cons, List.all_nil, hex]
      decide
    · simp_all [Yaml.isEscaped]

/-- A quoted text is made of permitted characters if the text is printable. -/
theorem all_isPermitted_quoted (s : String) :
    (quoted s).all Yaml.isPermitted = isPrintable s := by
  have ends : Yaml.isPermitted '"' = true := by decide
  rw [quoted, isPrintable, List.cons_append, List.all_cons, List.all_append, List.all_cons, ends,
    List.all_flatMap]
  simp [all_isPermitted_escape]

/-- The characters of a plain word are permitted. -/
theorem all_isPermitted_word {w : List Char} (word : isPlainWord w = true) :
    w.all Yaml.isPermitted = true := by
  rw [isPlainWord, Bool.and_eq_true] at word
  refine List.all_eq_true.2 fun c mem => ?_
  have letter := List.all_eq_true.1 word.1 c mem
  obtain ⟨low, high⟩ := toNat_of_isWord letter
  simp [Yaml.isPermitted, low, high]

/-- Line feeds and blanks are permitted. -/
theorem all_isPermitted_newLine (depth : Nat) : (newLine depth).all Yaml.isPermitted = true := by
  have blanks : (List.replicate (2 * depth) ' ').all Yaml.isPermitted = true :=
    List.all_eq_true.2 fun c mem => by rw [List.eq_of_mem_replicate mem]; decide
  rw [newLine, List.all_cons, blanks]
  decide

/-- The brackets and signs of JSON are permitted. -/
theorem isPermitted_signs : Yaml.isPermitted '[' = true ∧ Yaml.isPermitted ']' = true ∧
    Yaml.isPermitted '\x7b' = true ∧ Yaml.isPermitted '\x7d' = true ∧
    Yaml.isPermitted ',' = true ∧ Yaml.isPermitted ':' = true ∧ Yaml.isPermitted ' ' = true := by
  decide

mutual

/-- A value is printed in permitted characters if its texts are printable. -/
theorem all_isPermitted_value (j : Json) (whole : j.isWhole = true) (depth : Nat) :
    (j.prettyChars depth).all Yaml.isPermitted = j.texts.all isPrintable := by
  match j with
  | .text s =>
    rw [texts, List.all_cons, List.all_nil, Bool.and_true]
    exact all_isPermitted_quoted s
  | .decimal _ => cases whole
  | .null => rfl
  | .bool true => rfl
  | .bool false => rfl
  | .int n => exact all_isPermitted_word (isPlainWord_int n)
  | .list [] => rfl
  | .list (item :: items) =>
    simp only [prettyChars, List.all_append, List.all_cons, List.all_nil, all_isPermitted_newLine,
      isPermitted_signs, all_isPermitted_items (item :: items) whole, texts, Bool.true_and,
      Bool.and_true]
  | .object [] => rfl
  | .object (member :: members) =>
    simp only [prettyChars, List.all_append, List.all_cons, List.all_nil, all_isPermitted_newLine,
      isPermitted_signs, all_isPermitted_members (member :: members) whole, texts, Bool.true_and,
      Bool.and_true]

/-- Items are printed in permitted characters if their texts are printable. -/
theorem all_isPermitted_items (items : List Json) (whole : areWhole items = true) (depth : Nat) :
    (prettyItems depth items).all Yaml.isPermitted = (itemTexts items).all isPrintable := by
  match items with
  | [] => rfl
  | [item] =>
    rw [areWhole, Bool.and_eq_true] at whole
    simp only [prettyItems, List.all_append, all_isPermitted_newLine,
      all_isPermitted_value item whole.1, itemTexts, Bool.true_and, List.append_nil]
  | item :: next :: items =>
    rw [areWhole, Bool.and_eq_true] at whole
    have rest := all_isPermitted_items (next :: items) whole.2 depth
    have printed : prettyItems depth (item :: next :: items) = newLine depth
      ++ item.prettyChars depth ++ ',' :: prettyItems depth (next :: items) := rfl
    rw [printed, itemTexts, List.all_append, List.all_append, List.all_cons, List.all_append, rest,
      all_isPermitted_newLine, all_isPermitted_value item whole.1]
    simp [isPermitted_signs]

/-- Members are printed in permitted characters if their names and texts are printable. -/
theorem all_isPermitted_members (members : List (String × Json)) (whole : haveWhole members = true)
    (depth : Nat) :
    (prettyMembers depth members).all Yaml.isPermitted
      = (memberTexts members).all isPrintable := by
  match members with
  | [] => rfl
  | [(name, value)] =>
    rw [haveWhole, Bool.and_eq_true] at whole
    simp only [prettyMembers, List.all_append, List.all_cons, all_isPermitted_newLine,
      isPermitted_signs, all_isPermitted_quoted, all_isPermitted_value value whole.1, memberTexts,
      Bool.true_and, List.append_nil]
  | (name, value) :: next :: members =>
    rw [haveWhole, Bool.and_eq_true] at whole
    have rest := all_isPermitted_members (next :: members) whole.2 depth
    have printed : prettyMembers depth ((name, value) :: next :: members) = newLine depth
      ++ quoted name ++ ':' :: ' ' :: value.prettyChars depth
      ++ ',' :: prettyMembers depth (next :: members) := rfl
    rw [printed, memberTexts]
    simp only [List.all_append, List.all_cons, all_isPermitted_newLine, isPermitted_signs,
      all_isPermitted_quoted, all_isPermitted_value value whole.1, rest, Bool.true_and,
      Bool.and_assoc]

end

/-- A text between quotes that YAML permits and of which something is heard. -/
def isLegible (s : String) : Bool := isPrintable s && audible s

/-- An object is cut into its tokens from the start of a text. -/
theorem scan_object {members : List (String × Json)} (filled : members ≠ [])
    (whole : haveWhole members = true) {s : Scanner} {rest : List Char} (calm : Calm s)
    (outside : s.flowDepth = 0)
    (h : s.cursor.rest = (Json.object members).prettyChars 0 ++ rest) :
    Scans s (Json.object members).texts (Json.object members).tokens 0 rest := by
  match members with
  | [] => exact absurd rfl filled
  | member :: members =>
    have apart : (Json.object (member :: members)).prettyChars 0 ++ rest
        = '\x7b' :: (prettyMembers 1 (member :: members) ++ (newLine 0 ++ '\x7d' :: rest)) := by
      simp [prettyChars]
    have there := calm.arrives (x := '\x7b') (by decide) (h.trans apart)
    refine scan_collection (.inr ⟨rfl, rfl⟩) (.inr ⟨rfl, rfl⟩) there outside
      ((ahead_line 0 _).trans (Yaml.ahead_solid (by decide) rest)) fun s₁ here allowed => ?_
    exact scan_members (member :: members) whole ⟨_, _, _, rfl, .inr rfl⟩ allowed here

/-- The text of an object is cut into the tokens of the object if its texts are legible. -/
theorem tokens_of_pretty {members : List (String × Json)} (filled : members ≠ [])
    (whole : haveWhole members = true) :
    Token.ofText? ((Json.object members).pretty ++ "\n")
      = if (Json.object members).texts.all isLegible then some (Json.object members).tokens
        else none := by
  have printed : ((Json.object members).pretty ++ "\n").toList
      = (Json.object members).prettyChars 0 ++ ['\n'] := by
    simp [pretty]
  have unmarked : Yaml.withoutMark ((Json.object members).prettyChars 0 ++ ['\n'])
      = (Json.object members).prettyChars 0 ++ ['\n'] := by
    cases members with
    | nil => exact absurd rfl filled
    | cons member members =>
      have other : ¬ '\x7b' = Yaml.byteOrderMark := by decide
      obtain ⟨cs, opened⟩ : ∃ cs,
          (Json.object (member :: members)).prettyChars 0 ++ ['\n'] = '\x7b' :: cs := ⟨_, rfl⟩
      rw [opened, Yaml.withoutMark, if_neg other]
  have permitted : ((Json.object members).prettyChars 0 ++ ['\n']).all Yaml.isPermitted
      = (Json.object members).texts.all isPrintable := by
    rw [List.all_append, all_isPermitted_value (.object members) whole]
    exact Bool.and_true _
  have legible : (Json.object members).texts.all isLegible
      = ((Json.object members).texts.all isPrintable
        && (Json.object members).texts.all audible) := by
    rw [Bool.eq_iff_iff]
    simp only [List.all_eq_true, isLegible, Bool.and_eq_true]
    exact ⟨fun h => ⟨fun s mem => (h s mem).1, fun s mem => (h s mem).2⟩,
      fun h s mem => ⟨h.1 s mem, h.2 s mem⟩⟩
  have scanned : Scans (Scanner.start ((Json.object members).prettyChars 0 ++ ['\n']))
      (Json.object members).texts (Json.object members).tokens 0 ['\n'] :=
    scan_object filled whole ⟨rfl, rfl, rfl, fun k mem => by simp [Scanner.start] at mem⟩ rfl rfl
  rw [Token.ofText?, Token.ofChars?, printed, unmarked, permitted, legible]
  cases (Json.object members).texts.all isPrintable with
  | false => rfl
  | true =>
    have fuel : (Scanner.start ((Json.object members).prettyChars 0 ++ ['\n'])).cursor.rest.length
        < ((Json.object members).prettyChars 0 ++ ['\n']).length + 2 :=
      Nat.lt_add_of_pos_right (by decide)
    rw [if_pos rfl, Bool.true_and]
    rcases scanned with ⟨audible, s', reads, here⟩ | ⟨silent, fails⟩
    · obtain ⟨m, less, same⟩ := reads.leads _ fuel
      rw [same, here.calm.run_end here.rest less, reads.tokens, audible]
      simp [Scanner.start]
    · rw [fails _ fuel, silent]
      rfl

end WorkloadForms.Json
