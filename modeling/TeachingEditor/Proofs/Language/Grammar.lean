import TeachingEditor.Proofs.Language.Tiling

/-!
# The lexical grammar

The reader of tokens tries its rules in an order and looks one character ahead.
Here the tokens are described without any reading: a rule says of the characters of
one token, and of the character behind it, whether they may stand together.

**Format.**  A lexeme is a comment, a string, a number, an operator or a word, and
each of these reaches as far as it can.  A character by itself is plain text when
no lexeme can begin with it.

**Algorithm.**  `scan_comment` to `scan_text` give the lexeme that a scan reads, one
equation for each rule.  A scan obeys the rule of its kind (`scan_rule`).  The rules
exclude each other: characters that obey a rule in front of a text are what a scan
of both reads (`scan_eq_of_rule`).  The second half of the main result is an
induction over the pieces with this as its step.

**Results.**  `tokenize_grammatical`: every token of a source obeys the rule of its
kind in front of the character that follows it, and the tokens are the only way to
cut the source into pieces that do.
-/

namespace TeachingEditor

/-! ## Classes of characters -/

/-- The digits from 0 to 9. -/
def IsDigit (c : Char) : Prop :=
  '0' ≤ c ∧ c ≤ '9'

/-- The letters from A to Z of both cases, and the underscore. -/
def IsLetter (c : Char) : Prop :=
  ('A' ≤ c ∧ c ≤ 'Z') ∨ ('a' ≤ c ∧ c ≤ 'z') ∨ c = '_'

theorem isDigit_iff
    (c : Char) :
    c.isDigit = true ↔ IsDigit c := by
  simp [Char.isDigit, IsDigit, Char.le_def]

theorem isWordStart_iff
    (c : Char) :
    isWordStart c = true ↔ IsLetter c := by
  simp [isWordStart, Char.isAlpha, Char.isLower, Char.isUpper, IsLetter, Char.le_def, or_assoc]

theorem isWordPart_iff
    (c : Char) :
    isWordPart c = true ↔ IsLetter c ∨ IsDigit c := by
  rw [← isWordStart_iff, ← isDigit_iff]
  simp only [isWordPart, isWordStart, Char.isAlphanum, Bool.or_eq_true]
  exact or_right_comm

theorem isNumberPart_iff
    (c : Char) :
    isNumberPart c = true ↔ IsDigit c ∨ c = '.' := by
  simp [isNumberPart, isDigit_iff]

theorem notBreak_iff
    (c : Char) :
    decide (c ≠ '\n') = true ↔ c ≠ '\n' :=
  decide_eq_true_iff

theorem joinsEquals_iff
    (c : Char) :
    joinsEquals c = true ↔ c ∈ ['=', '<', '>', '!'] := by
  simp [joinsEquals]

/-- An operator is none of the other first characters. -/
theorem operator_excludes
    {c : Char}
    (hop : isOperatorChar c = true) :
    c ≠ '"' ∧ c.isDigit = false ∧ isWordStart c = false := by
  refine ⟨Text.ne_of_class hop rfl, ?_⟩
  simp only [isOperatorChar, decide_eq_true_eq, List.mem_cons, List.not_mem_nil, or_false] at hop
  rcases hop with rfl | rfl | rfl | rfl | rfl | rfl | rfl | rfl | rfl | rfl | rfl | rfl | rfl |
    rfl | rfl | rfl | rfl | rfl <;>
    exact ⟨rfl, rfl⟩

theorem not_digit_of_letter
    {c : Char}
    (hletter : isWordStart c = true) :
    c.isDigit = false := by
  by_contra hdigit
  rw [isWordStart_iff, IsLetter] at hletter
  rw [Bool.not_eq_false, isDigit_iff, IsDigit] at hdigit
  simp only [Char.le_def, UInt32.le_iff_toNat_le] at hletter hdigit
  have hnine : '9'.val.toNat = 57 := rfl
  have hbigA : 'A'.val.toNat = 65 := rfl
  have hsmallA : 'a'.val.toNat = 97 := rfl
  rcases hletter with ⟨hlow, -⟩ | ⟨hlow, -⟩ | rfl
  · omega
  · omega
  · exact absurd hdigit.2 (by decide)

theorem IsLetter.not_digit
    {c : Char}
    (hletter : IsLetter c) :
    ¬ IsDigit c := by
  rw [← isDigit_iff, not_digit_of_letter ((isWordStart_iff c).2 hletter)]
  exact Bool.false_ne_true

/-! ## The rules -/

/--
What can stand inside quotes: a backslash takes the next character with it, whatever
it is, and no quote stands by itself.
-/
inductive Quotable : Text → Prop
  | nil :
      Quotable []
  | plain {c : Char} {t : Text}
      (hquote : c ≠ '"')
      (hbackslash : c ≠ '\\')
      (htail : Quotable t) :
      Quotable (c :: t)
  | escaped (c : Char) {t : Text}
      (htail : Quotable t) :
      Quotable ('\\' :: c :: t)

/-- A string that ends with its first quote that no backslash takes. -/
def IsClosedString (value : Text) : Prop :=
  ∃ body, Quotable body ∧ value = '"' :: body ++ ['"']

/-- A string without such a quote; a backslash at the end has nothing to take. -/
def IsOpenString (value : Text) : Prop :=
  ∃ body, Quotable body ∧ (value = '"' :: body ∨ value = '"' :: body ++ ['\\'])

/-- A word, and no character behind it that could belong to it. -/
def IsWholeWord (value : Text) (next : Option Char) : Prop :=
  (∃ c rest, value = c :: rest ∧ IsLetter c ∧ ∀ d ∈ rest, IsLetter d ∨ IsDigit d) ∧
    ∀ d ∈ next, ¬ (IsLetter d ∨ IsDigit d)

/-- The rules for lexemes, by the characters of the lexeme and the one behind it. -/
def LexemeRule (v : Vocabulary) (value : Text) (next : Option Char) : TokenKind → Prop
  | .comment =>
      (∃ body, value = '/' :: '/' :: body) ∧ '\n' ∉ value ∧ (next = none ∨ next = some '\n')
  | .string =>
      IsClosedString value ∨ (IsOpenString value ∧ next = none)
  | .number =>
      (∃ c rest, value = c :: rest ∧ IsDigit c ∧ ∀ d ∈ rest, IsDigit d ∨ d = '.') ∧
        ∀ d ∈ next, ¬ (IsDigit d ∨ d = '.')
  | .operator =>
      value ∈ [['=', '='], ['!', '='], ['<', '='], ['>', '=']] ∨
        ∃ c, value = [c] ∧ isOperatorChar c ∧
          ¬ (c = '/' ∧ next = some '/') ∧
          ¬ (c ∈ ['=', '<', '>', '!'] ∧ next = some '=')
  | .keyword => IsWholeWord value next ∧ v.classify value = .keyword
  | .builtinFunction => IsWholeWord value next ∧ v.classify value = .builtinFunction
  | .identifier => IsWholeWord value next ∧ v.classify value = .identifier
  | .text => False

/-- The rules for tokens: a lexeme, or one character with which no lexeme can begin. -/
def TokenRule (v : Vocabulary) (value : Text) (next : Option Char) : TokenKind → Prop
  | .text => ∃ c, value = [c] ∧ ∀ rest next kind, ¬ LexemeRule v (c :: rest) next kind
  | kind => LexemeRule v value next kind

/-- The kinds of the tokens that are words. -/
def TokenKind.IsWord (kind : TokenKind) : Prop :=
  kind = .keyword ∨ kind = .builtinFunction ∨ kind = .identifier

/-! ## What a scan reads -/

section Scans

variable (v : Vocabulary) {c : Char} (rest : Text)

theorem scan_comment :
    scan v '/' ('/' :: rest) =
      ⟨.comment, '/' :: '/' :: rest.takeWhile (· ≠ '\n'), rest.dropWhile (· ≠ '\n')⟩ := by
  simp [scan]

theorem scan_string :
    scan v '"' rest = ⟨.string, '"' :: (splitString rest).1, (splitString rest).2⟩ := by
  simp [scan]

theorem scan_number
    (hdigit : c.isDigit = true) :
    scan v c rest =
      ⟨.number, c :: rest.takeWhile isNumberPart, rest.dropWhile isNumberPart⟩ := by
  have hslash : c ≠ '/' := by
    rintro rfl
    cases hdigit
  have hquote : c ≠ '"' := by
    rintro rfl
    cases hdigit
  simp [scan, hslash, hquote, hdigit]

theorem scan_joined
    (hjoins : joinsEquals c = true) :
    scan v c ('=' :: rest) = ⟨.operator, [c, '='], rest⟩ := by
  have hmem : c ∈ ['=', '<', '>', '!'] := (joinsEquals_iff c).1 hjoins
  simp only [List.mem_cons, List.not_mem_nil, or_false] at hmem
  rcases hmem with rfl | rfl | rfl | rfl <;> rfl

theorem scan_operator
    (hop : isOperatorChar c = true)
    (hslash : ¬ (c = '/' ∧ rest.head? = some '/'))
    (hequals : ¬ (joinsEquals c = true ∧ rest.head? = some '=')) :
    scan v c rest = ⟨.operator, [c], rest⟩ := by
  obtain ⟨hquote, hdigit, -⟩ := operator_excludes hop
  simp [scan, hslash, hquote, hdigit, hop, hequals]

theorem scan_word
    (hletter : isWordStart c = true) :
    scan v c rest =
      ⟨v.classify (c :: rest.takeWhile isWordPart),
        c :: rest.takeWhile isWordPart, rest.dropWhile isWordPart⟩ := by
  have hop : isOperatorChar c = false := by
    by_contra hop
    have := (operator_excludes (Bool.not_eq_false _ ▸ hop)).2.2
    simp [hletter] at this
  have hslash : c ≠ '/' := by
    rintro rfl
    cases hletter
  have hquote : c ≠ '"' := by
    rintro rfl
    cases hletter
  simp [scan, hslash, hquote, not_digit_of_letter hletter, hop, hletter]

/-- The first characters of lexemes. -/
def BeginsLexeme (c : Char) : Prop :=
  c = '"' ∨ c.isDigit = true ∨ isOperatorChar c = true ∨ isWordStart c = true

theorem scan_text
    (hnone : ¬ BeginsLexeme c) :
    scan v c rest = ⟨.text, [c], rest⟩ := by
  simp only [BeginsLexeme, not_or, Bool.not_eq_true] at hnone
  obtain ⟨hquote, hdigit, hop, hletter⟩ := hnone
  have hslash : c ≠ '/' := by
    rintro rfl
    cases hop
  simp [scan, hslash, hquote, hdigit, hop, hletter]

end Scans

/-! ## Strings -/

theorem splitString_plain
    {c : Char}
    (hquote : c ≠ '"')
    (hbackslash : c ≠ '\\')
    (t : Text) :
    splitString (c :: t) = (c :: (splitString t).1, (splitString t).2) := by
  rw [splitString]
  · exact fun h => hquote h
  · exact fun h => absurd h hbackslash
  · exact fun _ _ h => absurd h hbackslash

/-- A closed string ends at its last quote, whatever follows. -/
theorem splitString_closed
    {body : Text}
    (hbody : Quotable body)
    (after : Text) :
    splitString (body ++ '"' :: after) = (body ++ ['"'], after) := by
  induction hbody with
  | nil => rfl
  | plain hquote hbackslash htail ih =>
      rw [List.cons_append, splitString_plain hquote hbackslash, ih]
      simp only [List.cons_append]
  | escaped c htail ih =>
      rw [List.cons_append, List.cons_append, splitString, ih]
      simp only [List.cons_append]

/-- A text without a quote of its own is read to its end. -/
theorem splitString_open
    {body : Text}
    (hbody : Quotable body) :
    splitString body = (body, []) := by
  induction hbody with
  | nil => rfl
  | plain hquote hbackslash htail ih =>
      rw [splitString_plain hquote hbackslash, ih]
  | escaped c htail ih =>
      rw [splitString, ih]

theorem splitString_dangling
    {body : Text}
    (hbody : Quotable body) :
    splitString (body ++ ['\\']) = (body ++ ['\\'], []) := by
  induction hbody with
  | nil => rfl
  | plain hquote hbackslash htail ih =>
      rw [List.cons_append, splitString_plain hquote hbackslash, ih]
  | escaped c htail ih =>
      rw [List.cons_append, List.cons_append, splitString, ih]

/-- Every text behind an opening quote closes the string or leaves it open. -/
theorem splitString_cases
    (t : Text) :
    (∃ body, Quotable body ∧ (splitString t).1 = body ++ ['"']) ∨
      ((∃ body, Quotable body ∧
          ((splitString t).1 = body ∨ (splitString t).1 = body ++ ['\\'])) ∧
        (splitString t).2 = []) := by
  fun_induction splitString t with
  | case1 => exact Or.inr ⟨⟨[], Quotable.nil, Or.inl rfl⟩, rfl⟩
  | case2 rest => exact Or.inl ⟨[], Quotable.nil, rfl⟩
  | case3 => exact Or.inr ⟨⟨[], Quotable.nil, Or.inr rfl⟩, rfl⟩
  | case4 c rest inner after hsplit ih =>
      rw [hsplit] at ih
      rcases ih with ⟨body, hbody, hinner⟩ | ⟨⟨body, hbody, hinner⟩, hafter⟩
      · exact Or.inl
          ⟨'\\' :: c :: body, hbody.escaped c, congrArg (fun t => '\\' :: c :: t) hinner⟩
      · refine Or.inr ⟨⟨'\\' :: c :: body, hbody.escaped c, ?_⟩, hafter⟩
        exact hinner.imp
          (congrArg fun t => '\\' :: c :: t) (congrArg fun t => '\\' :: c :: t)
  | case5 c rest hquote hend hbackslash inner after hsplit ih =>
      rw [hsplit] at ih
      have hplain : c ≠ '\\' := by
        rintro rfl
        cases rest with
        | nil => exact hend rfl rfl
        | cons d rest => exact hbackslash d rest rfl rfl
      rcases ih with ⟨body, hbody, hinner⟩ | ⟨⟨body, hbody, hinner⟩, hafter⟩
      · exact Or.inl
          ⟨c :: body, hbody.plain hquote hplain, congrArg (List.cons c) hinner⟩
      · refine Or.inr ⟨⟨c :: body, hbody.plain hquote hplain, ?_⟩, hafter⟩
        exact hinner.imp (congrArg (List.cons c)) (congrArg (List.cons c))

/-! ## A scan obeys the rules -/

theorem classify_cases
    (v : Vocabulary) (word : Text) :
    v.classify word = .keyword ∨ v.classify word = .builtinFunction ∨
      v.classify word = .identifier := by
  unfold Vocabulary.classify
  split
  · exact Or.inl rfl
  · split
    · exact Or.inr (Or.inl rfl)
    · exact Or.inr (Or.inr rfl)

/-- A whole word obeys the rule of its class. -/
theorem lexemeRule_classify
    (v : Vocabulary) {value : Text} {next : Option Char}
    (hword : IsWholeWord value next) :
    LexemeRule v value next (v.classify value) := by
  rcases classify_cases v value with hclass | hclass | hclass <;> rw [hclass]
  · exact ⟨hword, hclass⟩
  · exact ⟨hword, hclass⟩
  · exact ⟨hword, hclass⟩

/-- A lexeme obeys the rules for tokens. -/
theorem LexemeRule.token
    {v : Vocabulary} {value : Text} {next : Option Char} {kind : TokenKind}
    (h : LexemeRule v value next kind) :
    TokenRule v value next kind := by
  cases kind with
  | text => exact h.elim
  | _ => exact h

/-- The rule for a word asks for a whole word, whatever its class. -/
theorem TokenRule.isWholeWord
    {v : Vocabulary} {value : Text} {next : Option Char} {kind : TokenKind}
    (hrule : TokenRule v value next kind)
    (hkind : kind.IsWord) :
    IsWholeWord value next := by
  rcases hkind with rfl | rfl | rfl
  · exact hrule.1
  · exact hrule.1
  · exact hrule.1

/-- The rules leave plain text just the characters with which no lexeme begins. -/
theorem beginsLexeme_iff
    (v : Vocabulary) (c : Char) :
    BeginsLexeme c ↔ ∃ rest next kind, LexemeRule v (c :: rest) next kind := by
  constructor
  · rintro (rfl | hdigit | hop | hletter)
    · exact ⟨[], none, .string, Or.inr ⟨⟨[], Quotable.nil, Or.inl rfl⟩, rfl⟩⟩
    · refine ⟨[], none, .number, ⟨c, [], rfl, (isDigit_iff c).1 hdigit, ?_⟩, ?_⟩
      · simp
      · simp
    · exact ⟨[], none, .operator, Or.inr ⟨c, rfl, hop, by simp, by simp⟩⟩
    · have hword : IsWholeWord [c] none :=
        ⟨⟨c, [], rfl, (isWordStart_iff c).1 hletter, by simp⟩, by simp⟩
      exact ⟨[], none, v.classify [c], lexemeRule_classify v hword⟩
  · rintro ⟨rest, next, kind, hrule⟩
    have hword : IsWholeWord (c :: rest) next → BeginsLexeme c := by
      rintro ⟨⟨d, others, hvalue, hletter, -⟩, -⟩
      obtain ⟨rfl, -⟩ := List.cons.inj hvalue
      exact Or.inr (Or.inr (Or.inr ((isWordStart_iff c).2 hletter)))
    cases kind with
    | keyword => exact hword hrule.1
    | builtinFunction => exact hword hrule.1
    | identifier => exact hword hrule.1
    | string =>
        rcases hrule with ⟨body, -, hvalue⟩ | ⟨⟨body, -, hvalue | hvalue⟩, -⟩
        · exact Or.inl (List.cons.inj hvalue).1
        · exact Or.inl (List.cons.inj hvalue).1
        · exact Or.inl (List.cons.inj hvalue).1
    | comment =>
        obtain ⟨⟨body, hvalue⟩, -, -⟩ := hrule
        obtain ⟨rfl, -⟩ := List.cons.inj hvalue
        exact Or.inr (Or.inr (Or.inl rfl))
    | number =>
        obtain ⟨⟨d, others, hvalue, hdigit, -⟩, -⟩ := hrule
        obtain ⟨rfl, -⟩ := List.cons.inj hvalue
        exact Or.inr (Or.inl ((isDigit_iff c).2 hdigit))
    | operator =>
        rcases hrule with hmem | ⟨d, hvalue, hop, -, -⟩
        · have hjoins : isOperatorChar c = true := by
            simp only [List.mem_cons, List.cons.injEq, List.not_mem_nil, or_false] at hmem
            rcases hmem with ⟨rfl, -⟩ | ⟨rfl, -⟩ | ⟨rfl, -⟩ | ⟨rfl, -⟩ <;> rfl
          exact Or.inr (Or.inr (Or.inl hjoins))
        · obtain ⟨rfl, -⟩ := List.cons.inj hvalue
          exact Or.inr (Or.inr (Or.inl hop))
    | text => exact hrule.elim

/-- The longest run of a word is a whole word. -/
theorem isWholeWord_takeWhile
    {c : Char}
    (hletter : isWordStart c = true)
    (rest : Text) :
    IsWholeWord (c :: rest.takeWhile isWordPart) (rest.dropWhile isWordPart).head? := by
  obtain ⟨hrun, hnext⟩ := Text.longest_run isWordPart_iff rest
  exact ⟨⟨c, rest.takeWhile isWordPart, rfl, (isWordStart_iff c).1 hletter, hrun⟩, hnext⟩

/-- The shape of a reserved word is that of a whole word. -/
theorem isIdentifier_iff_wholeWord
    {word : Text} :
    isIdentifier word = true ↔ IsWholeWord word none := by
  cases word with
  | nil => simp [isIdentifier, IsWholeWord]
  | cons c rest =>
      simp only [isIdentifier, Bool.and_eq_true, List.all_eq_true]
      constructor
      · rintro ⟨hstart, hparts⟩
        refine ⟨⟨c, rest, rfl, (isWordStart_iff c).1 hstart, ?_⟩, by simp⟩
        intro d hd
        exact (isWordPart_iff d).1 (hparts d hd)
      · rintro ⟨⟨d, others, hword, hletter, hparts⟩, -⟩
        obtain ⟨rfl, rfl⟩ := List.cons.inj hword
        refine ⟨(isWordStart_iff c).2 hletter, ?_⟩
        intro d hd
        exact (isWordPart_iff d).2 (hparts d hd)

/-- What a scan reads obeys the rule of its kind in front of what it leaves. -/
theorem scan_rule
    (v : Vocabulary) (c : Char) (rest : Text) :
    TokenRule v (scan v c rest).value (scan v c rest).rest.head? (scan v c rest).kind := by
  by_cases hcomment : c = '/' ∧ rest.head? = some '/'
  · obtain ⟨rfl, hslash⟩ := hcomment
    obtain ⟨rest, rfl⟩ := List.head?_eq_some_iff.1 hslash
    rw [scan_comment]
    obtain ⟨hrun, hnext⟩ := Text.longest_run notBreak_iff rest
    refine ⟨⟨_, rfl⟩, ?_, ?_⟩
    · have hline : '\n' ∉ rest.takeWhile (· ≠ '\n') := fun hmem => hrun _ hmem rfl
      simpa using hline
    · cases hafter : (rest.dropWhile (· ≠ '\n')).head? with
      | none => exact Or.inl rfl
      | some d =>
          have hd : d = '\n' := not_not.1 (hnext d hafter)
          exact Or.inr (congrArg some hd)
  by_cases hquote : c = '"'
  · subst hquote
    rw [scan_string]
    rcases splitString_cases rest with ⟨body, hbody, hinner⟩ | ⟨⟨body, hbody, hinner⟩, hafter⟩
    · exact Or.inl ⟨body, hbody, congrArg (List.cons '"') hinner⟩
    · refine Or.inr ⟨⟨body, hbody, ?_⟩, ?_⟩
      · exact hinner.imp (congrArg (List.cons '"')) (congrArg (List.cons '"'))
      · exact congrArg List.head? hafter
  by_cases hdigit : c.isDigit = true
  · rw [scan_number v rest hdigit]
    obtain ⟨hrun, hnext⟩ := Text.longest_run isNumberPart_iff rest
    exact ⟨⟨c, _, rfl, (isDigit_iff c).1 hdigit, hrun⟩, hnext⟩
  by_cases hop : isOperatorChar c = true
  · by_cases hequals : joinsEquals c = true ∧ rest.head? = some '='
    · obtain ⟨hjoins, hequals⟩ := hequals
      obtain ⟨rest, rfl⟩ := List.head?_eq_some_iff.1 hequals
      rw [scan_joined v rest hjoins]
      refine Or.inl ?_
      have hmem := (joinsEquals_iff c).1 hjoins
      simp only [List.mem_cons, List.not_mem_nil, or_false] at hmem
      rcases hmem with rfl | rfl | rfl | rfl <;> simp
    · rw [scan_operator v rest hop hcomment hequals]
      rw [joinsEquals_iff] at hequals
      exact Or.inr ⟨c, rfl, hop, hcomment, hequals⟩
  by_cases hletter : isWordStart c = true
  · rw [scan_word v rest hletter]
    exact (lexemeRule_classify v (isWholeWord_takeWhile hletter rest)).token
  · have hnone : ¬ BeginsLexeme c := by
      simp [BeginsLexeme, hquote, hdigit, hop, hletter]
    rw [scan_text v rest hnone]
    refine ⟨c, rfl, ?_⟩
    intro others next kind hrule
    exact hnone ((beginsLexeme_iff v c).2 ⟨others, next, kind, hrule⟩)

/-! ## The rules fix the scan -/

theorem scan_eq_of_wholeWord
    (v : Vocabulary) {c : Char} {rest value after : Text}
    (hword : IsWholeWord value after.head?)
    (htext : value ++ after = c :: rest) :
    scan v c rest = ⟨v.classify value, value, after⟩ := by
  obtain ⟨⟨d, run, rfl, hletter, hrun⟩, hnext⟩ := hword
  rw [List.cons_append] at htext
  obtain ⟨rfl, rfl⟩ := List.cons.inj htext
  obtain ⟨htake, hdrop⟩ := Text.takeWhile_dropWhile_run isWordPart_iff hrun hnext
  rw [scan_word v _ ((isWordStart_iff d).2 hletter), htake, hdrop]

/-- Characters that obey a rule in front of a text are what a scan of both reads. -/
theorem scan_eq_of_rule
    {v : Vocabulary} {kind : TokenKind} {c : Char} {rest value after : Text}
    (hrule : TokenRule v value after.head? kind)
    (htext : value ++ after = c :: rest) :
    scan v c rest = ⟨kind, value, after⟩ := by
  cases kind with
  | keyword => rw [scan_eq_of_wholeWord v hrule.1 htext, hrule.2]
  | builtinFunction => rw [scan_eq_of_wholeWord v hrule.1 htext, hrule.2]
  | identifier => rw [scan_eq_of_wholeWord v hrule.1 htext, hrule.2]
  | comment =>
      obtain ⟨⟨body, rfl⟩, hline, hnext⟩ := hrule
      rw [List.cons_append, List.cons_append] at htext
      obtain ⟨rfl, rfl⟩ := List.cons.inj htext
      have hbody : ∀ d ∈ body, d ≠ '\n' := by
        rintro d hd rfl
        exact hline (List.mem_cons_of_mem _ (List.mem_cons_of_mem _ hd))
      have hbreak : ∀ d ∈ after.head?, ¬ d ≠ '\n' := by
        intro d hd
        rcases hnext with hnone | hsome
        · rw [hnone] at hd
          cases hd
        · rw [hsome] at hd
          cases hd
          exact not_not.2 rfl
      obtain ⟨htake, hdrop⟩ := Text.takeWhile_dropWhile_run notBreak_iff hbody hbreak
      rw [scan_comment, htake, hdrop]
  | string =>
      rcases hrule with ⟨body, hbody, rfl⟩ | ⟨⟨body, hbody, hvalue⟩, hnone⟩
      · rw [List.append_assoc, List.cons_append, List.singleton_append] at htext
        obtain ⟨rfl, rfl⟩ := List.cons.inj htext
        rw [scan_string, splitString_closed hbody, List.cons_append]
      · have hafter : after = [] := List.head?_eq_none_iff.1 hnone
        subst hafter
        rw [List.append_nil] at htext
        rcases hvalue with rfl | rfl
        · obtain ⟨rfl, rfl⟩ := List.cons.inj htext
          rw [scan_string, splitString_open hbody]
        · rw [List.cons_append] at htext
          obtain ⟨rfl, rfl⟩ := List.cons.inj htext
          rw [scan_string, splitString_dangling hbody, List.cons_append]
  | number =>
      obtain ⟨⟨d, run, rfl, hdigit, hrun⟩, hnext⟩ := hrule
      rw [List.cons_append] at htext
      obtain ⟨rfl, rfl⟩ := List.cons.inj htext
      obtain ⟨htake, hdrop⟩ := Text.takeWhile_dropWhile_run isNumberPart_iff hrun hnext
      rw [scan_number v _ ((isDigit_iff d).2 hdigit), htake, hdrop]
  | operator =>
      rcases hrule with hmem | ⟨d, rfl, hop, hslash, hequals⟩
      · simp only [List.mem_cons, List.not_mem_nil, or_false] at hmem
        rcases hmem with rfl | rfl | rfl | rfl <;>
          (obtain ⟨rfl, rfl⟩ := List.cons.inj htext
           exact scan_joined v after rfl)
      · obtain ⟨rfl, rfl⟩ := List.cons.inj htext
        rw [← joinsEquals_iff] at hequals
        exact scan_operator v after hop hslash hequals
  | text =>
      obtain ⟨d, rfl, hnone⟩ := hrule
      obtain ⟨rfl, rfl⟩ := List.cons.inj htext
      refine scan_text v after ?_
      intro hbegins
      obtain ⟨others, next, kind, hlexeme⟩ := (beginsLexeme_iff v d).1 hbegins
      exact hnone others next kind hlexeme

/-- No rule is obeyed by nothing. -/
theorem TokenRule.ne_nil
    {v : Vocabulary} {value : Text} {next : Option Char} {kind : TokenKind}
    (hrule : TokenRule v value next kind) :
    value ≠ [] := by
  rintro rfl
  cases kind with
  | keyword => obtain ⟨⟨⟨c, rest, hvalue, -⟩, -⟩, -⟩ := hrule; cases hvalue
  | builtinFunction => obtain ⟨⟨⟨c, rest, hvalue, -⟩, -⟩, -⟩ := hrule; cases hvalue
  | identifier => obtain ⟨⟨⟨c, rest, hvalue, -⟩, -⟩, -⟩ := hrule; cases hvalue
  | comment => obtain ⟨⟨body, hvalue⟩, -⟩ := hrule; cases hvalue
  | string =>
      rcases hrule with ⟨body, -, hvalue⟩ | ⟨⟨body, -, hvalue | hvalue⟩, -⟩ <;> cases hvalue
  | number => obtain ⟨⟨c, rest, hvalue, -⟩, -⟩ := hrule; cases hvalue
  | operator =>
      rcases hrule with hmem | ⟨c, hvalue, -⟩
      · simp at hmem
      · cases hvalue
  | text => obtain ⟨c, hvalue, -⟩ := hrule; cases hvalue

/-! ## Pieces of a source text -/

/-- Classified pieces of a source text that obey the rules, each in front of the next. -/
structure Grammatical (v : Vocabulary) (source : Text) (pieces : List (TokenKind × Text)) :
    Prop where
  joined : pieces.flatMap Prod.snd = source
  ruled :
    ∀ before kind value after,
      pieces = before ++ (kind, value) :: after →
      TokenRule v value (after.flatMap Prod.snd).head? kind

namespace Grammatical

variable {v : Vocabulary} {source : Text}

theorem head_rule
    {kind : TokenKind} {value : Text} {pieces : List (TokenKind × Text)}
    (h : Grammatical v source ((kind, value) :: pieces)) :
    TokenRule v value (pieces.flatMap Prod.snd).head? kind :=
  h.ruled [] kind value pieces rfl

theorem tail
    {piece : TokenKind × Text} {pieces : List (TokenKind × Text)}
    (h : Grammatical v source (piece :: pieces)) :
    Grammatical v (pieces.flatMap Prod.snd) pieces where
  joined := rfl
  ruled := by
    intro before kind value after hsplit
    exact h.ruled (piece :: before) kind value after (by rw [hsplit, List.cons_append])

/-- Pieces that obey the rules are those that are read. -/
theorem tokenizeFrom_eq
    {pieces : List (TokenKind × Text)}
    (h : Grammatical v source pieces)
    (offset : Nat) :
    (tokenizeFrom v offset source).map (fun token => (token.kind, token.value)) = pieces := by
  induction pieces generalizing source offset with
  | nil =>
      have hsource : source = [] := h.joined.symm
      rw [hsource, tokenizeFrom_nil, List.map_nil]
  | cons piece pieces ih =>
      obtain ⟨kind, value⟩ := piece
      have hrule := h.head_rule
      have hjoined : value ++ pieces.flatMap Prod.snd = source := h.joined
      cases source with
      | nil => exact absurd (List.append_eq_nil_iff.1 hjoined).1 hrule.ne_nil
      | cons c rest =>
          have hscan := scan_eq_of_rule hrule hjoined
          rw [tokenizeFrom_cons, List.map_cons, firstToken, hscan]
          rw [ih h.tail]

end Grammatical

/-- In a cover every token is in the relation with the values behind it. -/
theorem Covers.rel_of_split
    {R : Token → Text → Prop} {offset : Nat} {before after : List Token} {token : Token}
    {t : Text}
    (h : Covers R offset (before ++ token :: after) t) :
    R token (after.flatMap Token.value) := by
  induction before generalizing offset t with
  | nil =>
      cases h with
      | cons hne hspan hrel htail =>
          rw [htail.joined]
          exact hrel
  | cons first before ih =>
      cases h with
      | cons hne hspan hrel htail => exact ih htail

/-- The tokens of a text obey the rules. -/
theorem tokenizeFrom_covers_rule
    (v : Vocabulary) (offset : Nat) (t : Text) :
    Covers (fun token after => TokenRule v token.value after.head? token.kind)
      offset (tokenizeFrom v offset t) t :=
  tokenizeFrom_covers v (fun _ c rest => scan_rule v c rest) offset t

/-- A token among those of a source text obeys its rule in front of the values behind it. -/
theorem tokenize_split_rule
    {v : Vocabulary} {source : Text} {before after : List Token} {token : Token}
    (hsplit : tokenize v source = before ++ token :: after) :
    TokenRule v token.value (after.flatMap Token.value).head? token.kind := by
  have hcovers := tokenizeFrom_covers_rule v 0 source
  unfold tokenize at hsplit
  rw [hsplit] at hcovers
  exact hcovers.rel_of_split

theorem tokenize_pieces_grammatical
    (v : Vocabulary) (source : Text) :
    Grammatical v source ((tokenize v source).map fun token => (token.kind, token.value)) := by
  constructor
  · rw [List.flatMap_map]
    exact (tokenizeFrom_covers_rule v 0 source).joined
  · intro before kind value after hsplit
    obtain ⟨first, others, htokens, -, hothers⟩ := List.map_eq_append_iff.1 hsplit
    obtain ⟨token, last, rfl, hpiece, rfl⟩ := List.map_eq_cons_iff.1 hothers
    obtain ⟨rfl, rfl⟩ := Prod.mk.inj hpiece
    rw [List.flatMap_map]
    exact tokenize_split_rule htokens

/--
Every token of a source text obeys the rule of its kind in front of the character
that follows it, and no other pieces of the source do.
-/
theorem tokenize_grammatical
    (v : Vocabulary) (source : Text) :
    (∀ token ∈ tokenize v source,
      TokenRule v token.value (Text.charAt? source token.span.stop) token.kind) ∧
    ∀ pieces,
      Grammatical v source pieces ↔
        pieces = (tokenize v source).map fun token => (token.kind, token.value) := by
  constructor
  · intro token htoken
    have hcovers := tokenizeFrom_covers_rule v 0 source
    obtain ⟨before, after, hsource, hspan, -, hrule⟩ := hcovers.locate htoken
    have hnext : Text.charAt? source token.span.stop = after.head? := by
      rw [hspan, hsource, Nat.zero_add]
      simp only
      rw [← Text.size_append]
      exact Text.charAt?_size (before ++ token.value) after
    rw [hnext]
    exact hrule
  · intro pieces
    constructor
    · intro h
      exact (h.tokenizeFrom_eq 0).symm
    · rintro rfl
      exact tokenize_pieces_grammatical v source

end TeachingEditor
