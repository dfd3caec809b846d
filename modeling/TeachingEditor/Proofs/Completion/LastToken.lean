import TeachingEditor.Proofs.Completion.Cursor

/-!
# The word at a cursor and the last token before it

Two readers decide which word ends at a cursor.  The tokens are read forwards, and
what a character means depends on the token it stands in; the word at the cursor is
read backwards, without any state, and with dashes among its characters.

**Algorithm.**  Tokens are whole words and numbers, so parts of words hardly ever
meet between two tokens.  By the rules for tokens there is one exception, the
letters behind a number (`TokenRule.number_of_glued`, `Covers.glued`).  A number
begins with a digit, and no part of a word stands before it.  So a word without
dashes cannot reach back into a number (`Covers.no_word_at_number`), and not beyond
the token that it ends with (`Covers.word_eq_value`).

**Results.**  `wordAt_agrees_tokenize`: where the last token before a cursor is a
word, the word at the cursor ends with it.  Outside strings and comments, a word
without dashes at the cursor is exactly the last token.
-/

namespace TeachingEditor

/-! ## Characters of neighbouring tokens -/

theorem isWordPart_of_cursorWordPart
    {c : Char}
    (hpart : isCursorWordPart c = true)
    (hdash : c ≠ '-') :
    isWordPart c = true := by
  simpa [isCursorWordPart, hdash] using hpart

/--
A word without dashes that reaches back behind the last part of a text finds a part of
a word there.
-/
theorem reaches_back
    {lead init value : Text} {e : Char}
    (hsuffix : init ++ [e] ++ value <:+ lead ++ value)
    (hparts : ∀ c ∈ init ++ [e] ++ value, isCursorWordPart c = true)
    (hdash : '-' ∉ init ++ [e] ++ value) :
    ∃ far, isWordPart e = true ∧ lead = far ++ init ++ [e] := by
  obtain ⟨far, hfar⟩ := hsuffix
  rw [← List.append_assoc] at hfar
  have hlead := List.append_cancel_right hfar
  refine ⟨far, isWordPart_of_cursorWordPart (hparts e (by simp)) ?_, ?_⟩
  · rintro rfl
    exact hdash (by simp)
  · rw [← hlead, List.append_assoc]

theorem eq_of_getLast?
    {front value : Text} {c d : Char}
    (hvalue : front ++ [c] = value)
    (hlast : value.getLast? = some d) :
    c = d := by
  rw [← hvalue, List.getLast?_concat] at hlast
  exact Option.some.inj hlast

section Rules

variable {v : Vocabulary} {value : Text} {next : Option Char} {kind : TokenKind}

theorem IsWholeWord.isCursorWord
    (hword : IsWholeWord value next) :
    IsCursorWord value := by
  obtain ⟨⟨c, rest, hvalue, hletter, hrest⟩, -⟩ := hword
  refine ⟨c, rest, hvalue, hletter, ?_⟩
  intro d hd
  exact (hrest d hd).imp_right Or.inl

/-- An operator ends with an operator character. -/
theorem TokenRule.operator_last
    {front : Text} {c : Char}
    (hrule : TokenRule v (front ++ [c]) next .operator) :
    isOperatorChar c = true := by
  rcases hrule with hmem | ⟨d, hvalue, hop, -⟩
  · have hequals : c = '=' := by
      simp only [List.mem_cons, List.not_mem_nil, or_false] at hmem
      rcases hmem with hvalue | hvalue | hvalue | hvalue
      · exact eq_of_getLast? hvalue rfl
      · exact eq_of_getLast? hvalue rfl
      · exact eq_of_getLast? hvalue rfl
      · exact eq_of_getLast? hvalue rfl
    rw [hequals]
    rfl
  · rw [eq_of_getLast? hvalue rfl]
    exact hop

/-- Plain text ends with a character that begins no lexeme. -/
theorem TokenRule.text_last
    {front : Text} {c : Char}
    (hrule : TokenRule v (front ++ [c]) next .text) :
    ¬ BeginsLexeme c := by
  obtain ⟨d, hvalue, hnone⟩ := hrule
  rw [eq_of_getLast? hvalue rfl, beginsLexeme_iff v]
  rintro ⟨rest, next, kind, hlexeme⟩
  exact hnone rest next kind hlexeme

/-- Operators and plain text end outside every word. -/
theorem TokenRule.not_part_last
    {front : Text} {c : Char}
    (hrule : TokenRule v (front ++ [c]) next kind)
    (hkind : kind = .operator ∨ kind = .text) :
    isWordPart c = false := by
  have houtside : c.isDigit = false ∧ isWordStart c = false := by
    rcases hkind with rfl | rfl
    · exact (operator_excludes hrule.operator_last).2
    · have hnone := hrule.text_last
      simp only [BeginsLexeme, not_or, Bool.not_eq_true] at hnone
      exact ⟨hnone.2.1, hnone.2.2.2⟩
  rw [Bool.eq_false_iff, Ne, isWordPart_iff, ← isWordStart_iff, ← isDigit_iff]
  simp [houtside]

/--
A token that ends with a part of a word, in front of another such part, is a number
in front of letters.
-/
theorem TokenRule.number_of_glued
    {front : Text} {c d : Char}
    (hrule : TokenRule v (front ++ [c]) (some d) kind)
    (hc : isWordPart c = true)
    (hd : isWordPart d = true) :
    kind = .number ∧ IsLetter d := by
  have hclass := (isWordPart_iff d).1 hd
  have hword : ¬ kind.IsWord := by
    intro hkind
    exact (hrule.isWholeWord hkind).2 d rfl hclass
  have hother : ¬ (kind = .operator ∨ kind = .text) := by
    intro hkind
    rw [hrule.not_part_last hkind] at hc
    cases hc
  cases kind with
  | keyword => exact absurd (Or.inl rfl) hword
  | builtinFunction => exact absurd (Or.inr (Or.inl rfl)) hword
  | identifier => exact absurd (Or.inr (Or.inr rfl)) hword
  | operator => exact absurd (Or.inl rfl) hother
  | text => exact absurd (Or.inr rfl) hother
  | comment =>
      obtain ⟨-, -, hnone | hbreak⟩ := hrule
      · cases hnone
      · cases hbreak
        cases hd
  | string =>
      rcases hrule with ⟨body, -, hvalue⟩ | ⟨-, hnone⟩
      · obtain rfl := eq_of_getLast? hvalue List.getLast?_concat
        cases hc
      · cases hnone
  | number =>
      have hdigit : ¬ IsDigit d := fun hdigit => hrule.2 d rfl (Or.inl hdigit)
      exact ⟨rfl, hclass.resolve_right hdigit⟩

end Rules

/-! ## Words and tokens of a text -/

section Covers

variable {v : Vocabulary} {offset : Nat} {front rest : List Token} {token : Token} {t : Text}

/-- Tokens that obey the rules and make up a text. -/
abbrev RuleCovers (v : Vocabulary) (offset : Nat) (tokens : List Token) (t : Text) : Prop :=
  Covers (fun token after => TokenRule v token.value after.head? token.kind) offset tokens t

/--
Where parts of words meet between two tokens, the first of them is a number and the
second begins with a letter.
-/
theorem Covers.glued
    (h : RuleCovers v offset (front ++ token :: rest) t)
    {lead : Text} {c d : Char} {others : Text}
    (hlead : front.flatMap Token.value = lead ++ [c])
    (hvalue : token.value = d :: others)
    (hc : isWordPart c = true)
    (hd : isWordPart d = true) :
    (∃ first last, front = first ++ [last] ∧ last.kind = .number) ∧ IsLetter d := by
  rcases List.eq_nil_or_concat front with rfl | ⟨first, last, hfront⟩
  · simp at hlead
  · rw [List.concat_eq_append] at hfront
    subst hfront
    rw [List.append_assoc, List.singleton_append] at h
    have hrule := h.rel_of_split
    simp only [List.flatMap_cons, hvalue, List.cons_append, List.head?_cons] at hrule
    obtain ⟨before, e, hlast⟩ := List.eq_nil_or_concat last.value |>.resolve_left hrule.ne_nil
    rw [List.concat_eq_append] at hlast
    rw [List.flatMap_append, List.flatMap_singleton, hlast, ← List.append_assoc] at hlead
    obtain rfl := eq_of_getLast? hlead List.getLast?_concat
    rw [hlast] at hrule
    obtain ⟨hnumber, hletter⟩ := hrule.number_of_glued hc hd
    exact ⟨⟨first, last, rfl, hnumber⟩, hletter⟩

/-- No word without dashes ends where a number ends. -/
theorem Covers.no_word_at_number
    (h : RuleCovers v offset (front ++ token :: rest) t)
    (hnumber : token.kind = .number)
    {word : Text}
    (hsuffix : word <:+ front.flatMap Token.value ++ token.value)
    (hword : IsCursorWord word) :
    '-' ∈ word := by
  have hrule := h.rel_of_split
  rw [hnumber] at hrule
  obtain ⟨⟨d, others, hvalue, hdigit, hothers⟩, -⟩ := hrule
  have hparts := hword.parts
  obtain ⟨c, tail, rfl, hletter, -⟩ := hword
  have houtside : c ∉ token.value := by
    intro hc
    rw [hvalue] at hc
    rcases List.mem_cons.1 hc with rfl | hc
    · exact hletter.not_digit hdigit
    · rcases hothers c hc with hdigit | rfl
      · exact hletter.not_digit hdigit
      · exact absurd ((isWordStart_iff '.').2 hletter) (by decide)
  rcases List.suffix_or_suffix_of_suffix hsuffix (List.suffix_append _ token.value) with
    hinside | ⟨lead, hlead⟩
  · exact absurd (hinside.subset List.mem_cons_self) houtside
  · -- The word begins before the number, so it holds the character in front of it.
    by_contra hdash
    rcases List.eq_nil_or_concat lead with rfl | ⟨init, e, hconcat⟩
    · rw [List.nil_append] at hlead
      exact houtside (hlead ▸ List.mem_cons_self)
    · rw [List.concat_eq_append] at hconcat
      rw [← hlead, hconcat] at hsuffix hparts hdash
      obtain ⟨far, he, hbefore⟩ := reaches_back hsuffix hparts hdash
      have hd : isWordPart d = true := (isWordPart_iff d).2 (Or.inr hdigit)
      have hglued := h.glued hbefore hvalue he hd
      exact hglued.2.not_digit hdigit

/-- A word without dashes that ends with a word token is that token. -/
theorem Covers.word_eq_value
    (h : RuleCovers v offset (front ++ token :: rest) t)
    (hkind : token.kind.IsWord)
    {word : Text}
    (hsuffix : word <:+ front.flatMap Token.value ++ token.value)
    (hword : IsCursorWord word)
    (hvalue : token.value <:+ word)
    (hdash : '-' ∉ word) :
    token.value = word := by
  obtain ⟨lead, rfl⟩ := hvalue
  rcases List.eq_nil_or_concat lead with rfl | ⟨init, e, hconcat⟩
  · rw [List.nil_append]
  · -- What the word has before the token would be a word at the end of a number.
    exfalso
    rw [List.concat_eq_append] at hconcat
    subst hconcat
    have hrule : TokenRule v token.value (rest.flatMap Token.value).head? token.kind :=
      h.rel_of_split
    obtain ⟨⟨d, others, htoken, hletter, -⟩, -⟩ := hrule.isWholeWord hkind
    obtain ⟨far, he, hbefore⟩ := reaches_back hsuffix hword.parts hdash
    have hd : isWordPart d = true := (isWordPart_iff d).2 (Or.inl hletter)
    obtain ⟨⟨first, last, rfl, hnumber⟩, -⟩ := h.glued hbefore htoken he hd
    rw [List.append_assoc, List.singleton_append] at h
    rw [List.flatMap_append, List.flatMap_singleton, List.append_assoc] at hbefore
    have hshape : IsCursorWord (init ++ [e]) :=
      hword.of_prefix (List.prefix_append _ token.value) (by simp)
    have hmem := h.no_word_at_number hnumber ⟨far, hbefore.symm⟩ hshape
    exact hdash (List.mem_append_left token.value hmem)

/-- A word without dashes at the end of a text, by the kind of the token that ends there. -/
theorem Covers.isWord_of_word
    (h : RuleCovers v offset (front ++ [token]) t)
    (hquoted : token.kind ≠ .string ∧ token.kind ≠ .comment)
    {word : Text}
    (hsuffix : word <:+ front.flatMap Token.value ++ token.value)
    (hword : IsCursorWord word)
    (hdash : '-' ∉ word) :
    token.kind.IsWord := by
  have hrule := h.rel_of_split
  have hother : ¬ (token.kind = .operator ∨ token.kind = .text) := by
    -- The last character of such a token is the last one of the word.
    intro hkind
    obtain ⟨before, e, hvalue⟩ :=
      List.eq_nil_or_concat token.value |>.resolve_left hrule.ne_nil
    rw [List.concat_eq_append] at hvalue
    rw [hvalue] at hrule hsuffix
    have hmem : e ∈ word := by
      have hparts := hword.parts
      obtain ⟨c, tail, rfl, -, -⟩ := hword
      obtain ⟨far, hfar⟩ := hsuffix
      have hlast := congrArg List.getLast? hfar
      rw [← List.append_assoc, List.getLast?_concat] at hlast
      rw [List.getLast?_append_of_ne_nil far (List.cons_ne_nil c tail)] at hlast
      exact List.mem_of_getLast? hlast
    have he : isWordPart e = true := by
      refine isWordPart_of_cursorWordPart (hword.parts e hmem) ?_
      rintro rfl
      exact hdash hmem
    rw [hrule.not_part_last hkind] at he
    cases he
  cases hkind : token.kind with
  | keyword => exact Or.inl rfl
  | builtinFunction => exact Or.inr (Or.inl rfl)
  | identifier => exact Or.inr (Or.inr rfl)
  | string => exact absurd hkind hquoted.1
  | comment => exact absurd hkind hquoted.2
  | number => exact absurd (h.no_word_at_number hkind hsuffix hword) hdash
  | operator => exact absurd (Or.inl hkind) hother
  | text => exact absurd (Or.inr hkind) hother

end Covers

/-! ## The two readers -/

section Readers

variable {v : Vocabulary} {before : Text} {token : Token}

/-- The tokens before the last one, and where the last one stands. -/
theorem tokenize_getLast?
    (hlast : token ∈ (tokenize v before).getLast?) :
    ∃ front,
      RuleCovers v 0 (front ++ [token]) before ∧
      before = front.flatMap Token.value ++ token.value ∧
      token.span = ⟨Text.size (front.flatMap Token.value), Text.size before⟩ := by
  have hcovers : RuleCovers v 0 (tokenize v before) before := tokenizeFrom_covers_rule v 0 before
  have hstop := hcovers.last_stop token hlast
  obtain ⟨front, htokens⟩ := List.getLast?_eq_some_iff.1 hlast
  rw [htokens] at hcovers
  have hjoined := hcovers.joined
  rw [List.flatMap_append, List.flatMap_singleton] at hjoined
  have hmem : token ∈ front ++ [token] := by simp
  obtain ⟨lead, behind, -, hspan, -, -⟩ := hcovers.locate hmem
  refine ⟨front, hcovers, hjoined.symm, ?_⟩
  rw [hspan] at hstop ⊢
  have hsize := congrArg Text.size hjoined
  rw [Text.size_append] at hsize
  simp only at hstop
  rw [Span.mk.injEq]
  omega

/-- A word token at the end of a text is the end of the word found there. -/
theorem last_value_suffix
    (hlast : token ∈ (tokenize v before).getLast?)
    (hkind : token.kind.IsWord) :
    token.value <:+ trailingWord before := by
  obtain ⟨front, hcovers, hsplit, -⟩ := tokenize_getLast? hlast
  have hwhole := hcovers.rel_of_split.isWholeWord hkind
  exact suffix_trailingWord ⟨_, hsplit.symm⟩ hwhole.isCursorWord

theorem trailingWord_ne_nil
    (hlast : token ∈ (tokenize v before).getLast?)
    (hkind : token.kind.IsWord) :
    trailingWord before ≠ [] := by
  obtain ⟨front, hcovers, -, -⟩ := tokenize_getLast? hlast
  have hsuffix := last_value_suffix hlast hkind
  intro hnil
  rw [hnil, List.suffix_nil] at hsuffix
  exact hcovers.rel_of_split.ne_nil hsuffix

theorem exists_last_of_trailingWord
    (v : Vocabulary)
    (hne : trailingWord before ≠ []) :
    ∃ token, token ∈ (tokenize v before).getLast? := by
  have htokens : tokenize v before ≠ [] := by
    rw [Ne, tokenize, (tokenizeFrom_covers_rule v 0 before).eq_nil_iff]
    rintro rfl
    exact hne rfl
  exact ⟨_, List.getLast?_eq_some_getLast htokens⟩

/-- The word at the end of a text, if it holds no dash, is its last token. -/
theorem last_eq_trailingWord
    (hlast : token ∈ (tokenize v before).getLast?)
    (hkind : token.kind.IsWord)
    (hdash : '-' ∉ trailingWord before) :
    token.value = trailingWord before ∧
      token.span = ⟨Text.size before - Text.size (trailingWord before), Text.size before⟩ := by
  obtain ⟨front, hcovers, hsplit, hspan⟩ := tokenize_getLast? hlast
  have hword := isCursorWord_trailingWord (trailingWord_ne_nil hlast hkind)
  have hsuffix := trailingWord_suffix before
  have hvalue : token.value = trailingWord before :=
    hcovers.word_eq_value hkind (hsplit ▸ hsuffix) hword (last_value_suffix hlast hkind) hdash
  refine ⟨hvalue, ?_⟩
  have hsize := congrArg Text.size hsplit
  rw [Text.size_append, hvalue] at hsize
  rw [hspan, Span.mk.injEq]
  omega

end Readers

/--
The tokens before an accepted cursor and the word at it.  A word token that ends at
the cursor is the end of the word at the cursor.  If the cursor is in no string and
no comment and the word holds no dash, there is a word exactly where the last token
is one, and the two are the same characters at the same place.
-/
theorem wordAt_agrees_tokenize
    (v : Vocabulary) {t : Text} {cursor : Nat} {w : CursorWord}
    (haccepted : wordAt t cursor = .ok w) :
    ∃ before after,
      t = before ++ after ∧
      cursor = Text.size before ∧
      (∀ token ∈ (tokenize v before).getLast?, token.kind.IsWord → token.value <:+ w.word) ∧
      ((∀ token ∈ (tokenize v before).getLast?,
          token.kind ≠ .string ∧ token.kind ≠ .comment) →
        '-' ∉ w.word →
        (w.word ≠ [] ↔ ∃ token ∈ (tokenize v before).getLast?, token.kind.IsWord) ∧
        ∀ token ∈ (tokenize v before).getLast?,
          token.kind.IsWord → token.value = w.word ∧ token.span = w.span) := by
  obtain ⟨lead, after, htext, hstart, hcursor, hword⟩ := wordAt_eq_ok haccepted
  have hsize : Text.size (lead ++ w.word) = w.start + Text.size w.word := by
    rw [Text.size_append, hstart]
  refine ⟨lead ++ w.word, after, htext, by rw [hcursor, Text.size_append], ?_, ?_⟩
  · intro token hlast hkind
    rw [hword]
    exact last_value_suffix hlast hkind
  intro hquoted hdash
  rw [hword] at hdash
  refine ⟨⟨?_, ?_⟩, ?_⟩
  · intro hne
    rw [hword] at hne
    obtain ⟨token, hlast⟩ := exists_last_of_trailingWord v hne
    obtain ⟨front, hcovers, hsplit, -⟩ := tokenize_getLast? hlast
    have hsuffix := trailingWord_suffix (lead ++ w.word)
    rw [hsplit] at hsuffix
    exact ⟨token, hlast, hcovers.isWord_of_word (hquoted token hlast) (hsplit ▸ hsuffix)
      (isCursorWord_trailingWord hne) hdash⟩
  · rintro ⟨token, hlast, hkind⟩
    rw [hword]
    exact trailingWord_ne_nil hlast hkind
  · intro token hlast hkind
    obtain ⟨hvalue, hspan⟩ := last_eq_trailingWord hlast hkind hdash
    rw [← hword] at hvalue hspan
    refine ⟨hvalue, ?_⟩
    rw [hspan, hsize, Nat.add_sub_cancel, CursorWord.span]

/-- Letters glued to a number, in front of a character of two bytes. -/
theorem wordAt_agrees_behind_number :
    wordAt "1.2ab_9é".toList 7 = .ok ⟨3, "ab_9".toList⟩ ∧
      ∃ token ∈ (tokenize (.ofLists ["ab_9".toList] []) "1.2ab_9".toList).getLast?,
        token.kind.IsWord ∧ token.value = "ab_9".toList ∧ token.span = ⟨3, 7⟩ := by
  have haccepted : wordAt "1.2ab_9é".toList 7 = .ok ⟨3, "ab_9".toList⟩ := by decide
  have htokens :
      tokenize (.ofLists ["ab_9".toList] []) "1.2ab_9".toList =
        [⟨.number, "1.2".toList, ⟨0, 3⟩⟩, ⟨.keyword, "ab_9".toList, ⟨3, 7⟩⟩] := by cbv
  obtain ⟨before, after, htext, hcursor, -, hagree⟩ :=
    wordAt_agrees_tokenize (.ofLists ["ab_9".toList] []) haccepted
  have hcut : Text.cut? "1.2ab_9é".toList 7 = some ("1.2ab_9".toList, ['é']) := by decide
  obtain ⟨rfl, -⟩ := parts_of_cut? htext hcursor hcut
  obtain ⟨hiff, hplace⟩ := hagree (by rw [htokens]; simp) (by decide)
  obtain ⟨token, hlast, hkind⟩ := hiff.1 (by decide)
  exact ⟨haccepted, token, hlast, hkind, hplace token hlast hkind⟩

end TeachingEditor
