import TeachingEditor.Proofs.Language.Grammar

/-!
# A vocabulary only names words

The reserved words of the language are data, and a site may have other ones.  This
module says what changes in the tokens of a source text when they are exchanged.

**Algorithm.**  A rule for tokens asks the vocabulary what kind a word is, and nothing
else.  So characters that obey a rule with one vocabulary obey one with every other, of
the kind that the other has for them (`TokenRule.inVocabulary`).  Since the rules fix the
scan, a scan with another vocabulary reads the same characters and leaves the same text
(`scan_eq_inVocabulary`), and the tokens of a text follow by induction on its scans
(`tokenizeFrom_eq_map`).

A word that stands by itself is found among the tokens by its place: the place is between
two tokens, and then the next one is the word, or it is inside of a token, and of those
only strings and comments have a letter behind a character of no word
(`TokenRule.inside`).

**Results.**
* `Vocabulary.classify_ne_iff`: the words for which two vocabularies have different kinds.
* `TokenRule.kind_unique`: characters have one kind, whatever stands behind them.
* `tokenize_names_words`: vocabularies change nothing but the kinds of words, and those
  only as far as they say different things of the word; a word has one kind at all its
  places; and only words with the shape of an identifier count.
-/

namespace TeachingEditor

/-! ## Two vocabularies -/

namespace Vocabulary

/--
Two vocabularies say different things of a word: only one has it among its keywords, or
neither has, and only one has it among its builtin functions.
-/
def DiffersOn (v w : Vocabulary) (word : Text) : Prop :=
  ¬ (word ∈ v.keywords ↔ word ∈ w.keywords) ∨
    (word ∉ v.keywords ∧ word ∉ w.keywords ∧ ¬ (word ∈ v.builtins ↔ word ∈ w.builtins))

theorem classify_ne_iff
    {v w : Vocabulary} {word : Text} :
    v.classify word ≠ w.classify word ↔ v.DiffersOn w word := by
  unfold classify DiffersOn
  by_cases hv : word ∈ v.keywords
  · by_cases hw : word ∈ w.keywords
    · simp [hv, hw]
    · by_cases hbuiltin : word ∈ w.builtins <;> simp [hv, hw, hbuiltin]
  · by_cases hw : word ∈ w.keywords
    · by_cases hbuiltin : word ∈ v.builtins <;> simp [hv, hw, hbuiltin]
    · by_cases hbuiltin : word ∈ v.builtins <;>
        by_cases hother : word ∈ w.builtins <;> simp [hv, hw, hbuiltin, hother]

/-- Two vocabularies have the same words, but for those that are no identifiers. -/
def AgreesOnIdentifiers (v w : Vocabulary) : Prop :=
  ∀ word, isIdentifier word = true →
    (word ∈ v.keywords ↔ word ∈ w.keywords) ∧ (word ∈ v.builtins ↔ word ∈ w.builtins)

theorem AgreesOnIdentifiers.classify_eq
    {v w : Vocabulary} {word : Text}
    (hagree : v.AgreesOnIdentifiers w)
    (hword : isIdentifier word = true) :
    v.classify word = w.classify word := by
  obtain ⟨hkeywords, hbuiltins⟩ := hagree word hword
  by_contra hne
  rcases classify_ne_iff.1 hne with hdiffer | ⟨-, -, hdiffer⟩
  · exact hdiffer hkeywords
  · exact hdiffer hbuiltins

/-- The kind that a vocabulary has for characters that are of a kind with another one. -/
def kindOf (w : Vocabulary) : TokenKind → Text → TokenKind
  | .keyword, value => w.classify value
  | .builtinFunction, value => w.classify value
  | .identifier, value => w.classify value
  | kind, _ => kind

theorem kindOf_of_isWord
    (w : Vocabulary) {kind : TokenKind}
    (hkind : kind.IsWord)
    (value : Text) :
    w.kindOf kind value = w.classify value := by
  rcases hkind with rfl | rfl | rfl
  · rfl
  · rfl
  · rfl

theorem kindOf_of_not_isWord
    (w : Vocabulary) {kind : TokenKind}
    (hkind : ¬ kind.IsWord)
    (value : Text) :
    w.kindOf kind value = kind := by
  cases kind with
  | keyword => exact absurd (Or.inl rfl) hkind
  | builtinFunction => exact absurd (Or.inr (Or.inl rfl)) hkind
  | identifier => exact absurd (Or.inr (Or.inr rfl)) hkind
  | _ => rfl

theorem isWord_classify
    (w : Vocabulary) (word : Text) :
    (w.classify word).IsWord :=
  classify_cases w word

end Vocabulary

/-- A token as another vocabulary has it. -/
def Token.inVocabulary (w : Vocabulary) (t : Token) : Token :=
  { t with kind := w.kindOf t.kind t.value }

/-! ## One token -/

section Rules

variable {v : Vocabulary} {value : Text} {next : Option Char} {kind : TokenKind}

theorem TokenRule.kind_of_isWord
    (hrule : TokenRule v value next kind)
    (hkind : kind.IsWord) :
    kind = v.classify value := by
  rcases hkind with rfl | rfl | rfl
  · exact hrule.2.symm
  · exact hrule.2.symm
  · exact hrule.2.symm

/-- Characters that obey a rule obey one with every vocabulary. -/
theorem TokenRule.inVocabulary
    (hrule : TokenRule v value next kind)
    (w : Vocabulary) :
    TokenRule w value next (w.kindOf kind value) := by
  cases kind with
  | keyword => exact (lexemeRule_classify w hrule.1).token
  | builtinFunction => exact (lexemeRule_classify w hrule.1).token
  | identifier => exact (lexemeRule_classify w hrule.1).token
  | text =>
      obtain ⟨c, hvalue, hnone⟩ := hrule
      refine ⟨c, hvalue, ?_⟩
      intro rest next kind hlexeme
      have hbegins : BeginsLexeme c := (beginsLexeme_iff w c).2 ⟨rest, next, kind, hlexeme⟩
      obtain ⟨rest', next', kind', hlexeme'⟩ := (beginsLexeme_iff v c).1 hbegins
      exact hnone rest' next' kind' hlexeme'
  | comment => exact hrule
  | string => exact hrule
  | number => exact hrule
  | operator => exact hrule

/-- A rule asks of the next character that it is not one more of the token, so none will do. -/
theorem TokenRule.at_end
    (hrule : TokenRule v value next kind) :
    TokenRule v value none kind := by
  cases kind with
  | keyword => exact ⟨⟨hrule.1.1, by simp⟩, hrule.2⟩
  | builtinFunction => exact ⟨⟨hrule.1.1, by simp⟩, hrule.2⟩
  | identifier => exact ⟨⟨hrule.1.1, by simp⟩, hrule.2⟩
  | comment => exact ⟨hrule.1, hrule.2.1, Or.inl rfl⟩
  | string => exact hrule.imp_right fun hopen => ⟨hopen.1, rfl⟩
  | number => exact ⟨hrule.1, by simp⟩
  | operator =>
      rcases hrule with hjoined | ⟨c, hvalue, hop, -, -⟩
      · exact Or.inl hjoined
      · exact Or.inr ⟨c, hvalue, hop, by simp, by simp⟩
  | text => exact hrule

/-- Characters that obey rules have one kind, in front of whatever they stand. -/
theorem TokenRule.kind_unique
    {next' : Option Char} {kind' : TokenKind}
    (hrule : TokenRule v value next kind)
    (hrule' : TokenRule v value next' kind') :
    kind = kind' := by
  obtain ⟨c, rest, rfl⟩ := List.exists_cons_of_ne_nil hrule.ne_nil
  have hscan : scan v c rest = ⟨kind, c :: rest, []⟩ :=
    scan_eq_of_rule hrule.at_end (List.append_nil (c :: rest))
  have hscan' : scan v c rest = ⟨kind', c :: rest, []⟩ :=
    scan_eq_of_rule hrule'.at_end (List.append_nil (c :: rest))
  exact congrArg Lexeme.kind (hscan.symm.trans hscan')

/--
A place inside of a token, between a character of no word and a letter, is one in a
string or a comment.
-/
theorem TokenRule.inside
    {front back : Text} {c d : Char}
    (hrule : TokenRule v (front ++ [c] ++ d :: back) next kind)
    (hc : ¬ (IsLetter c ∨ IsDigit c))
    (hd : IsLetter d) :
    kind = .string ∨ kind = .comment := by
  have hword : ¬ kind.IsWord := by
    intro hkind
    obtain ⟨⟨e, rest, hvalue, hletter, hrest⟩, -⟩ := hrule.isWholeWord hkind
    have hmem : c ∈ e :: rest := by
      rw [← hvalue]
      simp
    rcases List.mem_cons.1 hmem with rfl | hmem
    · exact hc (Or.inl hletter)
    · exact hc (hrest c hmem)
  have hsecond : ∀ e rest, front ++ [c] ++ d :: back = e :: rest → d ∈ rest := by
    intro e rest hvalue
    cases front with
    | nil =>
        obtain ⟨-, rfl⟩ := List.cons.inj hvalue
        exact List.mem_cons_self
    | cons e' front =>
        obtain ⟨-, rfl⟩ := List.cons.inj hvalue
        simp
  cases kind with
  | keyword => exact absurd (Or.inl rfl) hword
  | builtinFunction => exact absurd (Or.inr (Or.inl rfl)) hword
  | identifier => exact absurd (Or.inr (Or.inr rfl)) hword
  | string => exact Or.inl rfl
  | comment => exact Or.inr rfl
  | number =>
      obtain ⟨⟨e, rest, hvalue, -, hrest⟩, -⟩ := hrule
      rcases hrest d (hsecond e rest hvalue) with hdigit | rfl
      · exact absurd hdigit hd.not_digit
      · exact absurd ((isWordStart_iff '.').2 hd) (by decide)
  | operator =>
      rcases hrule with hjoined | ⟨e, hvalue, -⟩
      · simp only [List.mem_cons, List.not_mem_nil, or_false] at hjoined
        have hequals : d = '=' := by
          rcases hjoined with hvalue | hvalue | hvalue | hvalue <;>
            exact List.mem_singleton.1 (hsecond _ _ hvalue)
        rw [hequals] at hd
        exact absurd ((isWordStart_iff '=').2 hd) (by decide)
      · exact absurd (hsecond e [] hvalue) List.not_mem_nil
  | text =>
      obtain ⟨e, hvalue, -⟩ := hrule
      exact absurd (hsecond e [] hvalue) List.not_mem_nil

end Rules

/-! ## All tokens -/

section Tokens

variable (v w : Vocabulary)

/-- A scan with another vocabulary reads the same characters. -/
theorem scan_eq_inVocabulary
    (c : Char) (rest : Text) :
    scan w c rest =
      ⟨w.kindOf (scan v c rest).kind (scan v c rest).value, (scan v c rest).value,
        (scan v c rest).rest⟩ :=
  scan_eq_of_rule ((scan_rule v c rest).inVocabulary w) (scan_append v c rest)

theorem tokenizeFrom_eq_map
    (offset : Nat) (t : Text) :
    tokenizeFrom w offset t = (tokenizeFrom v offset t).map (Token.inVocabulary w) := by
  induction offset, t using tokenizeFrom.induct v with
  | case1 offset => simp
  | case2 offset c rest lexeme stop ih =>
      have hfirst : firstToken w offset c rest = (firstToken v offset c rest).inVocabulary w := by
        simp only [firstToken, scan_eq_inVocabulary v w, Token.inVocabulary]
      have hrest : (scan w c rest).rest = lexeme.rest := by
        rw [scan_eq_inVocabulary v w]
      rw [tokenizeFrom_cons, tokenizeFrom_cons, List.map_cons, hfirst, hrest]
      exact congrArg (List.cons _) ih

variable {v}

/-- Every token of a source text obeys a rule. -/
theorem exists_rule_of_mem_tokenize
    {source : Text} {token : Token}
    (hmem : token ∈ tokenize v source) :
    ∃ next, TokenRule v token.value next token.kind := by
  obtain ⟨before, after, hsplit⟩ := List.append_of_mem hmem
  exact ⟨_, tokenize_split_rule hsplit⟩

/-- Tokens at the same place with two vocabularies. -/
structure SameButForKind (v w : Vocabulary) (a b : Token) : Prop where
  value_eq : a.value = b.value
  span_eq : a.span = b.span
  kind_eq : ¬ (a.kind.IsWord ∧ b.kind.IsWord) → a.kind = b.kind
  kind_ne_iff : a.kind.IsWord → b.kind.IsWord → (a.kind ≠ b.kind ↔ v.DiffersOn w a.value)

theorem sameButForKind_inVocabulary
    {next : Option Char} {token : Token}
    (hrule : TokenRule v token.value next token.kind) :
    SameButForKind v w token (token.inVocabulary w) where
  value_eq := rfl
  span_eq := rfl
  kind_eq := by
    intro hnot
    have hkind : ¬ token.kind.IsWord := by
      intro hkind
      refine hnot ⟨hkind, ?_⟩
      rw [Token.inVocabulary, w.kindOf_of_isWord hkind]
      exact w.isWord_classify token.value
    exact (w.kindOf_of_not_isWord hkind token.value).symm
  kind_ne_iff := by
    intro hkind _
    rw [← Vocabulary.classify_ne_iff, ← hrule.kind_of_isWord hkind]
    rw [Token.inVocabulary, w.kindOf_of_isWord hkind]

/-- Vocabularies that differ in no identifier give the same tokens. -/
theorem tokenize_eq_of_agrees
    {w : Vocabulary}
    (hagree : v.AgreesOnIdentifiers w)
    (source : Text) :
    tokenize v source = tokenize w source := by
  have hsame : ∀ token ∈ tokenize v source, token.inVocabulary w = token := by
    intro token hmem
    obtain ⟨next, hrule⟩ := exists_rule_of_mem_tokenize hmem
    by_cases hkind : token.kind.IsWord
    · have hidentifier : isIdentifier token.value = true :=
        isIdentifier_iff_wholeWord.2 (hrule.at_end.isWholeWord hkind)
      rw [Token.inVocabulary, w.kindOf_of_isWord hkind, ← hagree.classify_eq hidentifier]
      rw [← hrule.kind_of_isWord hkind]
    · rw [Token.inVocabulary, w.kindOf_of_not_isWord hkind]
  unfold tokenize at hsame ⊢
  rw [tokenizeFrom_eq_map v w, List.map_congr_left hsame, List.map_id']

end Tokens

/-! ## The places of a word -/

/-- A word between characters that belong to no word. -/
structure StandsAlone (before word after : Text) : Prop where
  whole : IsWholeWord word after.head?
  start : ∀ c ∈ before.getLast?, ¬ (IsLetter c ∨ IsDigit c)

/-- A place in a text is between two tokens of a cover or inside of one. -/
theorem Covers.split_at
    {R : Token → Text → Prop} {offset : Nat} {tokens : List Token} {t before rest : Text}
    (h : Covers R offset tokens t)
    (ht : t = before ++ rest) :
    (∃ front back, tokens = front ++ back ∧ Covers R (offset + Text.size before) back rest) ∨
      ∃ token ∈ tokens, ∃ x y behind after,
        x ≠ [] ∧ y ≠ [] ∧ token.value = x ++ y ∧ x <:+ before ∧ rest = y ++ behind ∧
        R token after ∧
        token.span.start < offset + Text.size before ∧
        offset + Text.size before < token.span.stop := by
  -- The tokens in front of the place are taken off one by one.
  induction h generalizing before with
  | nil offset =>
      obtain ⟨rfl, rfl⟩ := List.append_eq_nil_iff.1 ht.symm
      exact Or.inl ⟨[], [], rfl, Covers.nil offset⟩
  | @cons offset token tokens after hne hspan hrel htail ih =>
      rcases List.append_eq_append_iff.1 ht with ⟨more, rfl, hafter⟩ | ⟨y, hvalue, rfl⟩
      · have hplace :
            token.span.stop + Text.size more = offset + Text.size (token.value ++ more) := by
          rw [hspan, Text.size_append, Nat.add_assoc]
        rcases ih hafter with ⟨front, back, rfl, hback⟩ | hinside
        · rw [hplace] at hback
          exact Or.inl ⟨token :: front, back, rfl, hback⟩
        · obtain ⟨other, hmem, x, y, behind, last, hx, hy, hparts, hsuffix, hrest, hother,
            hstart, hstop⟩ := hinside
          rw [hplace] at hstart hstop
          exact Or.inr ⟨other, List.mem_cons_of_mem token hmem, x, y, behind, last, hx, hy,
            hparts, hsuffix.trans (List.suffix_append token.value more), hrest, hother,
            hstart, hstop⟩
      · by_cases hx : before = []
        · subst hx
          rw [List.nil_append] at hvalue
          rw [← hvalue]
          exact Or.inl ⟨[], token :: tokens, rfl, Covers.cons hne hspan hrel htail⟩
        by_cases hy : y = []
        · subst hy
          rw [List.append_nil] at hvalue
          rw [hspan, hvalue] at htail
          exact Or.inl ⟨[token], tokens, rfl, htail⟩
        · have hbefore : Text.size before ≠ 0 := mt Text.size_eq_zero_iff.1 hx
          have hbehind : Text.size y ≠ 0 := mt Text.size_eq_zero_iff.1 hy
          refine Or.inr ⟨token, List.mem_cons_self, before, y, after, after, hx, hy, hvalue,
            List.suffix_refl before, rfl, hrel, ?_, ?_⟩
          · rw [hspan]
            simp only
            omega
          · rw [hspan, hvalue, Text.size_append]
            simp only
            omega

/-- The token that a word at the beginning of a text is read as. -/
theorem tokenOf_wholeWord
    {v : Vocabulary} {offset : Nat} {tokens : List Token} {word after : Text}
    (h : Covers (fun token after => TokenRule v token.value after.head? token.kind)
      offset tokens (word ++ after))
    (hword : IsWholeWord word after.head?) :
    ⟨v.classify word, word, ⟨offset, offset + Text.size word⟩⟩ ∈ tokens := by
  obtain ⟨c, rest, rfl⟩ : ∃ c rest, word = c :: rest := by
    obtain ⟨⟨c, rest, hvalue, -⟩, -⟩ := hword
    exact ⟨c, rest, hvalue⟩
  generalize htext : (c :: rest) ++ after = t at h
  cases h with
  | nil => cases htext
  | @cons _ token tokens behind hne hspan hrule htail =>
      have hscan : scan v c (rest ++ after) = ⟨token.kind, token.value, behind⟩ :=
        scan_eq_of_rule hrule htext.symm
      have hwhole : scan v c (rest ++ after) = ⟨v.classify (c :: rest), c :: rest, after⟩ :=
        scan_eq_of_wholeWord v hword rfl
      obtain ⟨hkind, hvalue, -⟩ := Lexeme.mk.inj (hwhole.symm.trans hscan)
      rw [hkind, hvalue, ← hspan]
      exact List.mem_cons_self

/-- A word that stands by itself is a token of its own kind or stands in a string or comment. -/
theorem StandsAlone.token
    {before word after : Text}
    (h : StandsAlone before word after)
    (v : Vocabulary) :
    ⟨v.classify word, word, ⟨Text.size before, Text.size before + Text.size word⟩⟩ ∈
        tokenize v (before ++ word ++ after) ∨
      ∃ token ∈ tokenize v (before ++ word ++ after),
        (token.kind = .string ∨ token.kind = .comment) ∧
        token.span.start < Text.size before ∧ Text.size before < token.span.stop := by
  have hcovers := tokenizeFrom_covers_rule v 0 (before ++ word ++ after)
  rcases hcovers.split_at (List.append_assoc before word after) with
    ⟨front, back, htokens, hback⟩ | hinside
  · rw [Nat.zero_add] at hback
    refine Or.inl ?_
    rw [tokenize, htokens]
    exact List.mem_append_right front (tokenOf_wholeWord hback h.whole)
  · obtain ⟨token, hmem, x, y, behind, last, hx, hy, hvalue, hsuffix, hrest, hrule,
      hstart, hstop⟩ := hinside
    rw [Nat.zero_add] at hstart hstop
    refine Or.inr ⟨token, hmem, ?_, hstart, hstop⟩
    obtain ⟨⟨d, others, hword, hletter, -⟩, -⟩ := h.whole
    obtain ⟨e, back, rfl⟩ := List.exists_cons_of_ne_nil hy
    rw [hword, List.cons_append, List.cons_append] at hrest
    obtain ⟨rfl, -⟩ := List.cons.inj hrest
    obtain ⟨front, c, hconcat⟩ := List.eq_nil_or_concat x |>.resolve_left hx
    rw [List.concat_eq_append] at hconcat
    rw [hvalue, hconcat] at hrule
    refine hrule.inside (h.start c ?_) hletter
    obtain ⟨lead, rfl⟩ := hsuffix
    rw [hconcat, ← List.append_assoc]
    exact List.getLast?_concat

/--
With any two vocabularies the tokens of a source have the same characters at the same
places.  Their kinds are the same, but for words of which the vocabularies say different
things.  In one source equal tokens are of one kind.  A word that stands by itself is a
token of its own kind, unless a string or a comment reaches over its beginning.  What a
vocabulary says of texts that are no identifiers is never asked.
-/
theorem tokenize_names_words
    (source : Text) :
    (∀ v w : Vocabulary,
      List.Forall₂ (SameButForKind v w) (tokenize v source) (tokenize w source)) ∧
    (∀ v : Vocabulary, ∀ a ∈ tokenize v source, ∀ b ∈ tokenize v source,
      a.value = b.value → a.kind = b.kind) ∧
    (∀ (v : Vocabulary) (before word after : Text),
      source = before ++ word ++ after →
      StandsAlone before word after →
      ⟨v.classify word, word, ⟨Text.size before, Text.size before + Text.size word⟩⟩ ∈
          tokenize v source ∨
        ∃ token ∈ tokenize v source,
          (token.kind = .string ∨ token.kind = .comment) ∧
          token.span.start < Text.size before ∧ Text.size before < token.span.stop) ∧
    ∀ v w : Vocabulary, v.AgreesOnIdentifiers w → tokenize v source = tokenize w source := by
  refine ⟨?_, ?_, ?_, ?_⟩
  · intro v w
    have hmap : tokenize w source = (tokenize v source).map (Token.inVocabulary w) :=
      tokenizeFrom_eq_map v w 0 source
    rw [hmap, List.forall₂_map_right_iff, List.forall₂_same]
    intro token hmem
    obtain ⟨next, hrule⟩ := exists_rule_of_mem_tokenize hmem
    exact sameButForKind_inVocabulary w hrule
  · intro v a ha b hb hvalue
    obtain ⟨next, hrule⟩ := exists_rule_of_mem_tokenize ha
    obtain ⟨next', hrule'⟩ := exists_rule_of_mem_tokenize hb
    rw [← hvalue] at hrule'
    exact hrule.kind_unique hrule'
  · rintro v before word after rfl halone
    exact halone.token v
  · intro v w hagree
    exact tokenize_eq_of_agrees hagree source

/-- A keyword with a space in it is never found. -/
theorem tokenize_names_words_spaced :
    let v := Vocabulary.ofLists ["if".toList] []
    let w := Vocabulary.ofLists ["else if".toList, "if".toList] []
    v.AgreesOnIdentifiers w ∧ tokenize v "else if".toList = tokenize w "else if".toList := by
  intro v w
  have hagree : v.AgreesOnIdentifiers w := by
    intro word hword
    have hspaced : word ≠ "else if".toList := by
      rintro rfl
      exact absurd hword (by decide)
    simp only [v, w, Vocabulary.ofLists, WordSet.mem_ofList, List.mem_cons, hspaced, false_or,
      and_self]
  obtain ⟨-, -, -, hsame⟩ := tokenize_names_words "else if".toList
  exact ⟨hagree, hsame v w hagree⟩

end TeachingEditor
