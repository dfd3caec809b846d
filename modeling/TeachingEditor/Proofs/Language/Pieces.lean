import TeachingEditor.Proofs.Language.Grammar

/-!
# Splitting a text in pieces

An editor that keeps the tokens of its lines would like to split a changed line by
itself.  This module says when two texts may be split apart and their tokens put
behind each other.

**Algorithm.**  A token sees of the text behind it one character, and only the last
token of the first text sees another one when the second text is there.  So the
question is whether the rule of the last token, which holds at the end of the first
text, still holds in front of the second (`tokenRule_iff_of_end`).  If it does,
every scan of the first text reads the same with the second behind it, by induction
on the scans.  If it does not, the pieces cannot be the tokens of the whole, because
every token of the whole obeys its rule.

**Results.**
* `tokenizeFrom_add`: the offset of a text only moves its tokens.
* `tokenizeFrom_append`: tokens stay as they are in front of a text that their last one
  does not go on with.
* `tokenize_append_iff`: the tokens of two texts are the tokens of both put
  together just when the first text does not end with a token that the second
  goes on with.
-/

namespace TeachingEditor

/--
Whether a token at the end of a text goes on with a character put behind it: a string
that is not closed with any, a comment with all but a line break, a number with digits
and points, a word with letters and digits, a slash with a second one, and an operator
that joins with an equals sign.
-/
def GoesOnWith (value : Text) (d : Char) : TokenKind → Prop
  | .string => ¬ IsClosedString value
  | .comment => d ≠ '\n'
  | .number => IsDigit d ∨ d = '.'
  | .keyword => IsLetter d ∨ IsDigit d
  | .builtinFunction => IsLetter d ∨ IsDigit d
  | .identifier => IsLetter d ∨ IsDigit d
  | .operator => (value = ['/'] ∧ d = '/') ∨ (value ∈ [['='], ['<'], ['>'], ['!']] ∧ d = '=')
  | .text => False

/-! ## One token at a seam -/

section Seam

variable {v : Vocabulary} {value : Text}

/-- A comment at the end of a text ends in front of a line break only. -/
theorem comment_iff_of_end
    (hend : TokenRule v value none .comment)
    (next : Option Char) :
    TokenRule v value next .comment ↔ ∀ d ∈ next, ¬ d ≠ '\n' := by
  obtain ⟨hslashes, hline, -⟩ := hend
  cases next with
  | none => exact ⟨fun _ => by simp, fun _ => ⟨hslashes, hline, Or.inl rfl⟩⟩
  | some d =>
      constructor
      · rintro ⟨-, -, hnone | hbreak⟩
        · cases hnone
        · rintro e ⟨⟩
          exact not_not.2 (Option.some.inj hbreak)
      · intro hnext
        have hbreak : d = '\n' := not_not.1 (hnext d rfl)
        exact ⟨hslashes, hline, Or.inr (congrArg some hbreak)⟩

/-- An operator at the end of a text stays in front of what does not join with it. -/
theorem operator_iff_of_end
    (hend : TokenRule v value none .operator)
    (next : Option Char) :
    TokenRule v value next .operator ↔
      ∀ d ∈ next, ¬ ((value = ['/'] ∧ d = '/') ∨
        (value ∈ [['='], ['<'], ['>'], ['!']] ∧ d = '=')) := by
  rcases hend with hjoined | ⟨c, rfl, hop, -, -⟩
  · have hlong : value ≠ ['/'] ∧ value ∉ [['='], ['<'], ['>'], ['!']] := by
      simp only [List.mem_cons, List.not_mem_nil, or_false] at hjoined
      rcases hjoined with rfl | rfl | rfl | rfl <;> decide
    constructor
    · intro _ d _
      simp [hlong.1, hlong.2]
    · intro _
      exact Or.inl hjoined
  · have hsingle : [c] ∈ [['='], ['<'], ['>'], ['!']] ↔ c ∈ ['=', '<', '>', '!'] := by
      simp
    rw [hsingle]
    constructor
    · rintro (hjoined | ⟨d, hvalue, -, hslash, hequals⟩)
      · simp at hjoined
      · obtain ⟨rfl, -⟩ := List.cons.inj hvalue
        rintro d hd (⟨hvalue, rfl⟩ | ⟨hmem, rfl⟩)
        · exact hslash ⟨(List.cons.inj hvalue).1, hd⟩
        · exact hequals ⟨hmem, hd⟩
    · intro hnext
      refine Or.inr ⟨c, rfl, hop, ?_, ?_⟩
      · rintro ⟨rfl, hd⟩
        exact hnext '/' hd (Or.inl ⟨rfl, rfl⟩)
      · rintro ⟨hmem, hd⟩
        exact hnext '=' hd (Or.inr ⟨hmem, rfl⟩)

/-- A token at the end of a text obeys its rule in front of what it does not go on with. -/
theorem tokenRule_iff_of_end
    {kind : TokenKind}
    (hend : TokenRule v value none kind)
    (next : Option Char) :
    TokenRule v value next kind ↔ ∀ d ∈ next, ¬ GoesOnWith value d kind := by
  cases kind with
  | keyword => exact (and_iff_left hend.2).trans (and_iff_right hend.1.1)
  | builtinFunction => exact (and_iff_left hend.2).trans (and_iff_right hend.1.1)
  | identifier => exact (and_iff_left hend.2).trans (and_iff_right hend.1.1)
  | comment => exact comment_iff_of_end hend next
  | number => exact and_iff_right hend.1
  | operator => exact operator_iff_of_end hend next
  | string =>
      constructor
      · rintro (hclosed | ⟨-, rfl⟩)
        · exact fun d _ hopen => hopen hclosed
        · simp
      · intro hnext
        cases next with
        | none => exact hend
        | some d => exact Or.inl (not_not.1 (hnext d rfl))
  | text => exact ⟨fun _ _ _ => id, fun _ => hend⟩

end Seam

/-! ## Scans in front of another text -/

/-- The offset of a text only moves its tokens. -/
theorem tokenizeFrom_add
    (v : Vocabulary) (distance offset : Nat) (t : Text) :
    tokenizeFrom v (offset + distance) t =
      (tokenizeFrom v offset t).map (Token.shift distance) := by
  induction offset, t using tokenizeFrom.induct v with
  | case1 offset => simp
  | case2 offset c rest lexeme stop ih =>
      have hfirst :
          firstToken v (offset + distance) c rest =
            (firstToken v offset c rest).shift distance := by
        simp only [firstToken, Token.shift, Span.shift, Token.mk.injEq, Span.mk.injEq, true_and]
        omega
      rw [tokenizeFrom_cons, tokenizeFrom_cons, List.map_cons, hfirst]
      exact congrArg (List.cons _) ih

/-- A scan reads the same in front of another text if its rule holds there. -/
theorem scan_append_of_rule
    {v : Vocabulary} {c : Char} {rest b : Text}
    (hrule :
      TokenRule v (scan v c rest).value ((scan v c rest).rest ++ b).head? (scan v c rest).kind) :
    scan v c (rest ++ b) =
      ⟨(scan v c rest).kind, (scan v c rest).value, (scan v c rest).rest ++ b⟩ := by
  refine scan_eq_of_rule hrule ?_
  rw [← List.append_assoc, scan_append, List.cons_append]

/-- Tokens whose last one does not go on with a text stay in front of it as they are. -/
theorem tokenizeFrom_append
    (v : Vocabulary) (offset : Nat) (a b : Text)
    (hclosed :
      ∀ last ∈ (tokenizeFrom v offset a).getLast?, ∀ d ∈ b.head?,
        ¬ GoesOnWith last.value d last.kind) :
    tokenizeFrom v offset (a ++ b) =
      tokenizeFrom v offset a ++ tokenizeFrom v (offset + Text.size a) b := by
  -- The induction is on the scans of the first text; only the last of them sees the second.
  induction offset, a using tokenizeFrom.induct v with
  | case1 offset => simp
  | case2 offset c rest lexeme stop ih =>
      have htokens :
          tokenizeFrom v offset (c :: rest) =
            firstToken v offset c rest :: tokenizeFrom v stop lexeme.rest :=
        tokenizeFrom_cons v offset c rest
      rw [htokens] at hclosed
      have hscan : TokenRule v lexeme.value lexeme.rest.head? lexeme.kind := scan_rule v c rest
      have hrule : TokenRule v lexeme.value (lexeme.rest ++ b).head? lexeme.kind := by
        cases hrest : lexeme.rest with
        | nil =>
            rw [hrest, tokenizeFrom_nil] at hclosed
            rw [hrest] at hscan
            exact (tokenRule_iff_of_end hscan b.head?).2 (hclosed _ rfl)
        | cons d others =>
            rw [hrest] at hscan
            exact hscan
      have htail :
          tokenizeFrom v stop (lexeme.rest ++ b) =
            tokenizeFrom v stop lexeme.rest ++
              tokenizeFrom v (stop + Text.size lexeme.rest) b := by
        refine ih ?_
        intro last hlast
        refine hclosed last ?_
        rw [List.getLast?_cons, Option.mem_def.1 hlast]
        rfl
      have hsize : offset + Text.size (c :: rest) = stop + Text.size lexeme.rest := by
        rw [← scan_append v c rest, Text.size_append, ← Nat.add_assoc]
      rw [List.cons_append, tokenizeFrom_cons, htokens, List.cons_append, hsize]
      simp only [firstToken, scan_append_of_rule hrule]
      exact congrArg (List.cons _) htail

/--
The tokens of two texts, those of the second moved behind the first, are the tokens of
both put together just when the last token of the first does not go on with the first
character of the second.
-/
theorem tokenize_append_iff
    (v : Vocabulary) (a b : Text) :
    tokenize v (a ++ b) =
        tokenize v a ++ (tokenize v b).map (Token.shift (Text.size a)) ↔
      ∀ last ∈ (tokenize v a).getLast?, ∀ d ∈ b.head?,
        ¬ GoesOnWith last.value d last.kind := by
  have hmoved :
      (tokenize v b).map (Token.shift (Text.size a)) = tokenizeFrom v (0 + Text.size a) b :=
    (tokenizeFrom_add v (Text.size a) 0 b).symm
  rw [hmoved]
  constructor
  · intro hpieces last hlast
    obtain ⟨before, hsplit⟩ := List.getLast?_eq_some_iff.1 hlast
    -- The last token obeys its rule twice: at the end of the first text and within the whole.
    have hend : TokenRule v last.value none last.kind := tokenize_split_rule hsplit
    have hseam : TokenRule v last.value b.head? last.kind := by
      have hjoined := (tokenizeFrom_covers_rule v (0 + Text.size a) b).joined
      rw [hsplit, List.append_assoc] at hpieces
      rw [← hjoined]
      exact tokenize_split_rule hpieces
    exact (tokenRule_iff_of_end hend b.head?).1 hseam
  · exact tokenizeFrom_append v 0 a b

end TeachingEditor
