import TeachingEditor.Proofs.Language.Pieces

/-!
# Edits are local

An editor that changes a text behind some place would like to keep the tokens in
front of that place.  This module says which of them it may keep.

**Algorithm.**  Two texts with a common beginning are read by the same scans as long
as the lexemes end inside of it, because the rule of a lexeme looks at one character
behind it only (`scan_eq_of_inside`).  A lexeme that fills what is left of the common
beginning when nothing follows cannot become shorter when something does
(`size_le_of_exhausted`).  So the tokens that end before the place are those of the
common beginning by itself (`endingBefore_tokenizeFrom_append`), whatever follows it.

**Results.**  `tokenize_local`: texts with a common beginning have the same tokens
before its end, up to the one token that reaches it.
-/

namespace TeachingEditor

/-- The tokens that end before an offset. -/
def endingBefore (offset : Nat) (tokens : List Token) : List Token :=
  tokens.filter fun token => token.span.stop < offset

theorem endingBefore_cons_of_lt
    {offset : Nat} {token : Token}
    (hbefore : token.span.stop < offset)
    (tokens : List Token) :
    endingBefore offset (token :: tokens) = token :: endingBefore offset tokens :=
  List.filter_cons_of_pos (decide_eq_true hbefore)

theorem endingBefore_cons_of_le
    {offset : Nat} {token : Token}
    (hreaches : offset ≤ token.span.stop)
    (tokens : List Token) :
    endingBefore offset (token :: tokens) = endingBefore offset tokens := by
  refine List.filter_cons_of_neg ?_
  simpa using hreaches

namespace Covers

variable {R : Token → Text → Prop} {offset : Nat} {tokens : List Token} {t : Text}

theorem start_ge
    (h : Covers R offset tokens t)
    {token : Token}
    (hmem : token ∈ tokens) :
    offset ≤ token.span.start := by
  obtain ⟨before, -, -, hspan, -⟩ := h.locate hmem
  rw [hspan]
  exact Nat.le_add_right offset (Text.size before)

/-- No token of a cover ends where the cover begins. -/
theorem stop_gt
    (h : Covers R offset tokens t)
    {token : Token}
    (hmem : token ∈ tokens) :
    offset < token.span.stop := by
  obtain ⟨before, -, -, hspan, hne, -⟩ := h.locate hmem
  have hpos : Text.size token.value ≠ 0 := mt Text.size_eq_zero_iff.1 hne
  rw [hspan]
  simp only
  omega

theorem endingBefore_eq_nil
    (h : Covers R offset tokens t)
    {place : Nat}
    (hplace : place ≤ offset) :
    endingBefore place tokens = [] := by
  rw [endingBefore, List.filter_eq_nil_iff]
  intro token hmem
  have hstop := h.stop_gt hmem
  simp only [decide_eq_true_eq]
  omega

/-- Where the first token reaches a place, no token ends before it. -/
theorem endingBefore_cons_eq_nil
    {token : Token} {place : Nat}
    (h : Covers R offset (token :: tokens) t)
    (hreaches : place ≤ token.span.stop) :
    endingBefore place (token :: tokens) = [] := by
  cases h with
  | cons hne hspan hrel htail =>
      rw [endingBefore_cons_of_le hreaches]
      exact htail.endingBefore_eq_nil hreaches

/--
The tokens that end before a place come first.  Of those behind them all but the first
start at the place or behind it.
-/
theorem endingBefore_append
    (h : Covers R offset tokens t)
    (place : Nat) :
    ∃ behind,
      tokens = endingBefore place tokens ++ behind ∧
        ∀ token ∈ behind.tail, place ≤ token.span.start := by
  induction h with
  | nil => exact ⟨[], rfl, by simp⟩
  | @cons offset token tokens after hne hspan hrel htail ih =>
      by_cases hbefore : token.span.stop < place
      · obtain ⟨behind, htokens, hstart⟩ := ih
        refine ⟨behind, ?_, hstart⟩
        rw [endingBefore_cons_of_lt hbefore, List.cons_append, ← htokens]
      · have hreaches : place ≤ token.span.stop := Nat.le_of_not_lt hbefore
        have hnone : endingBefore place (token :: tokens) = [] :=
          (Covers.cons hne hspan hrel htail).endingBefore_cons_eq_nil hreaches
        refine ⟨token :: tokens, by rw [hnone, List.nil_append], ?_⟩
        intro other hother
        exact hreaches.trans (htail.start_ge hother)

end Covers

/-! ## Scans of a common beginning -/

section Beginnings

variable {v : Vocabulary} {c : Char} {rest b : Text}

/-- A lexeme that ends inside a text is read from this text alone. -/
theorem scan_eq_of_inside
    {d : Char} {inside : Text}
    (hinside : (scan v c (rest ++ b)).value ++ d :: inside = c :: rest) :
    scan v c rest =
      ⟨(scan v c (rest ++ b)).kind, (scan v c (rest ++ b)).value, d :: inside⟩ := by
  have hrest : (scan v c (rest ++ b)).rest = d :: inside ++ b := by
    have happ := scan_append v c (rest ++ b)
    rw [← List.cons_append, ← hinside, List.append_assoc] at happ
    exact List.append_cancel_left happ
  have hrule := scan_rule v c (rest ++ b)
  rw [hrest] at hrule
  exact scan_eq_of_rule hrule hinside

/-- A lexeme that fills a text is no shorter when the text goes on. -/
theorem size_le_of_exhausted
    (hall : (scan v c rest).rest = [])
    (b : Text) :
    Text.size (c :: rest) ≤ Text.size (scan v c (rest ++ b)).value := by
  have happ := scan_append v c (rest ++ b)
  rw [← List.cons_append] at happ
  rcases List.append_eq_append_iff.1 happ with ⟨inside, htext, -⟩ | ⟨more, hvalue, -⟩
  · cases inside with
    | nil => rw [htext, List.append_nil]
    | cons d inside =>
        rw [scan_eq_of_inside htext.symm] at hall
        cases hall
  · rw [hvalue, Text.size_append]
    exact Nat.le_add_right _ _

end Beginnings

/-- The tokens before the end of a text do not depend on what follows it. -/
theorem endingBefore_tokenizeFrom_append
    (v : Vocabulary) (offset : Nat) (a b : Text) :
    endingBefore (offset + Text.size a) (tokenizeFrom v offset (a ++ b)) =
      endingBefore (offset + Text.size a) (tokenizeFrom v offset a) := by
  -- The induction is on the scans of the first text; the last of them is the only one that
  -- may read on, and its token reaches the end of the text in any case.
  induction offset, a using tokenizeFrom.induct v with
  | case1 offset =>
      rw [List.nil_append, Text.size_nil, Nat.add_zero, tokenizeFrom_nil]
      exact (tokenizeFrom_covers_rule v offset b).endingBefore_eq_nil (Nat.le_refl offset)
  | case2 offset c rest lexeme stop ih =>
      have hscan : TokenRule v lexeme.value lexeme.rest.head? lexeme.kind := scan_rule v c rest
      rw [List.cons_append]
      cases hrest : lexeme.rest with
      | nil =>
          have hreaches :
              ∀ more : Text,
                offset + Text.size (c :: rest) ≤
                  (firstToken v offset c (rest ++ more)).span.stop := by
            intro more
            exact Nat.add_le_add_left (size_le_of_exhausted hrest more) offset
          have hnone :
              ∀ more : Text,
                endingBefore (offset + Text.size (c :: rest))
                  (tokenizeFrom v offset (c :: (rest ++ more))) = [] := by
            intro more
            have hcovers := tokenizeFrom_covers_rule v offset (c :: (rest ++ more))
            rw [tokenizeFrom_cons] at hcovers ⊢
            exact hcovers.endingBefore_cons_eq_nil (hreaches more)
          have halone := hnone []
          rw [List.append_nil] at halone
          rw [hnone b, halone]
      | cons d inside =>
          have hrule : TokenRule v lexeme.value (lexeme.rest ++ b).head? lexeme.kind := by
            rw [hrest] at hscan ⊢
            exact hscan
          have hsize : offset + Text.size (c :: rest) = stop + Text.size lexeme.rest := by
            rw [← scan_append v c rest, Text.size_append, ← Nat.add_assoc]
          have hbefore :
              (firstToken v offset c rest).span.stop < offset + Text.size (c :: rest) := by
            have hpos : Text.size lexeme.rest ≠ 0 := by
              rw [Ne, Text.size_eq_zero_iff, hrest]
              exact List.cons_ne_nil d inside
            rw [hsize]
            exact Nat.lt_add_of_pos_right (Nat.pos_of_ne_zero hpos)
          have hfirst : firstToken v offset c (rest ++ b) = firstToken v offset c rest := by
            simp only [firstToken, scan_append_of_rule hrule]
          rw [tokenizeFrom_cons, tokenizeFrom_cons, hfirst, scan_append_of_rule hrule]
          rw [endingBefore_cons_of_lt hbefore, endingBefore_cons_of_lt hbefore, hsize]
          exact congrArg (List.cons _) ih

/--
Two texts with a common beginning have the same tokens among those that end before the
end of it.  What follows the beginning changes at most the one token that reaches its
end and the tokens that start there or behind.
-/
theorem tokenize_local
    (v : Vocabulary) (a b c : Text) :
    endingBefore (Text.size a) (tokenize v (a ++ b)) =
        endingBefore (Text.size a) (tokenize v (a ++ c)) ∧
      ∃ behind,
        tokenize v (a ++ b) = endingBefore (Text.size a) (tokenize v (a ++ b)) ++ behind ∧
          ∀ token ∈ behind.tail, Text.size a ≤ token.span.start := by
  have hbeginning :
      ∀ more : Text,
        endingBefore (Text.size a) (tokenize v (a ++ more)) =
          endingBefore (Text.size a) (tokenize v a) := by
    intro more
    have hsame := endingBefore_tokenizeFrom_append v 0 a more
    rwa [Nat.zero_add] at hsame
  constructor
  · rw [hbeginning b, hbeginning c]
  · exact (tokenizeFrom_covers_rule v 0 (a ++ b)).endingBefore_append (Text.size a)

end TeachingEditor
