import TeachingEditor.Language.Lexer
import TeachingEditor.Proofs.Text

/-!
# Tokens tile their source

Splitting a text into tokens loses nothing and repeats nothing.

**Algorithm.**  The invariant of the reader is `Covers`: from an offset on, the
tokens read so far stand one behind the other and make up the text.  One scan
extends a cover by one token (`scan_append`, `scan_ne_nil`), so the tokens of a
text cover it (`tokenizeFrom_covers`).  What is said about all tokens then follows
by induction on a cover, without the reader.

**Results.**
* `Covers.joined`, `Covers.contiguous`, `Covers.last_stop`: the tokens of a cover
  are the text cut into adjacent pieces.
* `Covers.locate`: every token of a cover is a part of the text between its
  offsets.
* `tokenize_tiles`: all of this for the tokens of a source text, in offsets, in
  characters and in bytes.
-/

namespace TeachingEditor

@[simp] theorem tokenizeFrom_nil
    (v : Vocabulary) (offset : Nat) :
    tokenizeFrom v offset [] = [] := by
  rw [tokenizeFrom]

/-- The token of the lexeme that begins with a character at an offset. -/
def firstToken (v : Vocabulary) (offset : Nat) (c : Char) (rest : Text) : Token :=
  ⟨(scan v c rest).kind, (scan v c rest).value,
    ⟨offset, offset + Text.size (scan v c rest).value⟩⟩

theorem tokenizeFrom_cons
    (v : Vocabulary) (offset : Nat) (c : Char) (rest : Text) :
    tokenizeFrom v offset (c :: rest) =
      firstToken v offset c rest ::
        tokenizeFrom v (firstToken v offset c rest).span.stop (scan v c rest).rest := by
  rw [tokenizeFrom]
  rfl

/--
Tokens that stand one behind the other from an offset on and make up a text.  Every
token is in a relation with the text behind it.
-/
inductive Covers (R : Token → Text → Prop) : Nat → List Token → Text → Prop
  | nil (offset : Nat) :
      Covers R offset [] []
  | cons {offset : Nat} {token : Token} {tokens : List Token} {after : Text}
      (hne : token.value ≠ [])
      (hspan : token.span = ⟨offset, offset + Text.size token.value⟩)
      (hrel : R token after)
      (htail : Covers R token.span.stop tokens after) :
      Covers R offset (token :: tokens) (token.value ++ after)

/-- If every scan leaves its lexeme in the relation, the tokens of a text cover it. -/
theorem tokenizeFrom_covers
    {R : Token → Text → Prop}
    (v : Vocabulary)
    (hscan : ∀ offset c rest, R (firstToken v offset c rest) (scan v c rest).rest)
    (offset : Nat) (t : Text) :
    Covers R offset (tokenizeFrom v offset t) t := by
  induction offset, t using tokenizeFrom.induct v with
  | case1 offset =>
      rw [tokenizeFrom_nil]
      exact Covers.nil offset
  | case2 offset c rest lexeme stop ih =>
      rw [tokenizeFrom_cons]
      have htext : c :: rest = (firstToken v offset c rest).value ++ (scan v c rest).rest :=
        (scan_append v c rest).symm
      rw [htext]
      exact Covers.cons (scan_ne_nil v c rest) rfl (hscan offset c rest) ih

namespace Covers

variable {R : Token → Text → Prop} {offset : Nat} {tokens : List Token} {t : Text}

/-- The values of the tokens are the text. -/
theorem joined
    (h : Covers R offset tokens t) :
    tokens.flatMap Token.value = t := by
  induction h with
  | nil => rfl
  | cons hne hspan hrel htail ih => rw [List.flatMap_cons, ih]

theorem eq_nil_iff
    (h : Covers R offset tokens t) :
    tokens = [] ↔ t = [] := by
  cases h with
  | nil => simp
  | cons hne hspan hrel htail => simp [hne]

theorem head_start
    (h : Covers R offset tokens t) :
    ∀ token ∈ tokens.head?, token.span.start = offset := by
  intro token htoken
  cases h with
  | nil => simp at htoken
  | cons hne hspan hrel htail =>
      simp only [List.head?_cons, Option.mem_def, Option.some.injEq] at htoken
      subst htoken
      rw [hspan]

/-- Each token starts where the one before it stops. -/
theorem contiguous
    (h : Covers R offset tokens t) :
    tokens.IsChain fun a b => a.span.stop = b.span.start := by
  induction h with
  | nil => exact List.IsChain.nil
  | cons hne hspan hrel htail ih =>
      rw [List.isChain_cons]
      refine ⟨?_, ih⟩
      intro next hnext
      exact (htail.head_start next hnext).symm

theorem last_stop
    (h : Covers R offset tokens t) :
    ∀ token ∈ tokens.getLast?, token.span.stop = offset + Text.size t := by
  induction h with
  | nil => simp
  | @cons offset token tokens after hne hspan hrel htail ih =>
      intro last hlast
      cases tokens with
      | nil =>
          have hafter : after = [] := htail.eq_nil_iff.1 rfl
          simp only [List.getLast?_singleton, Option.mem_def, Option.some.injEq] at hlast
          subst hlast
          simp [hspan, hafter]
      | cons next tokens =>
          rw [List.getLast?_cons_cons] at hlast
          rw [ih last hlast, hspan, Text.size_append, Nat.add_assoc]

/-- Every token is a part of the text, and its offsets say which. -/
theorem locate
    (h : Covers R offset tokens t)
    {token : Token}
    (hmem : token ∈ tokens) :
    ∃ before after : Text,
      t = before ++ token.value ++ after ∧
      token.span =
        ⟨offset + Text.size before, offset + Text.size before + Text.size token.value⟩ ∧
      token.value ≠ [] ∧
      R token after := by
  induction h with
  | nil => simp at hmem
  | @cons offset first tokens after hne hspan hrel htail ih =>
      rcases List.mem_cons.1 hmem with rfl | hmem
      · exact ⟨[], after, rfl, hspan, hne, hrel⟩
      · obtain ⟨before, behind, htext, hplace, hvalue, hbehind⟩ := ih hmem
        refine ⟨first.value ++ before, behind, ?_, ?_, hvalue, hbehind⟩
        · rw [htext]
          simp only [List.append_assoc]
        · rw [hplace, hspan, Text.size_append]
          simp only [Nat.add_assoc]

end Covers

/-- Tokens that are a source text cut into adjacent pieces. -/
structure Tiling (source : Text) (tokens : List Token) : Prop where
  first_start : ∀ token ∈ tokens.head?, token.span.start = 0
  contiguous : tokens.IsChain fun a b => a.span.stop = b.span.start
  last_stop : ∀ token ∈ tokens.getLast?, token.span.stop = Text.size source
  empty_iff : tokens = [] ↔ source = []
  nonempty : ∀ token ∈ tokens, token.span.start < token.span.stop
  boundaries :
    ∀ token ∈ tokens,
      Text.IsBoundary source token.span.start ∧ Text.IsBoundary source token.span.stop
  slice :
    ∀ token ∈ tokens,
      Text.slice? source token.span.start token.span.stop = some token.value
  bytes :
    ∀ token ∈ tokens,
      ((Utf8.encode source).drop token.span.start).take (token.span.stop - token.span.start) =
        Utf8.encode token.value
  joined : tokens.flatMap Token.value = source

/-- A cover from the beginning of a text is a tiling of it. -/
theorem Covers.tiling
    {R : Token → Text → Prop} {tokens : List Token} {source : Text}
    (h : Covers R 0 tokens source) :
    Tiling source tokens where
  first_start := h.head_start
  contiguous := h.contiguous
  last_stop := by
    intro token htoken
    rw [h.last_stop token htoken, Nat.zero_add]
  empty_iff := h.eq_nil_iff
  nonempty := by
    intro token htoken
    obtain ⟨before, after, -, hspan, hne, -⟩ := h.locate htoken
    have hpos : Text.size token.value ≠ 0 := mt Text.size_eq_zero_iff.1 hne
    rw [hspan]
    simp only
    omega
  boundaries := by
    intro token htoken
    obtain ⟨before, after, htext, hspan, -, -⟩ := h.locate htoken
    rw [hspan, htext, Nat.zero_add]
    constructor
    · rw [List.append_assoc]
      exact Text.isBoundary_size before (token.value ++ after)
    · simp only
      rw [← Text.size_append]
      exact Text.isBoundary_size (before ++ token.value) after
  slice := by
    intro token htoken
    obtain ⟨before, after, htext, hspan, -, -⟩ := h.locate htoken
    rw [hspan, htext, Nat.zero_add]
    exact Text.slice?_size before token.value after
  bytes := by
    intro token htoken
    obtain ⟨before, after, htext, hspan, -, -⟩ := h.locate htoken
    rw [hspan, htext, Nat.zero_add]
    simp only [Nat.add_sub_cancel_left]
    exact Text.encode_slice before token.value after
  joined := h.joined

/-- The tokens of a source text tile it. -/
theorem tokenize_tiles
    (v : Vocabulary) (source : Text) :
    Tiling source (tokenize v source) := by
  have hcovers : Covers (fun _ _ => True) 0 (tokenizeFrom v 0 source) source :=
    tokenizeFrom_covers v (fun _ _ _ => trivial) 0 source
  exact hcovers.tiling

end TeachingEditor
