import TeachingEditor.Highlight
import TeachingEditor.Proofs.Language.Tiling

/-!
# Highlighted markup is safe and is read back

Whatever the tokens say, their markup is one element for each of them, and the colours
and texts of the tokens can be read off it.

**Algorithm.**  An escaped text holds no bracket and no quote, so it stops where the
closing tag of its element begins, and a colour holds no quote, so it stops where its
attribute does (`span_append_inj`).  Reading the elements therefore goes through them
one by one (`readElement?_span`), and inside an element the names of the entities are
read back character by character (`unescapeFrom?_escapeChar`).

**Results.**
* `isSafe_escape`, `unescape?_escape`: an escaped text is safe, and it can be undone.
* `spans_inj`: there is only one way to cut markup into elements.
* `decode?_spans`: decoding gives the colours and the texts that were escaped.
* `renderTokens_decodes`: all of this for tokens, and for source texts.
-/

namespace TeachingEditor
namespace Markup

/-! ## Entities -/

/-- The characters with an entity, and their entities. -/
def entities : List (Char × Text) :=
  [('&', "amp".toList), ('<', "lt".toList), ('>', "gt".toList), ('"', "quot".toList),
    ('\'', "#039".toList)]

/-- The texts behind an ampersand that make an entity. -/
def entityEnds : List Text :=
  ["amp;".toList, "lt;".toList, "gt;".toList, "quot;".toList, "#039;".toList]

/-- The characters that only tags hold. -/
def reserved : List Char :=
  ['<', '>', '"', '\'']

theorem entity?_mem
    {c : Char} {name : Text}
    (hname : entity? c = some name) :
    (c, name) ∈ entities := by
  unfold entity? at hname
  split_ifs at hname with hamp hlt hgt hquot hapos
  · cases hname
    subst hamp
    decide
  · cases hname
    subst hlt
    decide
  · cases hname
    subst hgt
    decide
  · cases hname
    subst hquot
    decide
  · cases hname
    subst hapos
    decide

theorem entities_read :
    ∀ entity ∈ entities, entityChar? entity.2 = some entity.1 ∧ ';' ∉ entity.2 := by
  decide

theorem entities_safe :
    ∀ entity ∈ entities,
      entity.2 ++ [';'] ∈ entityEnds ∧
        (entity.2 ++ [';']).all fun c => c ≠ '&' ∧ c ∉ reserved := by
  decide

/-- A character without an entity stands for itself and belongs to no tag. -/
theorem entity?_none
    {c : Char}
    (hname : entity? c = none) :
    c ≠ '&' ∧ c ∉ reserved := by
  unfold entity? at hname
  split_ifs at hname with hamp hlt hgt hquot hapos
  refine ⟨hamp, ?_⟩
  simp only [reserved, List.mem_cons, List.not_mem_nil, or_false]
  rintro (rfl | rfl | rfl | rfl)
  · exact hlt rfl
  · exact hgt rfl
  · exact hquot rfl
  · exact hapos rfl

/-! ## Safety -/

/-- A text that may stand inside an element. -/
structure IsSafe (body : Text) : Prop where
  not_reserved : ∀ c ∈ body, c ∉ reserved
  entities :
    ∀ before after, body = before ++ '&' :: after → ∃ ending ∈ entityEnds, ending <+: after

namespace IsSafe

variable {body : Text}

theorem nil :
    IsSafe [] where
  not_reserved := by
    intro c hc
    cases hc
  entities := by
    intro before after hbody
    cases before with
    | nil => cases hbody
    | cons c before => cases hbody

/-- A character that begins no entity and belongs to no tag leaves a text safe. -/
theorem cons
    {c : Char}
    (hc : c ≠ '&' ∧ c ∉ reserved)
    (hbody : IsSafe body) :
    IsSafe (c :: body) where
  not_reserved := by
    intro d hd
    rcases List.mem_cons.1 hd with rfl | hd
    · exact hc.2
    · exact hbody.not_reserved d hd
  entities := by
    intro before after hcut
    cases before with
    | nil => exact absurd (List.cons.inj hcut).1 hc.1
    | cons d before => exact hbody.entities before after (List.cons.inj hcut).2

theorem append
    {front : Text}
    (hfront : ∀ c ∈ front, c ≠ '&' ∧ c ∉ reserved)
    (hbody : IsSafe body) :
    IsSafe (front ++ body) := by
  induction front with
  | nil => exact hbody
  | cons c front ih =>
      have hrest : IsSafe (front ++ body) :=
        ih fun d hd => hfront d (List.mem_cons_of_mem c hd)
      exact hrest.cons (hfront c List.mem_cons_self)

/-- An ampersand with the rest of an entity in front of a safe text. -/
theorem entity
    {ending : Text}
    (hending : ending ∈ entityEnds)
    (hchars : ∀ c ∈ ending, c ≠ '&' ∧ c ∉ reserved)
    (hbody : IsSafe body) :
    IsSafe ('&' :: (ending ++ body)) where
  not_reserved := by
    intro c hc
    rcases List.mem_cons.1 hc with rfl | hc
    · decide
    · exact (hbody.append hchars).not_reserved c hc
  entities := by
    intro before after hcut
    cases before with
    | nil =>
        have hafter : ending ++ body = after := (List.cons.inj hcut).2
        exact ⟨ending, hending, body, hafter⟩
    | cons d before =>
        exact (hbody.append hchars).entities before after (List.cons.inj hcut).2

end IsSafe

theorem isSafe_escapeChar
    {body : Text}
    (c : Char)
    (hbody : IsSafe body) :
    IsSafe (escapeChar c ++ body) := by
  cases hname : entity? c with
  | none =>
      rw [escapeChar, hname]
      exact hbody.cons (entity?_none hname)
  | some name =>
      obtain ⟨hending, hchars⟩ := entities_safe _ (entity?_mem hname)
      rw [escapeChar, hname]
      refine hbody.entity hending ?_
      intro d hd
      exact of_decide_eq_true (List.all_eq_true.1 hchars d hd)

/-- An escaped text may stand inside an element. -/
theorem isSafe_escape
    (t : Text) :
    IsSafe (escape t) := by
  induction t with
  | nil => exact IsSafe.nil
  | cons c t ih => exact isSafe_escapeChar c ih

/-! ## Undoing the escaping -/

/-- A name is read up to its semicolon. -/
theorem unescapeFrom?_name
    {name : Text}
    (hname : ';' ∉ name)
    (seen rest : Text) :
    unescapeFrom? (some seen) (name ++ ';' :: rest) =
      unescapeFrom? (some (name.reverse ++ seen)) (';' :: rest) := by
  induction name generalizing seen with
  | nil => rfl
  | cons c name ih =>
      obtain ⟨hc, hrest⟩ := List.ne_and_not_mem_of_not_mem_cons hname
      rw [List.cons_append, unescapeFrom?, if_neg hc.symm, ih hrest]
      simp

/-- One escaped character is read back, whatever follows it. -/
theorem unescapeFrom?_escapeChar
    (c : Char) (rest : Text) :
    unescapeFrom? none (escapeChar c ++ rest) = (unescapeFrom? none rest).map (c :: ·) := by
  cases hname : entity? c with
  | none =>
      have hc : c ≠ '&' := (entity?_none hname).1
      rw [escapeChar, hname]
      simp [unescapeFrom?, hc]
  | some name =>
      obtain ⟨hchar, hsemicolon⟩ := entities_read _ (entity?_mem hname)
      have htext : escapeChar c ++ rest = '&' :: (name ++ ';' :: rest) := by
        simp [escapeChar, hname]
      rw [htext, unescapeFrom?, if_pos rfl, unescapeFrom?_name hsemicolon]
      simp only at hchar
      simp [unescapeFrom?, hchar]

/-- Escaping can be undone. -/
theorem unescape?_escape
    (t : Text) :
    unescape? (escape t) = some t := by
  unfold unescape?
  induction t with
  | nil => rfl
  | cons c t ih =>
      rw [escape, unescapeFrom?_escapeChar, ih]
      rfl

/-! ## Elements -/

/-- An element around a text that is escaped already. -/
def span (color body : Text) : Text :=
  "<span style=\"color: ".toList ++ color ++ "\">".toList ++ body ++ "</span>".toList

/-- Elements one after the other, each with its colour and what stands in it. -/
def spans (parts : List (Text × Text)) : Text :=
  parts.flatMap fun part => span part.1 part.2

/-- A colour that stops at its quote and a body that stops at its tag. -/
structure Delimited (part : Text × Text) : Prop where
  color : '"' ∉ part.1
  body : '<' ∉ part.2

theorem span_append
    (color body rest : Text) :
    span color body ++ rest =
      opening ++ (color ++ (afterColor ++ (body ++ (closing ++ rest)))) := by
  have hspan : span color body = opening ++ color ++ afterColor ++ body ++ closing := rfl
  rw [hspan]
  simp only [List.append_assoc]

/-- A text without a character is read up to a tag that begins with it. -/
theorem takeWhile_dropWhile_ne
    {c : Char} {front tag : Text}
    (hfront : c ∉ front)
    (htag : tag.head? = some c) :
    (front ++ tag).takeWhile (· ≠ c) = front ∧ (front ++ tag).dropWhile (· ≠ c) = tag := by
  have hclass : ∀ d, decide (d ≠ c) = true ↔ d ≠ c := by simp
  refine Text.takeWhile_dropWhile_run hclass ?_ ?_
  · intro d hd heq
    exact hfront (heq ▸ hd)
  · rw [htag]
    simp

/-- Texts without a character that stand before tags with it are told apart. -/
theorem append_inj_of_head
    {c : Char} {front other tag tag' : Text}
    (hfront : c ∉ front)
    (hother : c ∉ other)
    (htag : tag.head? = some c)
    (htag' : tag'.head? = some c)
    (h : front ++ tag = other ++ tag') :
    front = other ∧ tag = tag' := by
  obtain ⟨hfronts, htags⟩ := takeWhile_dropWhile_ne hfront htag
  obtain ⟨hothers, htags'⟩ := takeWhile_dropWhile_ne hother htag'
  constructor
  · rw [← hfronts, h, hothers]
  · rw [← htags, h, htags']

/-- An element at the beginning of a text determines its parts and what follows it. -/
theorem span_append_inj
    {part other : Text × Text} {rest rest' : Text}
    (hpart : Delimited part)
    (hother : Delimited other)
    (h : span part.1 part.2 ++ rest = span other.1 other.2 ++ rest') :
    part = other ∧ rest = rest' := by
  rw [span_append, span_append] at h
  obtain ⟨hcolor, h⟩ :=
    append_inj_of_head hpart.color hother.color rfl rfl (List.append_cancel_left h)
  obtain ⟨hbody, h⟩ :=
    append_inj_of_head hpart.body hother.body rfl rfl (List.append_cancel_left h)
  exact ⟨Prod.ext hcolor hbody, List.append_cancel_left h⟩

theorem span_ne_nil
    (color body : Text) :
    span color body ≠ [] :=
  List.cons_ne_nil _ _

theorem span_append_ne_nil
    (color body rest : Text) :
    span color body ++ rest ≠ [] :=
  List.append_ne_nil_of_left_ne_nil (span_ne_nil color body) rest

/-- There is only one way to cut a text into elements. -/
theorem spans_inj
    {parts others : List (Text × Text)}
    (hparts : ∀ part ∈ parts, Delimited part)
    (hothers : ∀ part ∈ others, Delimited part)
    (h : spans parts = spans others) :
    parts = others := by
  induction parts generalizing others with
  | nil =>
      cases others with
      | nil => rfl
      | cons other others => exact absurd h.symm (span_append_ne_nil _ _ _)
  | cons part parts ih =>
      cases others with
      | nil => exact absurd h (span_append_ne_nil _ _ _)
      | cons other others =>
          simp only [spans, List.flatMap_cons] at h
          rw [List.forall_mem_cons] at hparts hothers
          obtain ⟨hpart, hrest⟩ := span_append_inj hparts.1 hothers.1 h
          rw [hpart, ih hparts.2 hothers.2 hrest]

/-! ## Reading elements -/

theorem strip?_append
    (expected t : Text) :
    strip? expected (expected ++ t) = some t := by
  induction expected with
  | nil => rfl
  | cons c expected ih =>
      rw [List.cons_append, strip?, if_pos rfl]
      exact ih

/-- An element at the beginning of a text is read, if its body can be. -/
theorem readElement?_span
    {color body value : Text}
    (hcolor : '"' ∉ color)
    (hbody : '<' ∉ body)
    (hvalue : unescape? body = some value)
    (rest : Text) :
    readElement? (span color body ++ rest) = some (color, value, rest) := by
  have hafter : (afterColor ++ (body ++ (closing ++ rest))).head? = some '"' := rfl
  have hclosing : (closing ++ rest).head? = some '<' := rfl
  obtain ⟨hreadColor, hbehindColor⟩ := takeWhile_dropWhile_ne hcolor hafter
  obtain ⟨hreadBody, hbehindBody⟩ := takeWhile_dropWhile_ne hbody hclosing
  rw [span_append, readElement?, strip?_append]
  simp only [Option.bind_eq_bind, Option.bind_some]
  rw [hreadColor, hbehindColor, strip?_append]
  simp only [Option.bind_some]
  rw [hreadBody, hvalue, hbehindBody, strip?_append]
  rfl

/-- Reading goes on behind the first element. -/
theorem decodeUpTo?_readElement?
    {t color value rest : Text}
    (hne : t ≠ [])
    (hread : readElement? t = some (color, value, rest))
    (n : Nat) :
    decodeUpTo? (n + 1) t = (decodeUpTo? n rest).map ((color, value) :: ·) := by
  obtain ⟨c, others, rfl⟩ := List.exists_cons_of_ne_nil hne
  rw [decodeUpTo?, hread]
  simp only [Option.bind_eq_bind, Option.bind_some]
  cases decodeUpTo? n rest with
  | none => rfl
  | some pairs => rfl

/-- The parts of the elements for colours and texts. -/
def escaped (pairs : List (Text × Text)) : List (Text × Text) :=
  pairs.map fun pair => (pair.1, escape pair.2)

theorem decodeUpTo?_spans
    {pairs : List (Text × Text)}
    (hcolors : ∀ pair ∈ pairs, '"' ∉ pair.1) :
    ∀ n, (spans (escaped pairs)).length ≤ n →
      decodeUpTo? n (spans (escaped pairs)) = some pairs := by
  induction pairs with
  | nil =>
      intro n _
      cases n <;> rfl
  | cons pair pairs ih =>
      intro n hn
      obtain ⟨color, value⟩ := pair
      rw [List.forall_mem_cons] at hcolors
      have htext :
          spans (escaped ((color, value) :: pairs)) =
            span color (escape value) ++ spans (escaped pairs) :=
        rfl
      have hbody : '<' ∉ escape value := by
        intro hmem
        exact (isSafe_escape value).not_reserved '<' hmem (by decide)
      have hread :=
        readElement?_span hcolors.1 hbody (unescape?_escape value) (spans (escaped pairs))
      have hspan : 0 < (span color (escape value)).length :=
        List.length_pos_of_ne_nil (span_ne_nil color (escape value))
      rw [htext, List.length_append] at hn
      cases n with
      | zero => omega
      | succ n =>
          rw [htext, decodeUpTo?_readElement? (span_append_ne_nil _ _ _) hread]
          rw [ih hcolors.2 n (by omega)]
          rfl

/-- Decoding gives back the colours and the texts that were escaped. -/
theorem decode?_spans
    {pairs : List (Text × Text)}
    (hcolors : ∀ pair ∈ pairs, '"' ∉ pair.1) :
    decode? (spans (escaped pairs)) = some pairs :=
  decodeUpTo?_spans hcolors _ (Nat.le_refl _)

/-! ## Tokens -/

/-- The colours and texts of tokens. -/
def colored (theme : Theme) (tokens : List Token) : List (Text × Text) :=
  tokens.map fun token => (theme.color token.kind, token.value)

theorem color_delimited
    (theme : Theme) (kind : TokenKind) :
    '"' ∉ theme.color kind := by
  cases theme <;> cases kind <;> decide

theorem renderTokens_eq_spans
    (theme : Theme) (tokens : List Token) :
    renderTokens theme tokens = spans (escaped (colored theme tokens)) := by
  unfold renderTokens
  induction tokens with
  | nil => rfl
  | cons token tokens ih =>
      rw [List.map_cons, render, ih]
      rfl

theorem decode?_renderTokens
    (theme : Theme) (tokens : List Token) :
    decode? (renderTokens theme tokens) = some (colored theme tokens) := by
  rw [renderTokens_eq_spans]
  refine decode?_spans ?_
  intro pair hpair
  obtain ⟨token, -, rfl⟩ := List.mem_map.1 hpair
  exact color_delimited theme token.kind

example :
    decode? (renderTokens .dark [⟨.string, "</span>&amp;".toList, ⟨0, 12⟩⟩]) =
      some [("#CE9178".toList, "</span>&amp;".toList)] := by
  decide

/-- Markup that is made of one element for each token and can be read in one way only. -/
structure IsMarkupOf (theme : Theme) (tokens : List Token) (t : Text) : Prop where
  elements :
    ∃ parts, t = spans parts ∧
      List.Forall₂
        (fun part token =>
          part.1 = theme.color token.kind ∧ IsSafe part.2 ∧ unescape? part.2 = some token.value)
        parts tokens
  unique :
    ∀ parts others, (∀ part ∈ parts, Delimited part) → (∀ part ∈ others, Delimited part) →
      t = spans parts → t = spans others → parts = others
  decoded : decode? t = some (tokens.map fun token => (theme.color token.kind, token.value))

theorem isMarkupOf_renderTokens
    (theme : Theme) (tokens : List Token) :
    IsMarkupOf theme tokens (renderTokens theme tokens) where
  elements := by
    refine ⟨escaped (colored theme tokens), renderTokens_eq_spans theme tokens, ?_⟩
    induction tokens with
    | nil => exact List.Forall₂.nil
    | cons token tokens ih =>
        refine List.Forall₂.cons ?_ ih
        exact ⟨rfl, isSafe_escape token.value, unescape?_escape token.value⟩
  unique := by
    intro parts others hparts hothers hfirst hsecond
    exact spans_inj hparts hothers (hfirst.symm.trans hsecond)
  decoded := decode?_renderTokens theme tokens

/-- Rendered tokens are safe markup that decodes to their colours and texts, and the
texts in the markup of a source text are that source text. -/
theorem renderTokens_decodes
    (theme : Theme) :
    (∀ tokens, IsMarkupOf theme tokens (renderTokens theme tokens)) ∧
      ∀ v source, ∃ pairs,
        decode? (highlight v theme source) = some pairs ∧ pairs.flatMap Prod.snd = source := by
  refine ⟨isMarkupOf_renderTokens theme, ?_⟩
  intro v source
  refine ⟨colored theme (tokenize v source), decode?_renderTokens theme (tokenize v source), ?_⟩
  have hcovers : Covers (fun _ _ => True) 0 (tokenizeFrom v 0 source) source :=
    tokenizeFrom_covers v (fun _ _ _ => trivial) 0 source
  have hjoined : (tokenize v source).flatMap Token.value = source := hcovers.joined
  rw [colored, List.flatMap_map]
  exact hjoined

end Markup
end TeachingEditor
