import TeachingEditor.Proofs.Completion.Suggestion
import TeachingEditor.Proofs.Text.Sigma

/-!
# Typing a label

Whoever types a label from its beginning should be offered it all the way.  The search
compares what has been typed with the label, both in lower case, so this needs the
lower-case form of a label to begin with that of each of its beginnings.

**Algorithm.**  The form of a label begins with a form of what has been typed, as it stands
in the label, and that has the length of the form which the typed text has by itself
(`lowercase_prefix_iff`).  The two differ only at a capital sigma that ends a word in what
has been typed and does not end one in the label (`keepsSigmas_nil_iff`).

**Results.**
* `typed_prefix_offered`: an item is offered for a beginning of its label exactly if the
  label is not cut right behind such a sigma.
* `typed_sigma_lost`: the smallest label that is lost on the way.
-/

namespace TeachingEditor

namespace Text

/--
A text ends with a capital sigma, and perhaps characters that do not matter for case; the
sigma ends a word there, but the word goes on in the text behind it.
-/
def CutsAtSigma (typed rest : Text) : Prop :=
  ∃ before ignored, typed = before ++ 'Σ' :: ignored ∧ startsCased before.reverse = true ∧
    ¬ DecidesCase ignored ∧ startsCased rest = true

/-- The form of a text begins with that of a beginning of it if this keeps its sigmas. -/
theorem lowercase_prefix_iff
    {typed rest : Text} :
    lowercase typed <+: lowercase (typed ++ rest) ↔ KeepsSigmas [] typed rest := by
  have hwhole : lowercase (typed ++ rest) =
      lowercaseWithin [] typed rest ++ lowercaseWithin typed.reverse rest [] := by
    rw [lowercase_eq, lowercaseWithin_append]
    simp only [List.append_nil]
  have hbegins : lowercaseWithin [] typed rest <+: lowercase (typed ++ rest) := by
    rw [hwhole]
    exact List.prefix_append _ _
  have hlength := length_lowercase [] typed rest
  rw [← lowercaseWithin_eq_lowercase_iff, List.reverse_nil]
  constructor
  · intro hbegin
    have hpart := List.prefix_of_prefix_length_le hbegin hbegins hlength.le
    exact (hpart.eq_of_length hlength).symm
  · intro hsame
    rwa [hsame] at hbegins

/-- In front of a text, sigmas lose their form only where the text goes on with their word. -/
theorem keepsSigmas_nil_iff
    {typed rest : Text} :
    KeepsSigmas [] typed rest ↔ ¬ CutsAtSigma typed rest := by
  constructor
  · rintro hkeeps ⟨before, ignored, htyped, hbefore, hignored, hrest⟩
    have hsame := hkeeps before ignored htyped
    rw [EndsWord, EndsWord, startsCased_append_of_not_decidesCase hignored,
      startsCased_of_not_decidesCase hignored] at hsame
    simp [hbefore, hrest] at hsame
  · intro hwhole before after htyped
    rw [EndsWord, EndsWord, List.reverse_nil, List.append_nil]
    by_cases hdecides : DecidesCase after
    · rw [startsCased_append_of_decidesCase hdecides]
    · -- Only the text behind decides, and it must not make a difference.
      rw [startsCased_append_of_not_decidesCase hdecides, startsCased_of_not_decidesCase hdecides]
      refine and_congr_right ?_
      intro hbefore
      have hrest : startsCased rest = false := by
        by_contra hcased
        exact hwhole
          ⟨before, after, htyped, hbefore, hdecides, Bool.eq_true_of_not_eq_false hcased⟩
      rw [hrest]

end Text

/-- A text without separators is its own last segment. -/
theorem lastSegment_eq_self
    {typed : Text}
    (hunbroken : ∀ c ∈ typed, isSeparator c = false) :
    lastSegment typed = typed := by
  have hsegment := isLastSegment_lastSegment typed
  exact hsegment.suffix.eq_of_length_le
    (hsegment.longest typed (List.suffix_refl typed) hunbroken).length_le

/-- An item alone in its catalog is offered for a text that begins its label, and for no other. -/
theorem suggestionsFor_one
    {item : CompletionItem} {word : Text}
    (hne : word ≠ []) :
    suggestionsFor [item] word =
      if word <+: Text.lowercase item.label then [item] else [] := by
  split
  · next hbegins => exact suggestionsFor_singleton hne hbegins
  · next hother =>
      refine List.eq_nil_iff_forall_not_mem.2 ?_
      intro other hmem
      obtain ⟨hitem, -, hbegins⟩ := mem_suggestionsFor hmem
      rw [List.mem_singleton.1 hitem] at hbegins
      exact hother hbegins

/--
An item is offered for a beginning of its label without separators exactly if the label is
not cut there behind a capital sigma that ends a word in the beginning and not in the label.
If it is, nothing is offered.
-/
theorem typed_prefix_offered
    {item : CompletionItem} {typed rest : Text}
    (hlabel : item.label = typed ++ rest)
    (hne : typed ≠ [])
    (hunbroken : ∀ c ∈ typed, isSeparator c = false) :
    (suggest [item] typed (Text.size typed) = .ok [item] ↔ ¬ Text.CutsAtSigma typed rest) ∧
      (Text.CutsAtSigma typed rest → suggest [item] typed (Text.size typed) = .ok []) := by
  have hword : currentWord typed = Text.lowercase typed := by
    rw [currentWord, lastSegment_eq_self hunbroken]
  have hshown := suggest_size [item] typed []
  rw [List.append_nil, hword, suggestionsFor_one (Text.lowercase_ne_nil hne), hlabel] at hshown
  rw [← Text.keepsSigmas_nil_iff, ← not_not (a := Text.CutsAtSigma typed rest),
    ← Text.keepsSigmas_nil_iff, ← Text.lowercase_prefix_iff, hshown]
  split
  · next hbegins => simp [hbegins]
  · next hother => simp [hother]

/-- A word in capitals that ends with a sigma, in front of a second word. -/
theorem typed_prefix_offered_word :
    let item := plainItem "ΤΕΛΟΣ ΒΡΟΧΟΥ".toList
    item.label = "ΤΕΛΟΣ".toList ++ " ΒΡΟΧΟΥ".toList ∧
      (∀ c ∈ "ΤΕΛΟΣ".toList, isSeparator c = false) ∧
      suggest [item] "ΤΕΛΟΣ".toList 10 = .ok [item] := by
  intro item
  have hlabel : item.label = "ΤΕΛΟΣ".toList ++ " ΒΡΟΧΟΥ".toList := by decide
  have hunbroken : ∀ c ∈ "ΤΕΛΟΣ".toList, isSeparator c = false := by
    intro c hmem
    fin_cases hmem <;> rfl
  refine ⟨hlabel, hunbroken, ?_⟩
  refine (typed_prefix_offered hlabel (by decide) hunbroken).1.2 ?_
  rintro ⟨-, -, -, -, -, hcased⟩
  exact absurd hcased (by decide)

/-- The label `ΑΣΑ` is not offered for `ΑΣ`, where the sigma ends the word. -/
theorem typed_sigma_lost :
    (plainItem "ΑΣΑ".toList).label = "ΑΣ".toList ++ "Α".toList ∧
      (∀ c ∈ "ΑΣ".toList, isSeparator c = false) ∧
      suggest [plainItem "ΑΣΑ".toList] "ΑΣ".toList 4 = .ok [] := by
  have hunbroken : ∀ c ∈ "ΑΣ".toList, isSeparator c = false := by
    intro c hmem
    fin_cases hmem <;> rfl
  refine ⟨by decide, hunbroken, ?_⟩
  refine (suggest_size _ "ΑΣ".toList []).trans (congrArg Except.ok ?_)
  rw [suggestionsFor_one (by decide), if_neg (by decide)]

end TeachingEditor
