import TeachingEditor.Proofs.Text.Lowercase

/-!
# Lower-casing a part of a text

The lower-case form of a text need not hold that of its parts, because one letter looks
around: the capital sigma has a form of its own at the end of a word.  This module says
when a part is lower-cased within a text as it is by itself.

**Algorithm.**  A text is lower-cased piece by piece, each piece between what precedes
and what follows it (`lowercaseWithin_append`).  Two surroundings give a piece the same
form just when they agree, for each capital sigma in it, on whether it ends a word
(`lowercaseWithin_eq_iff`).  Whether they can disagree is seen from the piece alone: a
letter that matters for case decides everything on its side (`isSettled_iff`).

**Results.**
* `lowercase_around`: the lower-case form of a text with something around it.
* `lowercaseWithin_eq_lowercase_iff`: when a part keeps the form that it has by itself.
* `exists_not_infix_lowercase`: a part with a sigma that is not settled is lost in some
  text that holds it.
-/

namespace TeachingEditor
namespace Text

/-! ## Pieces of a text -/

/-- Lower-case a text between what precedes it, reversed, and what follows it. -/
def lowercaseWithin (preceding : Text) : Text → Text → Text
  | [], _ => []
  | c :: rest, following =>
      lowercaseBetween preceding c (rest ++ following) ++
        lowercaseWithin (c :: preceding) rest following

theorem lowercaseWithin_append
    (preceding s t following : Text) :
    lowercaseWithin preceding (s ++ t) following =
      lowercaseWithin preceding s (t ++ following) ++
        lowercaseWithin (s.reverse ++ preceding) t following := by
  induction s generalizing preceding with
  | nil => rfl
  | cons c s ih =>
      rw [List.cons_append, lowercaseWithin, ih, lowercaseWithin, List.append_assoc]
      rw [List.append_assoc, List.reverse_cons, List.append_assoc, List.singleton_append]

theorem lowercaseAfter_eq
    (preceding t : Text) :
    lowercaseAfter preceding t = lowercaseWithin preceding t [] := by
  induction t generalizing preceding with
  | nil => rfl
  | cons c t ih => rw [lowercaseAfter, lowercaseWithin, ih, List.append_nil]

theorem lowercase_eq
    (t : Text) :
    lowercase t = lowercaseWithin [] t [] :=
  lowercaseAfter_eq [] t

/-- A text is lower-cased in three pieces. -/
theorem lowercase_around
    (a t b : Text) :
    lowercase (a ++ t ++ b) =
      lowercaseWithin [] a (t ++ b) ++ lowercaseWithin a.reverse t b ++
        lowercaseWithin (t.reverse ++ a.reverse) b [] := by
  rw [lowercase_eq, lowercaseWithin_append, lowercaseWithin_append]
  simp only [List.append_nil, List.reverse_append]

/-! ## The capital sigma -/

/-- A capital sigma between two texts, the first in reverse, stands at the end of a word. -/
def EndsWord (preceding following : Text) : Prop :=
  startsCased preceding = true ∧ startsCased following = false

theorem lowercaseBetween_of_endsWord
    {preceding following : Text}
    (hend : EndsWord preceding following) :
    lowercaseBetween preceding 'Σ' following = ['ς'] := by
  refine if_pos ⟨rfl, hend.1, ?_⟩
  rw [hend.2]
  exact Bool.false_ne_true

theorem lowercaseBetween_of_not_endsWord
    {preceding following : Text}
    (hinside : ¬ EndsWord preceding following) :
    lowercaseBetween preceding 'Σ' following = ['σ'] := by
  have hform : lowercaseChar 'Σ' = ['σ'] := by decide
  rw [lowercaseBetween, if_neg, hform]
  rintro ⟨-, hbefore, hafter⟩
  exact hinside ⟨hbefore, Bool.eq_false_iff.2 hafter⟩

/-- The form of a sigma says whether it ends a word. -/
theorem lowercaseBetween_sigma_eq_iff
    {preceding preceding' following following' : Text} :
    lowercaseBetween preceding 'Σ' following = lowercaseBetween preceding' 'Σ' following' ↔
      (EndsWord preceding following ↔ EndsWord preceding' following') := by
  have hforms : ['ς'] ≠ ['σ'] := by decide
  by_cases hend : EndsWord preceding following
  · by_cases hend' : EndsWord preceding' following'
    · simp [lowercaseBetween_of_endsWord, hend, hend']
    · simp [lowercaseBetween_of_endsWord, lowercaseBetween_of_not_endsWord, hend, hend']
  · by_cases hend' : EndsWord preceding' following'
    · simp [lowercaseBetween_of_endsWord, lowercaseBetween_of_not_endsWord, hend, hend']
    · simp [lowercaseBetween_of_not_endsWord, hend, hend']

/-- No other character looks around. -/
theorem lowercaseBetween_of_ne_sigma
    {c : Char}
    (hc : c ≠ 'Σ')
    (preceding following : Text) :
    lowercaseBetween preceding c following = lowercaseChar c := by
  simp [lowercaseBetween, hc]

theorem length_lowercaseBetween
    (preceding : Text) (c : Char) (following : Text) :
    (lowercaseBetween preceding c following).length = (lowercaseChar c).length := by
  by_cases hc : c = 'Σ'
  · subst hc
    have hform : (lowercaseChar 'Σ').length = 1 := by decide
    rw [hform]
    by_cases hend : EndsWord preceding following
    · rw [lowercaseBetween_of_endsWord hend, List.length_singleton]
    · rw [lowercaseBetween_of_not_endsWord hend, List.length_singleton]
  · rw [lowercaseBetween_of_ne_sigma hc]

/-- What stands around a text does not change the length of its lower-case form. -/
theorem length_lowercaseWithin
    (preceding t following : Text) :
    (lowercaseWithin preceding t following).length = (t.flatMap lowercaseChar).length := by
  induction t generalizing preceding with
  | nil => rfl
  | cons c t ih =>
      rw [lowercaseWithin, List.length_append, length_lowercaseBetween, ih]
      rw [List.flatMap_cons, List.length_append]

/--
Two surroundings give a text the same lower-case form just when they agree on which of its
capital sigmas end a word.
-/
theorem lowercaseWithin_eq_iff
    (preceding preceding' t following following' : Text) :
    lowercaseWithin preceding t following = lowercaseWithin preceding' t following' ↔
      ∀ before after, t = before ++ 'Σ' :: after →
        (EndsWord (before.reverse ++ preceding) (after ++ following) ↔
          EndsWord (before.reverse ++ preceding') (after ++ following')) := by
  induction t generalizing preceding preceding' with
  | nil => simp [lowercaseWithin]
  | cons c t ih =>
      have hparts :
          lowercaseWithin preceding (c :: t) following =
              lowercaseWithin preceding' (c :: t) following' ↔
            lowercaseBetween preceding c (t ++ following) =
                lowercaseBetween preceding' c (t ++ following') ∧
              lowercaseWithin (c :: preceding) t following =
                lowercaseWithin (c :: preceding') t following' := by
        have hlength :=
          (length_lowercaseBetween preceding c (t ++ following)).trans
            (length_lowercaseBetween preceding' c (t ++ following')).symm
        rw [lowercaseWithin, lowercaseWithin]
        exact ⟨fun h => List.append_inj h hlength, fun h => congrArg₂ _ h.1 h.2⟩
      rw [hparts, ih]
      constructor
      · rintro ⟨hfirst, hrest⟩ before after hsplit
        cases before with
        | nil =>
            obtain ⟨rfl, rfl⟩ := List.cons.inj hsplit
            exact lowercaseBetween_sigma_eq_iff.1 hfirst
        | cons d before =>
            obtain ⟨rfl, htail⟩ := List.cons.inj hsplit
            simpa using hrest before after htail
      · intro hagree
        constructor
        · by_cases hc : c = 'Σ'
          · subst hc
            exact lowercaseBetween_sigma_eq_iff.2 (hagree [] t rfl)
          · rw [lowercaseBetween_of_ne_sigma hc, lowercaseBetween_of_ne_sigma hc]
        · intro before after hsplit
          have hlater := hagree (c :: before) after (congrArg (List.cons c) hsplit)
          simpa using hlater

/-- Every capital sigma of a text has the same form between two others as it has alone. -/
def KeepsSigmas (a t b : Text) : Prop :=
  ∀ before after, t = before ++ 'Σ' :: after →
    (EndsWord (before.reverse ++ a.reverse) (after ++ b) ↔ EndsWord before.reverse after)

theorem lowercaseWithin_eq_lowercase_iff
    (a t b : Text) :
    lowercaseWithin a.reverse t b = lowercase t ↔ KeepsSigmas a t b := by
  rw [lowercase_eq, lowercaseWithin_eq_iff]
  simp only [List.append_nil, KeepsSigmas]

/-- A part that keeps its sigmas is found in lower case where it stands. -/
theorem lowercase_infix_of_keepsSigmas
    {a t b : Text}
    (hkeeps : KeepsSigmas a t b) :
    lowercase t <:+: lowercase (a ++ t ++ b) := by
  rw [lowercase_around, (lowercaseWithin_eq_lowercase_iff a t b).2 hkeeps]
  exact List.infix_append _ _ _

/-! ## Settled sigmas -/

/-- Some character of a text matters for case. -/
def DecidesCase (t : Text) : Prop :=
  ∃ c ∈ t, isCaseIgnorable c = false

instance (t : Text) : Decidable (DecidesCase t) :=
  decidable_of_iff (t.any (fun c => ! isCaseIgnorable c) = true) (by simp [DecidesCase])

/-- The first character that matters decides, whatever stands behind it. -/
theorem startsCased_append_of_decidesCase
    {s : Text}
    (hs : DecidesCase s)
    (t : Text) :
    startsCased (s ++ t) = startsCased s := by
  obtain ⟨c, hc, hmatters⟩ := hs
  induction s with
  | nil => cases hc
  | cons d s ih =>
      rw [List.cons_append, startsCased, startsCased]
      cases hd : isCaseIgnorable d with
      | false => rfl
      | true =>
          rcases List.mem_cons.1 hc with rfl | hc
          · rw [hmatters] at hd
            cases hd
          · exact ih hc

/-- A text of which no character matters is passed over. -/
theorem startsCased_append_of_not_decidesCase
    {s : Text}
    (hs : ¬ DecidesCase s)
    (t : Text) :
    startsCased (s ++ t) = startsCased t := by
  induction s with
  | nil => rfl
  | cons d s ih =>
      have hd : isCaseIgnorable d = true := by
        by_contra hmatters
        exact hs ⟨d, List.mem_cons_self, Bool.eq_false_iff.2 hmatters⟩
      have hrest : ¬ DecidesCase s := by
        rintro ⟨c, hc, hmatters⟩
        exact hs ⟨c, List.mem_cons_of_mem d hc, hmatters⟩
      rw [List.cons_append, startsCased, if_pos hd, ih hrest]

theorem startsCased_of_not_decidesCase
    {s : Text}
    (hs : ¬ DecidesCase s) :
    startsCased s = false := by
  have happ := startsCased_append_of_not_decidesCase hs []
  rwa [List.append_nil] at happ

theorem decidesCase_of_startsCased
    {s : Text}
    (hs : startsCased s = true) :
    DecidesCase s := by
  by_contra hnone
  rw [startsCased_of_not_decidesCase hnone] at hs
  cases hs

/--
The texts around a capital sigma, the first in reverse, settle its form: a cased letter
follows; or a character in front matters that has no case; or characters matter on both
sides.
-/
def IsSettled (preceding following : Text) : Prop :=
  startsCased following = true ∨
    (DecidesCase preceding ∧ (startsCased preceding = false ∨ DecidesCase following))

/-- A settled sigma keeps its form in every text. -/
theorem IsSettled.endsWord_iff
    {preceding following : Text}
    (hsettled : IsSettled preceding following)
    (a b : Text) :
    EndsWord (preceding ++ a) (following ++ b) ↔ EndsWord preceding following := by
  rcases hsettled with hcased | ⟨hbefore, hplain | hafter⟩
  · simp [EndsWord, startsCased_append_of_decidesCase (decidesCase_of_startsCased hcased), hcased]
  · simp [EndsWord, startsCased_append_of_decidesCase hbefore, hplain]
  · simp [EndsWord, startsCased_append_of_decidesCase hbefore,
      startsCased_append_of_decidesCase hafter]

/-- The form of a sigma that is not settled changes with a letter in front or behind. -/
theorem endsWord_of_not_isSettled
    {preceding following : Text}
    (hopen : ¬ IsSettled preceding following) :
    (∀ letter, startsCased [letter] = true →
        ¬ (EndsWord (preceding ++ [letter]) following ↔ EndsWord preceding following)) ∨
      ∀ letter, startsCased [letter] = true →
        ¬ (EndsWord preceding (following ++ [letter]) ↔ EndsWord preceding following) := by
  simp only [IsSettled, not_or, not_and, Bool.not_eq_true, Bool.not_eq_false] at hopen
  obtain ⟨hplain, hopen⟩ := hopen
  by_cases hbefore : DecidesCase preceding
  · obtain ⟨hcased, hafter⟩ := hopen hbefore
    right
    intro letter hletter
    simp [EndsWord, startsCased_append_of_not_decidesCase hafter, hcased, hplain, hletter]
  · left
    intro letter hletter
    simp [EndsWord, startsCased_append_of_not_decidesCase hbefore,
      startsCased_of_not_decidesCase hbefore, hplain, hletter]

/-- Every capital sigma of a text is settled by the characters of the text. -/
def HasSettledSigmas (t : Text) : Prop :=
  ∀ before after, t = before ++ 'Σ' :: after → IsSettled before.reverse after

instance (preceding following : Text) : Decidable (IsSettled preceding following) :=
  inferInstanceAs (Decidable (startsCased following = true ∨
    (DecidesCase preceding ∧ (startsCased preceding = false ∨ DecidesCase following))))

theorem hasSettledSigmas_iff_forall_lt
    {t : Text} :
    HasSettledSigmas t ↔
      ∀ i < t.length, t[i]? = some 'Σ' → IsSettled (t.take i).reverse (t.drop (i + 1)) := by
  constructor
  · intro hsettled i _ hsigma
    obtain ⟨hlt, hget⟩ := List.getElem?_eq_some_iff.1 hsigma
    refine hsettled (t.take i) (t.drop (i + 1)) ?_
    rw [← hget, ← List.drop_eq_getElem_cons hlt, List.take_append_drop]
  · rintro hsettled before after rfl
    have hplace := hsettled before.length (by simp) (by simp)
    have hnone : before.drop (before.length + 1) = [] :=
      List.drop_eq_nil_of_le (Nat.le_succ before.length)
    simpa [List.drop_append, hnone] using hplace

instance (t : Text) : Decidable (HasSettledSigmas t) :=
  decidable_of_iff _ hasSettledSigmas_iff_forall_lt.symm

/-! ## A part that is lost -/

/-- One of two letters differs from a character that may be there. -/
theorem exists_letter_ne
    (next : Option Char) :
    ∃ letter, next ≠ some letter ∧ startsCased [letter] = true ∧
      ∀ preceding following, lowercaseBetween preceding letter following = [letter] := by
  have hforms : lowercaseChar 'a' = ['a'] ∧ lowercaseChar 'b' = ['b'] := by decide
  by_cases hnext : next = some 'a'
  · refine ⟨'b', ?_, by decide, ?_⟩
    · rw [hnext]
      decide
    · intro preceding following
      rw [lowercaseBetween_of_ne_sigma (by decide), hforms.2]
  · refine ⟨'a', hnext, by decide, ?_⟩
    intro preceding following
    rw [lowercaseBetween_of_ne_sigma (by decide), hforms.1]

/-- A text in front of which one letter stands holds no other text of its length, unless that
begins with the letter. -/
theorem eq_of_infix_cons
    {s t : Text} {letter : Char}
    (hpart : s <:+: letter :: t)
    (hlength : s.length = t.length)
    (hne : s ≠ [])
    (hhead : s.head? ≠ some letter) :
    s = t := by
  rcases List.infix_cons_iff.1 hpart with hstart | hpart
  · obtain ⟨c, rest, rfl⟩ := List.exists_cons_of_ne_nil hne
    exact absurd (congrArg some (List.cons_prefix_cons.1 hstart).1) hhead
  · exact hpart.eq_of_length hlength

/-- The same for one letter behind a text. -/
theorem eq_of_infix_concat
    {s t : Text} {letter : Char}
    (hpart : s <:+: t ++ [letter])
    (hlength : s.length = t.length)
    (hne : s ≠ [])
    (hlast : s.getLast? ≠ some letter) :
    s = t := by
  have hreverse : s.reverse <:+: letter :: t.reverse := by
    rw [← List.reverse_concat', List.reverse_infix]
    exact hpart
  refine List.reverse_injective (eq_of_infix_cons hreverse ?_ ?_ ?_)
  · rw [List.length_reverse, List.length_reverse, hlength]
  · rwa [Ne, List.reverse_eq_nil_iff]
  · rwa [List.head?_reverse]

theorem lowercase_ne_nil
    {t : Text}
    (hne : t ≠ []) :
    lowercase t ≠ [] := by
  have hpos := List.length_pos_iff.2 hne
  have hle := length_le_lowercase t
  exact List.length_pos_iff.1 (hpos.trans_le hle)

theorem length_lowercase
    (preceding t following : Text) :
    (lowercase t).length = (lowercaseWithin preceding t following).length := by
  rw [lowercase_eq, length_lowercaseWithin, length_lowercaseWithin]

/-- A text is lost behind a letter that changes its sigmas and does not begin its form. -/
theorem not_infix_behind_letter
    {t : Text} {letter : Char}
    (hne : t ≠ [])
    (hhead : (lowercase t).head? ≠ some letter)
    (hform : ∀ preceding following, lowercaseBetween preceding letter following = [letter])
    (hchanged : ¬ KeepsSigmas [letter] t []) :
    ¬ lowercase t <:+: lowercase ([letter] ++ t ++ []) := by
  intro hpart
  have haround := lowercase_around [letter] t []
  simp only [lowercaseWithin, hform, List.append_nil, List.reverse_singleton,
    List.singleton_append] at haround hpart
  rw [haround] at hpart
  have hsame := eq_of_infix_cons hpart (length_lowercase _ _ _) (lowercase_ne_nil hne) hhead
  exact hchanged ((lowercaseWithin_eq_lowercase_iff [letter] t []).1 hsame.symm)

/-- A text is lost in front of a letter that changes its sigmas and does not end its form. -/
theorem not_infix_before_letter
    {t : Text} {letter : Char}
    (hne : t ≠ [])
    (hlast : (lowercase t).getLast? ≠ some letter)
    (hform : ∀ preceding following, lowercaseBetween preceding letter following = [letter])
    (hchanged : ¬ KeepsSigmas [] t [letter]) :
    ¬ lowercase t <:+: lowercase ([] ++ t ++ [letter]) := by
  intro hpart
  have haround := lowercase_around [] t [letter]
  simp only [lowercaseWithin, hform, List.append_nil, List.nil_append, List.reverse_nil]
    at haround hpart
  rw [haround] at hpart
  have hsame := eq_of_infix_concat hpart (length_lowercase _ _ _) (lowercase_ne_nil hne) hlast
  exact hchanged ((lowercaseWithin_eq_lowercase_iff [] t [letter]).1 hsame.symm)

/-- A text with a sigma that it does not settle is not found in lower case in some text. -/
theorem exists_not_infix_lowercase
    {t : Text}
    (hopen : ¬ HasSettledSigmas t) :
    ∃ a b, ¬ lowercase t <:+: lowercase (a ++ t ++ b) := by
  simp only [HasSettledSigmas, not_forall] at hopen
  obtain ⟨before, after, rfl, hopen⟩ := hopen
  have hne : before ++ 'Σ' :: after ≠ [] := by simp
  -- The letter that changes the form must not make up for it at the other end.
  rcases endsWord_of_not_isSettled hopen with hfront | hback
  · obtain ⟨letter, hhead, hcased, hform⟩ :=
      exists_letter_ne (lowercase (before ++ 'Σ' :: after)).head?
    refine ⟨[letter], [], not_infix_behind_letter hne hhead hform ?_⟩
    intro hkeeps
    exact hfront letter hcased (by simpa using hkeeps before after rfl)
  · obtain ⟨letter, hlast, hcased, hform⟩ :=
      exists_letter_ne (lowercase (before ++ 'Σ' :: after)).getLast?
    refine ⟨[], [letter], not_infix_before_letter hne hlast hform ?_⟩
    intro hkeeps
    exact hback letter hcased (by simpa using hkeeps before after rfl)

/-- Exactly the settled sigmas keep their form everywhere. -/
theorem keepsSigmas_iff
    {t : Text} :
    (∀ a b, KeepsSigmas a t b) ↔ HasSettledSigmas t := by
  constructor
  · intro hkeeps
    by_contra hopen
    obtain ⟨a, b, hlost⟩ := exists_not_infix_lowercase hopen
    exact hlost (lowercase_infix_of_keepsSigmas (hkeeps a b))
  · intro hsettled a b before after hsplit
    exact (hsettled before after hsplit).endsWord_iff a.reverse b

end Text
end TeachingEditor
