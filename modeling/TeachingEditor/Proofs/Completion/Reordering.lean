import TeachingEditor.Proofs.Completion.Ranking

/-!
# The order of a catalog

The author of a catalog puts its items in an order of their own.  This module says how
much of that order the suggestions show.

**Algorithm.**  For every word, the items with one key are those of one kind and one
label (`keyedPart_rankKey`).  So two catalogs in which the items of every kind and label
stand in the same order have, for each key, the same matching items, and a stable sort by
the keys gives the same ranking for both (`suggestionsFor_eq_of_ties`).  It is cut off
after that.

**Results.**
* `suggest_eq_of_ties`: the order of a catalog matters at most among the items of one
  kind and label.
* `suggest_eq_of_perm`: without two such items it does not matter.
-/

namespace TeachingEditor

/-- The items of a catalog with one kind and label. -/
def itemsCalled (kind : CompletionKind) (label : Text) (items : List CompletionItem) :
    List CompletionItem :=
  items.filter fun item => item.kind = kind ∧ item.label = label

/-- The kinds are listed by their ranks. -/
theorem all_getElem?_rank
    (kind : CompletionKind) :
    CompletionKind.all[kind.rank]? = some kind := by
  cases kind <;> rfl

theorem rank_injective :
    Function.Injective CompletionKind.rank := by
  intro a b hrank
  have hkind := all_getElem?_rank a
  rw [hrank, all_getElem?_rank] at hkind
  exact (Option.some.inj hkind).symm

/-- The key of an item holds its kind and its label, and is made of them. -/
theorem rankKey_eq_iff
    {word : Text} {a b : CompletionItem} :
    rankKey word a = rankKey word b ↔ a.kind = b.kind ∧ a.label = b.label := by
  constructor
  · intro hkey
    obtain ⟨-, hbehind⟩ := Prod.mk.inj (toLex.injective hkey)
    obtain ⟨hrank, hlabel⟩ := Prod.mk.inj (toLex.injective hbehind)
    exact ⟨rank_injective hrank, Text.bytes_strictMono.injective hlabel⟩
  · rintro ⟨hkind, hlabel⟩
    rw [rankKey, rankKey, hkind, hlabel]

/-- The items with the key of an item are those of its kind and label. -/
theorem keyedPart_rankKey
    (word : Text) (a : CompletionItem) (items : List CompletionItem) :
    keyedPart (rankKey word) (rankKey word a) items = itemsCalled a.kind a.label items := by
  refine List.filter_congr ?_
  intro b _
  rw [decide_eq_decide]
  exact rankKey_eq_iff

section Ties

variable {items others : List CompletionItem}

theorem keyedPart_eq_of_ties
    (hties : ∀ kind label, itemsCalled kind label items = itemsCalled kind label others)
    (word : Text) (key : ℕ ×ₗ ℕ ×ₗ List ℕ) :
    keyedPart (rankKey word) key items = keyedPart (rankKey word) key others := by
  by_cases hsome : ∃ a, rankKey word a = key
  · obtain ⟨a, rfl⟩ := hsome
    rw [keyedPart_rankKey, keyedPart_rankKey, hties]
  · have hnone : ∀ catalog, keyedPart (rankKey word) key catalog = [] := by
      intro catalog
      rw [List.eq_nil_iff_forall_not_mem]
      intro a ha
      exact hsome ⟨a, (mem_keyedPart.1 ha).2⟩
    rw [hnone, hnone]

theorem suggestionsFor_eq_of_ties
    (hties : ∀ kind label, itemsCalled kind label items = itemsCalled kind label others)
    (word : Text) :
    suggestionsFor items word = suggestionsFor others word := by
  have hsorted :
      (items.filter (·.isOffered word)).mergeSort (CompletionItem.ranksBefore word) =
        (others.filter (·.isOffered word)).mergeSort (CompletionItem.ranksBefore word) := by
    have hcompares : ComparesKeys (rankKey word) (CompletionItem.ranksBefore word) :=
      ranksBefore_iff word
    refine hcompares.mergeSort_eq ?_
    intro key
    have hpart := keyedPart_eq_of_ties hties word key
    rw [keyedPart, keyedPart] at hpart ⊢
    rw [List.filter_comm, hpart, List.filter_comm]
  unfold suggestionsFor
  rw [hsorted]

/--
Two catalogs have the same suggestions everywhere if the items of every kind and label
stand in the same order in both.
-/
theorem suggest_eq_of_ties
    (hties : ∀ kind label, itemsCalled kind label items = itemsCalled kind label others)
    (t : Text) (cursor : ℕ) :
    suggest items t cursor = suggest others t cursor := by
  have hsuggestions : suggestionsFor items = suggestionsFor others :=
    funext (suggestionsFor_eq_of_ties hties)
  rw [suggest, suggest, hsuggestions]

/-- Without ties at most one item has a kind and a label, so reordering leaves it alone. -/
theorem itemsCalled_eq_of_perm
    (hdistinct : items.Pairwise fun a b => ¬ (a.kind = b.kind ∧ a.label = b.label))
    (hperm : items.Perm others)
    (kind : CompletionKind) (label : Text) :
    itemsCalled kind label items = itemsCalled kind label others := by
  have hparts : (itemsCalled kind label items).Perm (itemsCalled kind label others) :=
    hperm.filter _
  have hsame : ∀ a ∈ itemsCalled kind label items, a.kind = kind ∧ a.label = label := by
    intro a ha
    exact of_decide_eq_true (List.mem_filter.1 ha).2
  have hpart :
      (itemsCalled kind label items).Pairwise fun a b => ¬ (a.kind = b.kind ∧ a.label = b.label) :=
    hdistinct.filter _
  match hitems : itemsCalled kind label items with
  | [] =>
      rw [hitems] at hparts
      exact (List.nil_perm.1 hparts).symm
  | [a] =>
      rw [hitems] at hparts
      exact List.singleton_perm.1 hparts
  | a :: b :: rest =>
      rw [hitems] at hpart hsame
      have ha := hsame a List.mem_cons_self
      have hb := hsame b (List.mem_cons_of_mem a List.mem_cons_self)
      have hne := (List.pairwise_cons.1 hpart).1 b List.mem_cons_self
      exact absurd ⟨ha.1.trans hb.1.symm, ha.2.trans hb.2.symm⟩ hne

end Ties

/--
A catalog in which no two items have both the same kind and the same label has, in every
order of its items, the same suggestions for every text and cursor.
-/
theorem suggest_eq_of_perm
    {items others : List CompletionItem}
    (hdistinct : items.Pairwise fun a b => ¬ (a.kind = b.kind ∧ a.label = b.label))
    (hperm : items.Perm others)
    (t : Text) (cursor : ℕ) :
    suggest items t cursor = suggest others t cursor :=
  suggest_eq_of_ties (itemsCalled_eq_of_perm hdistinct hperm) t cursor

/-- Twelve snippets and a keyword for the word `x`, from the last to the first. -/
theorem suggest_eq_of_perm_reverse :
    let snippets := "abcdefghijkl".toList.map fun c =>
      (⟨['x', c], [], [], .snippet, none⟩ : CompletionItem)
    let items := ⟨['x', 'a'], [], [], .keyword, none⟩ :: snippets
    (items.Pairwise fun a b => ¬ (a.kind = b.kind ∧ a.label = b.label)) ∧
      suggest items ['x'] 1 = suggest items.reverse ['x'] 1 := by
  intro snippets items
  have hdistinct : items.Pairwise fun a b => ¬ (a.kind = b.kind ∧ a.label = b.label) := by
    decide
  exact ⟨hdistinct, suggest_eq_of_perm hdistinct (List.reverse_perm items).symm ['x'] 1⟩

end TeachingEditor
