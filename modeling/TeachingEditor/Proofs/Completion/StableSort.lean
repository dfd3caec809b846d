import Mathlib

/-!
# Stable sorts by a key

A list is put in order by comparing keys, and elements with one key are left as they
stood.  This module says what such a sort makes of a list, for keys in any linear order.

**Algorithm.**  The elements with one key form a part of the list that is in order
already, so a stable sort keeps that part (`ComparesKeys.keyedPart_mergeSort`).  A sorted
list is made of these parts, one behind the other, and so is determined by them
(`eq_of_keyed_parts`).

**Results.**
* `ComparesKeys.pair_sublist`: of two elements with one key the first one has stood in
  front.
* `ComparesKeys.mergeSort_eq`: lists in which the elements of every key stand in the same
  order are sorted alike.
-/

namespace TeachingEditor

variable {α κ : Type*} [LinearOrder κ]

/-- A comparison of elements that is one of their keys. -/
def ComparesKeys (key : α → κ) (before : α → α → Bool) : Prop :=
  ∀ a b, before a b = true ↔ key a ≤ key b

/-- The elements of a list with one key. -/
def keyedPart (key : α → κ) (k : κ) (xs : List α) : List α :=
  xs.filter fun a => key a = k

theorem keyedPart_cons_self
    (key : α → κ) (a : α) (xs : List α) :
    keyedPart key (key a) (a :: xs) = a :: keyedPart key (key a) xs :=
  List.filter_cons_of_pos (decide_eq_true rfl)

theorem keyedPart_cons_of_ne
    {key : α → κ} {k : κ} {a : α}
    (hne : key a ≠ k)
    (xs : List α) :
    keyedPart key k (a :: xs) = keyedPart key k xs :=
  List.filter_cons_of_neg (by simpa using hne)

theorem mem_keyedPart
    {key : α → κ} {k : κ} {a : α} {xs : List α} :
    a ∈ keyedPart key k xs ↔ a ∈ xs ∧ key a = k := by
  rw [keyedPart, List.mem_filter, decide_eq_true_iff]

theorem mem_iff_of_keyed_parts
    {key : α → κ} {xs ys : List α}
    (hparts : ∀ k, keyedPart key k xs = keyedPart key k ys)
    (c : α) :
    c ∈ xs ↔ c ∈ ys := by
  have hpart : c ∈ keyedPart key (key c) xs ↔ c ∈ keyedPart key (key c) ys := by
    rw [hparts]
  simpa [mem_keyedPart] using hpart

/-- Sorted lists with the same elements of every key, in the same order, are equal. -/
theorem eq_of_keyed_parts
    {key : α → κ} {xs ys : List α}
    (hxs : xs.Pairwise fun a b => key a ≤ key b)
    (hys : ys.Pairwise fun a b => key a ≤ key b)
    (hparts : ∀ k, keyedPart key k xs = keyedPart key k ys) :
    xs = ys := by
  induction xs generalizing ys with
  | nil =>
      cases ys with
      | nil => rfl
      | cons b ys =>
          have hb := (mem_iff_of_keyed_parts hparts b).2 List.mem_cons_self
          exact absurd hb List.not_mem_nil
  | cons a xs ih =>
      cases ys with
      | nil =>
          have ha := (mem_iff_of_keyed_parts hparts a).1 List.mem_cons_self
          exact absurd ha List.not_mem_nil
      | cons b ys =>
          rw [List.pairwise_cons] at hxs hys
          -- Both lists begin with an element of the least key, and so with the same one.
          have hab : key a ≤ key b := by
            have hmem := (mem_iff_of_keyed_parts hparts b).2 List.mem_cons_self
            rcases List.mem_cons.1 hmem with rfl | hb
            · exact le_rfl
            · exact hxs.1 b hb
          have hba : key b ≤ key a := by
            have hmem := (mem_iff_of_keyed_parts hparts a).1 List.mem_cons_self
            rcases List.mem_cons.1 hmem with rfl | ha
            · exact le_rfl
            · exact hys.1 a ha
          have hkey : key b = key a := le_antisymm hba hab
          have hfirst := hparts (key a)
          rw [keyedPart_cons_self, ← hkey, keyedPart_cons_self] at hfirst
          obtain ⟨rfl, -⟩ := List.cons.inj hfirst
          have htails : ∀ k, keyedPart key k xs = keyedPart key k ys := by
            intro k
            have hpart := hparts k
            by_cases hk : key a = k
            · subst hk
              rw [keyedPart_cons_self, keyedPart_cons_self] at hpart
              exact (List.cons.inj hpart).2
            · rwa [keyedPart_cons_of_ne hk, keyedPart_cons_of_ne hk] at hpart
          rw [ih hxs.2 hys.2 htails]

namespace ComparesKeys

variable {key : α → κ} {before : α → α → Bool}

theorem trans
    (h : ComparesKeys key before)
    (a b c : α)
    (hab : before a b = true)
    (hbc : before b c = true) :
    before a c = true := by
  rw [h] at hab hbc ⊢
  exact hab.trans hbc

theorem total
    (h : ComparesKeys key before)
    (a b : α) :
    (before a b || before b a) = true := by
  rw [Bool.or_eq_true, h, h]
  exact le_total _ _

theorem pairwise_mergeSort
    (h : ComparesKeys key before)
    (xs : List α) :
    (xs.mergeSort before).Pairwise fun a b => key a ≤ key b :=
  (List.pairwise_mergeSort h.trans h.total xs).imp fun hab => (h _ _).1 hab

/-- The elements with one key are left as they stood. -/
theorem keyedPart_mergeSort
    (h : ComparesKeys key before)
    (k : κ) (xs : List α) :
    keyedPart key k (xs.mergeSort before) = keyedPart key k xs := by
  have hequal : (keyedPart key k xs).Pairwise fun a b => before a b = true := by
    refine List.pairwise_of_forall_mem_list ?_
    intro a ha b hb
    rw [h, (mem_keyedPart.1 ha).2, (mem_keyedPart.1 hb).2]
  have hsublist :=
    (List.sublist_mergeSort h.trans h.total hequal List.filter_sublist).filter
      fun a => decide (key a = k)
  rw [keyedPart, List.filter_filter] at hsublist
  simp only [Bool.and_self] at hsublist
  have hlength :=
    ((List.mergeSort_perm xs before).filter fun a => decide (key a = k)).length_eq
  exact (hsublist.eq_of_length hlength.symm).symm

/-- Of two elements with one key the first one has stood in front. -/
theorem pair_sublist
    {a b : α} {xs : List α}
    (h : ComparesKeys key before)
    (hpair : [a, b].Sublist (xs.mergeSort before))
    (hkey : key a = key b) :
    [a, b].Sublist xs := by
  have hkept :
      (keyedPart key (key b) [a, b]).Sublist (keyedPart key (key b) (xs.mergeSort before)) :=
    hpair.filter _
  rw [h.keyedPart_mergeSort] at hkept
  have hboth : keyedPart key (key b) [a, b] = [a, b] := by
    simp [keyedPart, hkey]
  rw [hboth] at hkept
  exact hkept.trans List.filter_sublist

/-- Lists in which the elements of every key stand in the same order are sorted alike. -/
theorem mergeSort_eq
    {xs ys : List α}
    (h : ComparesKeys key before)
    (hparts : ∀ k, keyedPart key k xs = keyedPart key k ys) :
    xs.mergeSort before = ys.mergeSort before := by
  refine eq_of_keyed_parts (h.pairwise_mergeSort xs) (h.pairwise_mergeSort ys) ?_
  intro k
  rw [h.keyedPart_mergeSort, h.keyedPart_mergeSort, hparts]

end ComparesKeys
end TeachingEditor
