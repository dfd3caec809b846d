import TeachingEditor.Proofs.Completion.StableSort
import TeachingEditor.Proofs.Completion.Suggestion
import TeachingEditor.Proofs.Text.ByteOrder

/-!
# The order of suggestions

Suggestions are the matching items of a catalog, sorted and cut off.  This module says
which items they are and in which order without sorting anything: every matching item
has a key, keys are in a total order, and the suggestions are the items with the
smallest keys.

**Format.**  The key of an item for a word puts a label that is the word in lower case
first, then the rank of the kind, then the bytes of the label, then the place in the
catalog.  Two places of a catalog never have the same key.

**Algorithm.**  An item may stand before another one when the first three parts of its
key are not larger (`ranksBefore_iff`), so the sort is one by these parts.  The places in
the catalog take part in it without being looked at: the sort is stable, and two items
with the same parts are left as they stood (`ComparesKeys.pair_sublist`).

**Results.**
* `sorted_places`: sorting items in the order of their places puts them in the order of
  their keys.
* `suggest_best_first`: the suggestions at a cursor are the matching items with the
  smallest keys, in the order of their keys, and nothing behind the cursor is looked at.
-/

namespace TeachingEditor

/-! ## Keys -/

/-- An item of a catalog, with its place. -/
abbrev Placed := CompletionItem × ℕ

/-- The parts of a key that an item has for a word wherever it stands. -/
def rankKey (word : Text) (item : CompletionItem) : ℕ ×ₗ ℕ ×ₗ List ℕ :=
  toLex (if Text.lowercase item.label = word then 0 else 1,
    toLex (item.kind.rank, Text.bytes item.label))

/-- The key of a placed item for a word. -/
def placeKey (word : Text) (entry : Placed) : (ℕ ×ₗ ℕ ×ₗ List ℕ) ×ₗ ℕ :=
  toLex (rankKey word entry.1, entry.2)

/-- The order of the sort is that of the keys. -/
theorem ranksBefore_iff
    (word : Text) (a b : CompletionItem) :
    a.ranksBefore word b = true ↔ rankKey word a ≤ rankKey word b := by
  have hbehind :
      (if a.kind.rank ≠ b.kind.rank then decide (a.kind.rank < b.kind.rank)
        else ! decide (b.label < a.label)) = true ↔
      toLex (a.kind.rank, Text.bytes a.label) ≤ toLex (b.kind.rank, Text.bytes b.label) := by
    rw [Prod.Lex.toLex_le_toLex, Text.bytes_strictMono.le_iff_le]
    by_cases hrank : a.kind.rank = b.kind.rank
    · simp [hrank]
    · simp [hrank]
  rw [rankKey, rankKey, Prod.Lex.toLex_le_toLex, ← hbehind]
  unfold CompletionItem.ranksBefore CompletionItem.isExact
  by_cases ha : Text.lowercase a.label = word
  · by_cases hb : Text.lowercase b.label = word <;> simp [ha, hb]
  · by_cases hb : Text.lowercase b.label = word <;> simp [ha, hb]

theorem placeKey_lt_iff
    (word : Text) (a b : Placed) :
    placeKey word a < placeKey word b ↔
      rankKey word a.1 < rankKey word b.1 ∨
        rankKey word a.1 = rankKey word b.1 ∧ a.2 < b.2 :=
  Prod.Lex.toLex_lt_toLex

/-! ## Sorting placed items -/

section Sorting

variable (word : Text)

/-- The comparison of the sort, for items in their places. -/
def standsBefore (a b : Placed) : Bool :=
  a.1.ranksBefore word b.1

theorem standsBefore_iff
    {a b : Placed} :
    standsBefore word a b = true ↔ rankKey word a.1 ≤ rankKey word b.1 :=
  ranksBefore_iff word a.1 b.1

theorem comparesKeys_standsBefore :
    ComparesKeys (fun entry : Placed => rankKey word entry.1) (standsBefore word) :=
  fun _ _ => standsBefore_iff word

/-- A sort of items in the order of their places is one by their keys. -/
theorem sorted_places
    {entries : List Placed}
    (hplaces : entries.Pairwise fun a b => a.2 < b.2) :
    (entries.mergeSort (standsBefore word)).Pairwise
      fun a b => placeKey word a < placeKey word b := by
  have hcompares := comparesKeys_standsBefore word
  have hsorted := hcompares.pairwise_mergeSort entries
  rw [List.pairwise_iff_forall_sublist] at hsorted ⊢
  intro a b hpair
  rw [placeKey_lt_iff]
  rcases (hsorted hpair).lt_or_eq with hlt | heq
  · exact Or.inl hlt
  · refine Or.inr ⟨heq, ?_⟩
    -- Of two equal keys the sort has left the one in front that stood in front.
    exact List.pairwise_iff_forall_sublist.1 hplaces (hcompares.pair_sublist hpair heq)

end Sorting

/-! ## The best suggestions -/

/-- An item of a catalog in its place whose label begins with a word, but for its case. -/
def Matches (items : List CompletionItem) (word : Text) (entry : Placed) : Prop :=
  items[entry.2]? = some entry.1 ∧ word <+: Text.lowercase entry.1.label

/--
The matching items with the smallest keys, in the order of their keys: all of them, or
ten if there are more.
-/
structure BestFirst (items : List CompletionItem) (word : Text) (chosen : List Placed) :
    Prop where
  matching : ∀ entry ∈ chosen, Matches items word entry
  places : (chosen.map Prod.snd).Nodup
  increasing : chosen.Pairwise fun a b => placeKey word a < placeKey word b
  length :
    chosen.length = min 10 (items.countP fun item => word <+: Text.lowercase item.label)
  best :
    ∀ entry, Matches items word entry → entry ∉ chosen →
      ∀ shown ∈ chosen, placeKey word shown < placeKey word entry

/-- The matching items in their places, in the order of the catalog. -/
def matchesIn (items : List CompletionItem) (word : Text) : List Placed :=
  items.zipIdx.filter fun entry => entry.1.isOffered word

section Matching

variable (items : List CompletionItem) (word : Text)

theorem mem_matchesIn
    {entry : Placed} :
    entry ∈ matchesIn items word ↔ Matches items word entry := by
  rw [matchesIn, List.mem_filter, List.mem_zipIdx_iff_getElem?]
  exact and_congr_right fun _ => List.isPrefixOf_iff_prefix

theorem map_fst_matchesIn :
    (matchesIn items word).map Prod.fst = items.filter (·.isOffered word) := by
  rw [matchesIn, ← List.zipIdx_map_fst 0 items, List.filter_map, List.zipIdx_map_fst]
  rfl

theorem length_matchesIn :
    (matchesIn items word).length =
      items.countP fun item => word <+: Text.lowercase item.label := by
  rw [← List.length_map Prod.fst, map_fst_matchesIn, ← List.countP_eq_length_filter]
  refine List.countP_congr ?_
  intro item _
  rw [decide_eq_true_iff]
  exact List.isPrefixOf_iff_prefix

theorem matchesIn_places :
    (matchesIn items word).Pairwise fun a b => a.2 < b.2 := by
  have hplaces : items.zipIdx.Pairwise fun a b => a.2 < b.2 := by
    rw [← List.pairwise_map, List.zipIdx_map_snd]
    exact List.pairwise_lt_range'
  exact hplaces.filter _

/-- The matching items in the order of their keys. -/
def ranking : List Placed :=
  (matchesIn items word).mergeSort (standsBefore word)

theorem mem_ranking
    {entry : Placed} :
    entry ∈ ranking items word ↔ Matches items word entry := by
  rw [← mem_matchesIn]
  exact (List.mergeSort_perm _ _).mem_iff

theorem ranking_sorted :
    (ranking items word).Pairwise fun a b => placeKey word a < placeKey word b :=
  sorted_places word (matchesIn_places items word)

theorem ranking_places :
    ((ranking items word).map Prod.snd).Nodup := by
  have hplaces : ((matchesIn items word).map Prod.snd).Nodup := by
    rw [List.Nodup, List.pairwise_map]
    exact (matchesIn_places items word).imp Nat.ne_of_lt
  exact ((List.mergeSort_perm _ _).map Prod.snd).nodup_iff.2 hplaces

/-- The first ten of the ranking are the best. -/
theorem bestFirst_take_ranking :
    BestFirst items word ((ranking items word).take 10) where
  matching := by
    intro entry hentry
    exact (mem_ranking items word).1 (List.mem_of_mem_take hentry)
  places := (ranking_places items word).sublist ((List.take_sublist 10 _).map Prod.snd)
  increasing := (ranking_sorted items word).sublist (List.take_sublist 10 _)
  length := by
    rw [List.length_take, ← length_matchesIn]
    exact congrArg (min 10) (List.mergeSort_perm _ _).length_eq
  best := by
    intro entry hentry hout shown hshown
    have hsorted := ranking_sorted items word
    have hranked := (mem_ranking items word).2 hentry
    rw [← List.take_append_drop 10 (ranking items word)] at hsorted hranked
    have hbehind := (List.mem_append.1 hranked).resolve_left hout
    exact (List.pairwise_append.1 hsorted).2.2 shown hshown entry hbehind

/-- The suggestions for a word are the items with the smallest keys. -/
theorem suggestionsFor_eq
    {word : Text}
    (hne : word ≠ []) :
    suggestionsFor items word = ((ranking items word).take 10).map Prod.fst := by
  have hitems :
      (ranking items word).map Prod.fst =
        (items.filter (·.isOffered word)).mergeSort (CompletionItem.ranksBefore word) := by
    rw [← map_fst_matchesIn]
    exact List.map_mergeSort fun _ _ _ _ => rfl
  rw [List.map_take, hitems, suggestionsFor, if_neg (mt List.isEmpty_iff.1 hne)]
  rfl

end Matching

/--
The suggestions at a cursor, for the longest text before it without a separator: none if
that is empty, and else the matching items with the smallest keys, best first.  They are
the same whatever stands behind the cursor.
-/
theorem suggest_best_first
    (items : List CompletionItem) (before : Text) :
    ∃ segment chosen,
      IsLastSegment before segment ∧
      (Text.lowercase segment = [] → chosen = []) ∧
      (Text.lowercase segment ≠ [] → BestFirst items (Text.lowercase segment) chosen) ∧
      ∀ after, suggest items (before ++ after) (Text.size before) = .ok (chosen.map Prod.fst) := by
  by_cases hempty : currentWord before = []
  · refine ⟨lastSegment before, [], isLastSegment_lastSegment before, ?_, ?_, ?_⟩
    · exact fun _ => rfl
    · exact fun hne => absurd hempty hne
    · intro after
      rw [suggest_size, suggestionsFor, hempty]
      rfl
  · refine ⟨lastSegment before, (ranking items (currentWord before)).take 10,
      isLastSegment_lastSegment before, ?_, ?_, ?_⟩
    · exact fun hnone => absurd hnone hempty
    · exact fun _ => bestFirst_take_ranking items (currentWord before)
    · intro after
      rw [suggest_size, suggestionsFor_eq items hempty]

end TeachingEditor
