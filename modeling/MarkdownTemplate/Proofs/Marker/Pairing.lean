import MarkdownTemplate.Proofs.Keys
import MarkdownTemplate.Proofs.Marker.Pieces

/-!
# Pairs of block markers

Which markers enclose a block is a matter of the list of markers alone. A closing marker belongs to
the last opening marker before it that no earlier closing marker has taken, provided that it has the
name of that marker or no name. `blockPairs` lists the pairs in the order of their opening markers.

* `pairsBack_cons` and `mem_pairsBack_cons`: what one more marker does;
* `count_opening_add_count_unpaired`: each opening marker is in one pair or in none;
* `unpaired_not_inside`: no pair encloses an opening marker without a pair.
-/

namespace MarkdownTemplate

/-- Whether the marker opens a block: its kind is `.opening` and its name is not empty. -/
def Marker.opensBlock (marker : Marker) : Bool :=
  marker.kind == .opening && marker.name != ""

/-- Whether the marker closes a block of the given name: its kind is `.closing`, and its name is
that name or empty. -/
def Marker.closesBlock (marker : Marker) (name : String) : Bool :=
  marker.kind == .closing && (marker.name == "" || marker.name == name)

theorem Marker.opensBlock_iff {marker : Marker} :
    marker.opensBlock = true ↔ marker.kind = .opening ∧ marker.name ≠ "" := by
  simp [opensBlock]

theorem Marker.closesBlock_iff {marker : Marker} {name : String} :
    marker.closesBlock name = true ↔
      marker.kind = .closing ∧ (marker.name = "" ∨ marker.name = name) := by
  simp [closesBlock]

theorem Marker.closesBlock_eq_false_of_opensBlock {marker : Marker}
    (h : marker.opensBlock = true) (name : String) : marker.closesBlock name = false := by
  simp [Marker.closesBlock, (Marker.opensBlock_iff.mp h).1]

theorem Marker.opensBlock_eq_false_of_closesBlock {marker : Marker} {name : String}
    (h : marker.closesBlock name = true) : marker.opensBlock = false := by
  simp [Marker.opensBlock, (Marker.closesBlock_iff.mp h).1]

/-- An opening and a closing marker that enclose a block. -/
structure BlockPair where
  /-- The marker that opens the block. -/
  opening : PlacedMarker
  /-- The marker that closes it. -/
  closing : PlacedMarker
deriving DecidableEq

namespace BlockPair

/-- The name of the block. -/
def name (pair : BlockPair) : String :=
  pair.opening.1.name

/-- The pair `inner` lies between the two markers of `outer`. -/
def LiesInside (inner outer : BlockPair) : Prop :=
  outer.opening.2.stop ≤ inner.opening.2.start ∧ inner.closing.2.stop ≤ outer.closing.2.start

end BlockPair

/-- Whether the marker opens a block and is the opening marker of none of the `pairs`. -/
def isUnpaired (pairs : List BlockPair) (found : PlacedMarker) : Bool :=
  found.1.opensBlock && pairs.all fun pair => pair.opening != found

/-- The pairs among markers that are listed last first. A marker is paired with the last opening
marker before it that has no pair, if it closes a block of that name. -/
def pairsBack : List PlacedMarker → List BlockPair
  | [] => []
  | found :: earlier =>
    match earlier.find? (isUnpaired (pairsBack earlier)) with
    | some opening =>
      if found.1.closesBlock opening.1.name then ⟨opening, found⟩ :: pairsBack earlier
      else pairsBack earlier
    | none => pairsBack earlier

/-- The pairs that `pairsBack` finds, sorted by their opening markers. -/
def blockPairs (found : List PlacedMarker) : List BlockPair :=
  (pairsBack found.reverse).mergeSort fun first second =>
    first.opening.2.start ≤ second.opening.2.start

theorem blockPairs_perm (found : List PlacedMarker) :
    (blockPairs found).Perm (pairsBack found.reverse) :=
  List.mergeSort_perm _ _

/-- A permutation of `pairsBack` that is sorted by the opening markers is `blockPairs`. -/
theorem eq_blockPairs_of_perm {pairs : List BlockPair} {found : List PlacedMarker}
    (hsorted : pairs.Pairwise fun first second =>
      first.opening.2.start < second.opening.2.start)
    (hperm : pairs.Perm (pairsBack found.reverse)) : pairs = blockPairs found := by
  have hle : (blockPairs found).Pairwise fun first second =>
      first.opening.2.start ≤ second.opening.2.start := by
    refine (List.pairwise_mergeSort ?_ ?_ (pairsBack found.reverse)).imp of_decide_eq_true
    · intro first second third
      simp only [decide_eq_true_eq]
      exact Nat.le_trans
    · intro first second
      simp only [Bool.or_eq_true, decide_eq_true_eq]
      exact Nat.le_total _ _
  exact eq_of_perm_of_increasing hsorted hle (hperm.trans (blockPairs_perm found).symm)

theorem isUnpaired_iff {pairs : List BlockPair} {found : PlacedMarker} :
    isUnpaired pairs found = true ↔
      found.1.opensBlock = true ∧ ∀ pair ∈ pairs, pair.opening ≠ found := by
  simp [isUnpaired]

/-- `isUnpaired` depends only on which pairs there are, not on their order. -/
theorem isUnpaired_congr {pairs others : List BlockPair} (h : pairs.Perm others) :
    isUnpaired pairs = isUnpaired others := by
  funext found
  rw [Bool.eq_iff_iff, isUnpaired_iff, isUnpaired_iff]
  simp only [h.mem_iff]

/-- The markers that open a block and have no pair in `pairsBack`, last first. -/
def unpairedBack (found : List PlacedMarker) : List PlacedMarker :=
  found.filter (isUnpaired (pairsBack found))

/-- A marker is in `unpairedBack` if it is one of the markers, opens a block, and is the opening
marker of no pair. -/
theorem mem_unpairedBack {found : List PlacedMarker} {marker : PlacedMarker} :
    marker ∈ unpairedBack found ↔
      marker ∈ found ∧ marker.1.opensBlock = true ∧
        ∀ pair ∈ pairsBack found, pair.opening ≠ marker := by
  rw [unpairedBack, List.mem_filter, isUnpaired_iff]

/-- One more marker is paired with the head of `unpairedBack` if it closes its block, and else makes
no pair. -/
theorem pairsBack_cons (found : PlacedMarker) (earlier : List PlacedMarker) :
    pairsBack (found :: earlier) =
      match unpairedBack earlier with
      | opening :: _ =>
        if found.1.closesBlock opening.1.name then ⟨opening, found⟩ :: pairsBack earlier
        else pairsBack earlier
      | [] => pairsBack earlier := by
  rw [pairsBack, ← List.head?_filter, unpairedBack]
  cases earlier.filter (isUnpaired (pairsBack earlier)) with
  | nil => rfl
  | cons opening others => rfl

/-- A marker that closes the block of the head of `unpairedBack` is paired with it. -/
theorem pairsBack_cons_of_closesBlock {found opening : PlacedMarker}
    {earlier others : List PlacedMarker} (hunpaired : unpairedBack earlier = opening :: others)
    (hcloses : found.1.closesBlock opening.1.name = true) :
    pairsBack (found :: earlier) = ⟨opening, found⟩ :: pairsBack earlier := by
  rw [pairsBack_cons, hunpaired]
  exact if_pos hcloses

/-- A marker that does not close the block of the head of `unpairedBack` makes no pair. -/
theorem pairsBack_cons_of_not_closesBlock {found : PlacedMarker} {earlier : List PlacedMarker}
    (h : ∀ opening others, unpairedBack earlier = opening :: others →
      found.1.closesBlock opening.1.name = false) :
    pairsBack (found :: earlier) = pairsBack earlier := by
  rw [pairsBack_cons]
  cases hunpaired : unpairedBack earlier with
  | nil => rfl
  | cons opening others =>
    have hcloses := h opening others hunpaired
    simp [hcloses]

/-- A pair of `found :: earlier` is a pair of `earlier`, or `found` makes it with the head of
`unpairedBack earlier`. -/
theorem mem_pairsBack_cons {found : PlacedMarker} {earlier : List PlacedMarker}
    {pair : BlockPair} (h : pair ∈ pairsBack (found :: earlier)) :
    pair ∈ pairsBack earlier ∨
      ∃ opening others, unpairedBack earlier = opening :: others ∧
        found.1.closesBlock opening.1.name = true ∧ pair = ⟨opening, found⟩ := by
  rw [pairsBack_cons] at h
  split at h
  · rename_i opening others hunpaired
    split at h
    · rename_i hcloses
      rcases List.mem_cons.mp h with rfl | hpair
      · exact Or.inr ⟨opening, others, hunpaired, hcloses, rfl⟩
      · exact Or.inl hpair
    · exact Or.inl h
  · exact Or.inl h

theorem pairsBack_subset_cons (found : PlacedMarker) (earlier : List PlacedMarker) :
    pairsBack earlier ⊆ pairsBack (found :: earlier) := by
  rw [pairsBack_cons]
  split
  · split
    · exact List.subset_cons_self _ _
    · exact List.Subset.refl _
  · exact List.Subset.refl _

/-- Both markers of a pair of `pairsBack` are among the markers; the first `opensBlock`, and the
second `closesBlock` of its name. -/
theorem mem_of_mem_pairsBack {found : List PlacedMarker} {pair : BlockPair}
    (h : pair ∈ pairsBack found) :
    pair.opening ∈ found ∧ pair.closing ∈ found ∧ pair.opening.1.opensBlock = true ∧
      pair.closing.1.closesBlock pair.name = true := by
  induction found with
  | nil => exact absurd h (by simp [pairsBack])
  | cons last earlier ih =>
    rcases mem_pairsBack_cons h with hpair | ⟨opening, others, hunpaired, hcloses, rfl⟩
    · obtain ⟨hopening, hclosing, hrest⟩ := ih hpair
      exact ⟨List.mem_cons_of_mem _ hopening, List.mem_cons_of_mem _ hclosing, hrest⟩
    · have hmem : opening ∈ unpairedBack earlier := by
        rw [hunpaired]
        exact List.mem_cons_self
      obtain ⟨hopening, hopens, -⟩ := mem_unpairedBack.mp hmem
      exact ⟨List.mem_cons_of_mem _ hopening, List.mem_cons_self, hopens, hcloses⟩

/-- Both markers of a pair of `blockPairs` are among the markers; the first `opensBlock`, and the
second `closesBlock` of its name. -/
theorem mem_of_mem_blockPairs {found : List PlacedMarker} {pair : BlockPair}
    (h : pair ∈ blockPairs found) :
    pair.opening ∈ found ∧ pair.closing ∈ found ∧ pair.opening.1.opensBlock = true ∧
      pair.closing.1.closesBlock pair.name = true := by
  have hpair := mem_of_mem_pairsBack ((blockPairs_perm found).mem_iff.mp h)
  rwa [List.mem_reverse, List.mem_reverse] at hpair

/-- No marker opens two pairs of `pairsBack`. -/
theorem nodup_map_opening (found : List PlacedMarker) :
    ((pairsBack found).map BlockPair.opening).Nodup := by
  induction found with
  | nil => simp [pairsBack]
  | cons last earlier ih =>
    rw [pairsBack_cons]
    split
    · rename_i opening others hunpaired
      split
      · have hmem : opening ∈ unpairedBack earlier := by
          rw [hunpaired]
          exact List.mem_cons_self
        rw [List.map_cons, List.nodup_cons]
        refine ⟨?_, ih⟩
        -- an unpaired marker is in no earlier pair
        intro hpaired
        obtain ⟨pair, hpair, hopening⟩ := List.mem_map.mp hpaired
        exact (mem_unpairedBack.mp hmem).2.2 pair hpair hopening
      · exact ih
    · exact ih

section Ordered

/-! ### Markers in their places

From here on the markers start at different places, listed from the last to the first. -/

/-- The markers are listed last first, by where they start. -/
def IsLatestFirst (found : List PlacedMarker) : Prop :=
  found.Pairwise fun later sooner => sooner.2.start < later.2.start

variable {found : PlacedMarker} {earlier : List PlacedMarker}

theorem IsLatestFirst.tail (h : IsLatestFirst (found :: earlier)) : IsLatestFirst earlier :=
  List.Pairwise.of_cons h

theorem IsLatestFirst.not_mem (h : IsLatestFirst (found :: earlier)) : found ∉ earlier :=
  fun hmem => Nat.lt_irrefl _ (List.rel_of_pairwise_cons h hmem)

theorem IsLatestFirst.unpairedBack (h : IsLatestFirst earlier) :
    IsLatestFirst (unpairedBack earlier) :=
  List.Pairwise.filter _ h

/-- A marker that makes no pair is put in front of `unpairedBack` if it `opensBlock`, and else
changes nothing. -/
theorem unpairedBack_cons_of_pairsBack_eq (h : IsLatestFirst (found :: earlier))
    (hpairs : pairsBack (found :: earlier) = pairsBack earlier) :
    unpairedBack (found :: earlier) =
      if found.1.opensBlock then found :: unpairedBack earlier else unpairedBack earlier := by
  have hnew : ∀ pair ∈ pairsBack earlier, pair.opening ≠ found := by
    rintro pair hpair rfl
    exact h.not_mem (mem_of_mem_pairsBack hpair).1
  rw [unpairedBack, hpairs, List.filter_cons]
  by_cases hopens : found.1.opensBlock = true
  · rw [if_pos hopens, if_pos (isUnpaired_iff.mpr ⟨hopens, hnew⟩), unpairedBack]
  · rw [if_neg hopens, if_neg fun hunpaired => hopens (isUnpaired_iff.mp hunpaired).1,
      unpairedBack]

/-- A marker that closes the block of the head of `unpairedBack` takes this head away. -/
theorem unpairedBack_cons_of_closesBlock {opening : PlacedMarker} {others : List PlacedMarker}
    (h : IsLatestFirst (found :: earlier)) (hunpaired : unpairedBack earlier = opening :: others)
    (hcloses : found.1.closesBlock opening.1.name = true) :
    unpairedBack (found :: earlier) = others := by
  have hopens : ¬ found.1.opensBlock = true := by
    simp [Marker.opensBlock_eq_false_of_closesBlock hcloses]
  have hsplit : isUnpaired (⟨opening, found⟩ :: pairsBack earlier) =
      fun marker => (opening != marker) && isUnpaired (pairsBack earlier) marker := by
    funext marker
    simp only [isUnpaired, List.all_cons]
    rw [Bool.and_left_comm]
  have hothers : ∀ marker ∈ others, (opening != marker) = true := by
    intro marker hmarker
    have hdistinct := h.tail.unpairedBack
    rw [hunpaired] at hdistinct
    rw [bne_iff_ne]
    rintro rfl
    exact hdistinct.not_mem hmarker
  calc
    unpairedBack (found :: earlier)
    _ = earlier.filter (isUnpaired (⟨opening, found⟩ :: pairsBack earlier)) := by
      rw [unpairedBack, pairsBack_cons_of_closesBlock hunpaired hcloses,
        List.filter_cons_of_neg fun hlast => hopens (isUnpaired_iff.mp hlast).1]
    _ = (unpairedBack earlier).filter (opening != ·) := by
      rw [hsplit, ← List.filter_filter, unpairedBack]
    -- of the markers without a pair so far, only the one that is closed drops out
    _ = others := by
      rw [hunpaired, List.filter_cons_of_neg (by simp), List.filter_eq_self.mpr hothers]

/-- No marker of `unpairedBack` stands between the markers of a pair of `pairsBack`. -/
theorem unpaired_not_inside {markers : List PlacedMarker} (h : IsLatestFirst markers)
    {pair : BlockPair} (hpair : pair ∈ pairsBack markers) {marker : PlacedMarker}
    (hunpaired : marker ∈ unpairedBack markers) :
    ¬ (pair.opening.2.start < marker.2.start ∧ marker.2.start < pair.closing.2.start) := by
  induction markers with
  | nil => exact absurd hpair (by simp [pairsBack])
  | cons last earlier ih =>
    rintro ⟨hafter, hbefore⟩
    obtain ⟨hmem, hopens, hnone⟩ := mem_unpairedBack.mp hunpaired
    -- the enclosed marker comes before the closing one, so it was there before the last marker
    have hlast : pair.closing.2.start ≤ last.2.start := by
      rcases List.mem_cons.mp (mem_of_mem_pairsBack hpair).2.1 with heq | hclosing
      · exact Nat.le_of_eq (congrArg (·.2.start) heq)
      · exact Nat.le_of_lt (List.rel_of_pairwise_cons h hclosing)
    have hearlier : marker ∈ unpairedBack earlier := by
      rcases List.mem_cons.mp hmem with rfl | hmem
      · omega
      · exact mem_unpairedBack.mpr
          ⟨hmem, hopens, fun other hother => hnone other (pairsBack_subset_cons last _ hother)⟩
    rcases mem_pairsBack_cons hpair with hpair | ⟨opening, others, hothers, -, rfl⟩
    -- the pair is an old one
    · exact ih h.tail hpair hearlier ⟨hafter, hbefore⟩
    · -- the marker that is closed comes last of those without a pair
      have horder := h.tail.unpairedBack
      rw [hothers] at horder hearlier
      rcases List.mem_cons.mp hearlier with rfl | hmarker
      · exact Nat.lt_irrefl _ hafter
      · exact Nat.lt_asymm hafter (List.rel_of_pairwise_cons horder hmarker)

/-! ### Markers in their order -/

section InOrder

variable {markers : List PlacedMarker}
  (h : markers.Pairwise fun first second => first.2.start < second.2.start)
include h

/-- Each marker that `opensBlock` is counted once: as the opening marker of one of the `blockPairs`,
or among those for which `isUnpaired` holds. -/
theorem count_opening_add_count_unpaired {opening : PlacedMarker} (hmem : opening ∈ markers)
    (hopens : opening.1.opensBlock = true) :
    ((blockPairs markers).map BlockPair.opening).count opening +
      ((markers.filter (isUnpaired (blockPairs markers))).map Prod.snd).count opening.2 = 1 := by
  have hpairs : ((blockPairs markers).map BlockPair.opening).Nodup :=
    ((blockPairs_perm markers).map _).nodup_iff.mpr (nodup_map_opening markers.reverse)
  have hspans : (markers.map Prod.snd).Nodup := by
    rw [List.nodup_iff_pairwise_ne, List.pairwise_map]
    exact h.imp fun hlt heq => Nat.ne_of_lt hlt (congrArg Span.start heq)
  have hunpairedSpans : ((markers.filter (isUnpaired (blockPairs markers))).map Prod.snd).Nodup :=
    hspans.sublist (List.filter_sublist.map _)
  -- places are distinct, so a place among those without a pair is that of this very marker
  have hiff : opening.2 ∈ (markers.filter (isUnpaired (blockPairs markers))).map Prod.snd ↔
      opening ∉ (blockPairs markers).map BlockPair.opening := by
    constructor
    · intro hspan
      obtain ⟨other, hother, heq⟩ := List.mem_map.mp hspan
      obtain ⟨hother, hunpaired⟩ := List.mem_filter.mp hother
      obtain rfl := List.inj_on_of_nodup_map hspans hother hmem heq
      intro hpaired
      obtain ⟨pair, hpair, heq⟩ := List.mem_map.mp hpaired
      exact (isUnpaired_iff.mp hunpaired).2 pair hpair heq
    · intro hnone
      refine List.mem_map_of_mem (List.mem_filter.mpr ⟨hmem, isUnpaired_iff.mpr ⟨hopens, ?_⟩⟩)
      exact fun pair hpair heq => hnone (List.mem_map.mpr ⟨pair, hpair, heq⟩)
  rw [hpairs.count, hunpairedSpans.count]
  by_cases hpaired : opening ∈ (blockPairs markers).map BlockPair.opening
  · rw [if_pos hpaired, if_neg fun hspan => hiff.mp hspan hpaired]
  · rw [if_neg hpaired, if_pos (hiff.mpr hpaired)]

/-- No marker for which `isUnpaired` holds stands between the markers of one of the `blockPairs`. -/
theorem unpaired_not_inside_blockPairs {pair : BlockPair} (hpair : pair ∈ blockPairs markers)
    {opening : PlacedMarker} (hmem : opening ∈ markers)
    (hunpaired : isUnpaired (blockPairs markers) opening = true) :
    ¬ (pair.opening.2.start < opening.2.start ∧ opening.2.start < pair.closing.2.start) := by
  rw [isUnpaired_congr (blockPairs_perm markers)] at hunpaired
  refine unpaired_not_inside (List.pairwise_reverse.mpr h)
    ((blockPairs_perm markers).mem_iff.mp hpair) ?_
  exact List.mem_filter.mpr ⟨List.mem_reverse.mpr hmem, hunpaired⟩

end InOrder

end Ordered

end MarkdownTemplate
