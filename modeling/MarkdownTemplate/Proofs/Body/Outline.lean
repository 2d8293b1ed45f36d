import MarkdownTemplate.Proofs.Body.Forest

/-!
# Outlines of a body

An outline is what is known of the blocks of a body when a part of it is read: a forest outside all
open blocks and one inside each open block. `Outline.read` reads one more labelled piece, and
`Outline.forest` writes the open blocks back, so that their opening markers become leaves.

`Outline.Step` lists what reading a piece can do; everything about outlines goes through it.

* `pieces_foldl_read` and `leaves_foldl_read`: reading loses no piece and keeps the labels;
* `pairsUp_foldl_read`: the blocks of the forest are the pairs of the list of markers, and the open
  blocks are those of the opening markers without a pair.
-/

namespace MarkdownTemplate

/-- A block that is not closed yet. -/
structure Opened (α : Type) where
  /-- The marker that opens the block. -/
  opening : PlacedMarker
  /-- The label of that marker, should the block stay open. -/
  label : α
  /-- What is read of the block. -/
  content : Forest α

/-- The blocks of the part of a body that is read. -/
structure Outline (α : Type) where
  /-- What is read outside all open blocks. -/
  root : Forest α := .nil
  /-- The open blocks, innermost first. -/
  opened : List (Opened α) := []

namespace Outline

variable {α : Type}

def add (outline : Outline α) (forest : Forest α) : Outline α :=
  match outline.opened with
  | [] => { outline with root := outline.root ++ forest }
  | innermost :: outer =>
    { outline with opened := { innermost with content := innermost.content ++ forest } :: outer }

/-- Opens a block by the marker `opening`. -/
def openBlock (outline : Outline α) (opening : PlacedMarker) (label : α) : Outline α :=
  { outline with opened := ⟨opening, label, .nil⟩ :: outline.opened }

/-- Closes `innermost` by the marker `closing` and adds it to the next block in `outer`. -/
def closeBlock (outline : Outline α) (innermost : Opened α) (outer : List (Opened α))
    (closing : PlacedMarker) : Outline α :=
  add { outline with opened := outer } (.block innermost.opening innermost.content closing .nil)

/-- Reads a piece with a label, which is used if the piece becomes a leaf or opens a block that
stays open. -/
def read (outline : Outline α) : PlacedPiece × α → Outline α
  | ((.text chars, span), label) => outline.add (.leaf (.text chars, span) label .nil)
  | ((.marker marker, span), label) =>
    if marker.opensBlock then outline.openBlock (marker, span) label
    else
      match outline.opened with
      | [] => outline.add (.leaf (.marker marker, span) label .nil)
      | innermost :: outer =>
        if marker.closesBlock innermost.opening.1.name then
          outline.closeBlock innermost outer (marker, span)
        else outline.add (.leaf (.marker marker, span) label .nil)

/-- The marker neither opens a block nor closes the innermost one. -/
def IsLoose (outline : Outline α) (found : PlacedMarker) : Prop :=
  found.1.opensBlock = false ∧
    ∀ innermost outer, outline.opened = innermost :: outer →
      found.1.closesBlock innermost.opening.1.name = false

/-- The steps of `read`, one constructor for each effect of a piece. -/
inductive Step (outline : Outline α) : PlacedPiece × α → Outline α → Prop
  | leaf (placed : PlacedPiece) (label : α)
      (hloose : ∀ found, Piece.placedMarker? placed = some found → outline.IsLoose found) :
      Step outline (placed, label) (outline.add (.leaf placed label .nil))
  | opening (found : PlacedMarker) (label : α) (hopens : found.1.opensBlock = true) :
      Step outline (Piece.ofMarker found, label) (outline.openBlock found label)
  | closing (found : PlacedMarker) (label : α) (innermost : Opened α) (outer : List (Opened α))
      (hopened : outline.opened = innermost :: outer)
      (hcloses : found.1.closesBlock innermost.opening.1.name = true) :
      Step outline (Piece.ofMarker found, label) (outline.closeBlock innermost outer found)

/-- A marker with `IsLoose` becomes a leaf. -/
theorem read_of_isLoose {outline : Outline α} {found : PlacedMarker} (h : outline.IsLoose found)
    (label : α) :
    outline.read (Piece.ofMarker found, label) =
      outline.add (.leaf (Piece.ofMarker found) label .nil) := by
  obtain ⟨hopens, hcloses⟩ := h
  rw [Piece.ofMarker, read, if_neg (by simp [hopens])]
  cases hopened : outline.opened with
  | nil => rfl
  | cons innermost outer => exact if_neg (by simp [hcloses innermost outer hopened])

section Markers

variable {outline : Outline α} {marker : Marker} {span : Span}

theorem isLoose_of_placeholder (hkind : marker.kind = .placeholder) :
    outline.IsLoose (marker, span) := by
  constructor
  · simp [Marker.opensBlock, hkind]
  · intro innermost outer _
    simp [Marker.closesBlock, hkind]

/-- An opening marker without a name satisfies `IsLoose`. -/
theorem isLoose_of_opening (hkind : marker.kind = .opening) (hname : marker.name = "") :
    outline.IsLoose (marker, span) := by
  constructor
  · simp [Marker.opensBlock, hname]
  · intro innermost outer _
    simp [Marker.closesBlock, hkind]

theorem read_of_opensBlock (hopens : marker.opensBlock = true) (label : α) :
    outline.read ((.marker marker, span), label) = outline.openBlock (marker, span) label :=
  if_pos hopens

theorem read_of_closesBlock {innermost : Opened α} {outer : List (Opened α)}
    (hopened : outline.opened = innermost :: outer)
    (hcloses : marker.closesBlock innermost.opening.1.name = true) (label : α) :
    outline.read ((.marker marker, span), label) =
      outline.closeBlock innermost outer (marker, span) := by
  have hopens : ¬ marker.opensBlock = true := by
    simp [Marker.opensBlock_eq_false_of_closesBlock hcloses]
  rw [read, if_neg hopens]
  simp only [hopened, if_pos hcloses]

end Markers

/-- `read` makes a `Step`. -/
theorem step_read (outline : Outline α) (entry : PlacedPiece × α) :
    outline.Step entry (outline.read entry) := by
  obtain ⟨⟨piece, span⟩, label⟩ := entry
  cases piece with
  | text chars => exact .leaf _ label fun found hfound => absurd hfound (by simp)
  | marker marker =>
    have hleaf : outline.IsLoose (marker, span) →
        ∀ found, Piece.placedMarker? (.marker marker, span) = some found →
          outline.IsLoose found := by
      intro hloose found hfound
      rwa [← Option.some.inj hfound]
    rw [read]
    split
    · rename_i hopens
      exact .opening (marker, span) label hopens
    -- without an opening, what happens depends on whether a block is there to be closed
    · rename_i hopens
      have hopens : marker.opensBlock = false := by simpa using hopens
      split
      · rename_i hopened
        exact .leaf _ label (hleaf ⟨hopens, by simp [hopened]⟩)
      · rename_i innermost outer hopened
        split
        · rename_i hcloses
          exact .closing (marker, span) label innermost outer hopened hcloses
        · rename_i hcloses
          refine .leaf _ label (hleaf ⟨hopens, ?_⟩)
          intro other others hothers
          rw [hopened] at hothers
          obtain ⟨rfl, rfl⟩ := List.cons.inj hothers
          simpa using hcloses

/-- The forest of `outline`, with the opening markers of open blocks as leaves. -/
def forest (outline : Outline α) : Forest α :=
  outline.opened.foldr
    (fun opened before =>
      before ++ .leaf (Piece.ofMarker opened.opening) opened.label opened.content)
    outline.root

/-- The innermost block is last in `forest`, its marker as a leaf before its content. -/
theorem forest_cons (root : Forest α) (innermost : Opened α) (outer : List (Opened α)) :
    forest ⟨root, innermost :: outer⟩ = forest ⟨root, outer⟩ ++
      .leaf (Piece.ofMarker innermost.opening) innermost.label innermost.content := rfl

theorem forest_of_opened_eq_cons {outline : Outline α} {innermost : Opened α}
    {outer : List (Opened α)} (hopened : outline.opened = innermost :: outer) :
    outline.forest = forest { outline with opened := outer } ++
      .leaf (Piece.ofMarker innermost.opening) innermost.label innermost.content := by
  obtain ⟨root, opened⟩ := outline
  obtain rfl : opened = innermost :: outer := hopened
  exact forest_cons root innermost outer

/-- `add` appends to `forest`. -/
@[simp]
theorem forest_add (outline : Outline α) (added : Forest α) :
    (outline.add added).forest = outline.forest ++ added := by
  obtain ⟨root, opened⟩ := outline
  cases opened with
  | nil => rfl
  | cons innermost outer =>
    rw [forest_cons, Forest.append_assoc]
    rfl

@[simp]
theorem map_opening_add (outline : Outline α) (added : Forest α) :
    (outline.add added).opened.map Opened.opening = outline.opened.map Opened.opening := by
  obtain ⟨root, opened⟩ := outline
  cases opened with
  | nil => rfl
  | cons innermost outer => rfl

@[simp]
theorem forest_openBlock (outline : Outline α) (found : PlacedMarker) (label : α) :
    (outline.openBlock found label).forest =
      outline.forest ++ .leaf (Piece.ofMarker found) label .nil := rfl

@[simp]
theorem forest_closeBlock (outline : Outline α) (innermost : Opened α) (outer : List (Opened α))
    (closing : PlacedMarker) :
    (outline.closeBlock innermost outer closing).forest =
      forest { outline with opened := outer } ++
        .block innermost.opening innermost.content closing .nil := by
  rw [closeBlock, forest_add]

@[simp]
theorem map_opening_closeBlock (outline : Outline α) (innermost : Opened α)
    (outer : List (Opened α)) (closing : PlacedMarker) :
    (outline.closeBlock innermost outer closing).opened.map Opened.opening =
      outer.map Opened.opening := by
  rw [closeBlock, map_opening_add]

namespace Step

variable {outline next : Outline α} {entry : PlacedPiece × α}

/-- A `Step` appends its piece to the pieces of `forest`. -/
theorem pieces_forest (h : outline.Step entry next) :
    next.forest.pieces = outline.forest.pieces ++ [entry.1] := by
  cases h with
  | leaf placed label hloose => simp [Forest.pieces]
  | opening found label hopens => simp [Forest.pieces]
  | closing found label innermost outer hopened hcloses =>
    rw [forest_closeBlock, forest_of_opened_eq_cons hopened]
    simp [Forest.pieces]

/-- After a `Step`, the leaves are among the earlier ones and `entry`, in this order. -/
theorem leaves_forest (h : outline.Step entry next) :
    next.forest.leaves.Sublist (outline.forest.leaves ++ [entry]) := by
  cases h with
  | leaf placed label hloose => simp [Forest.leaves]
  | opening found label hopens => simp [Forest.leaves]
  | closing found label innermost outer hopened hcloses =>
    rw [forest_closeBlock, forest_of_opened_eq_cons hopened]
    simp only [Forest.leaves_append, Forest.leaves, List.append_nil]
    -- the opening marker of the closed block is a leaf no longer, and the closing one never is
    refine List.Sublist.trans ?_ (List.sublist_append_left _ _)
    exact (List.Sublist.refl _).append (List.sublist_cons_self _ _)

end Step

/-- A run of `read` keeps all pieces in their order. -/
theorem pieces_foldl_read (entries : List (PlacedPiece × α)) (outline : Outline α) :
    (entries.foldl read outline).forest.pieces =
      outline.forest.pieces ++ entries.map Prod.fst := by
  induction entries generalizing outline with
  | nil => simp
  | cons entry entries ih =>
    rw [List.foldl_cons, ih, (outline.step_read entry).pieces_forest, List.map_cons,
      List.append_assoc, List.singleton_append]

/-- A run of `read` keeps leaves with their labels in their order. -/
theorem leaves_foldl_read (entries : List (PlacedPiece × α)) (outline : Outline α) :
    (entries.foldl read outline).forest.leaves.Sublist (outline.forest.leaves ++ entries) := by
  induction entries generalizing outline with
  | nil => simp
  | cons entry entries ih =>
    rw [List.foldl_cons, ← List.singleton_append, ← List.append_assoc]
    exact (ih _).trans ((outline.step_read entry).leaves_forest.append (List.Sublist.refl _))

/-! ### Blocks and pairs -/

/-- The markers of `forest`, the last one first. -/
def markersBack (outline : Outline α) : List PlacedMarker :=
  (outline.forest.pieces.filterMap Piece.placedMarker?).reverse

/-- The invariant of a run: `forest.pairs` and the open blocks are what `pairsBack` makes of the
markers. -/
structure PairsUp (outline : Outline α) : Prop where
  /-- The pairs of the forest. -/
  pairs : outline.forest.pairs.Perm (pairsBack outline.markersBack)
  /-- The open blocks. -/
  opened : outline.opened.map Opened.opening = unpairedBack outline.markersBack

/-- A `Step` puts its marker in front of `markersBack`. -/
theorem Step.markersBack_eq {outline next : Outline α} {entry : PlacedPiece × α}
    (h : outline.Step entry next) :
    next.markersBack = (Piece.placedMarker? entry.1).toList ++ outline.markersBack := by
  rw [markersBack, h.pieces_forest, List.filterMap_append, List.reverse_append,
    Piece.filterMap_placedMarker?_cons, markersBack]
  cases Piece.placedMarker? entry.1 <;> rfl

/-- `PairsUp` is preserved if `pairsBack` finds no pair at `found`, and `found` becomes an open
block exactly when `Marker.opensBlock` holds. -/
theorem PairsUp.of_pairsBack_eq {outline next : Outline α} (h : outline.PairsUp)
    {found : PlacedMarker} (hmarkers : next.markersBack = found :: outline.markersBack)
    (horder : IsLatestFirst next.markersBack)
    (hsame : pairsBack (found :: outline.markersBack) = pairsBack outline.markersBack)
    (hpairs : next.forest.pairs = outline.forest.pairs)
    (hopened : next.opened.map Opened.opening =
      if found.1.opensBlock then found :: outline.opened.map Opened.opening
      else outline.opened.map Opened.opening) : next.PairsUp := by
  rw [hmarkers] at horder
  constructor
  · rw [hpairs, hmarkers, hsame]
    exact h.pairs
  · rw [hopened, hmarkers, unpairedBack_cons_of_pairsBack_eq horder hsame, h.opened]

/-- A `Step` preserves `PairsUp`. -/
theorem Step.pairsUp {outline next : Outline α} {entry : PlacedPiece × α}
    (h : outline.Step entry next) (hpairs : outline.PairsUp)
    (horder : IsLatestFirst next.markersBack) : next.PairsUp := by
  have hmarkers := h.markersBack_eq
  cases h with
  | leaf placed label hloose =>
    have hadd : (outline.add (.leaf placed label .nil)).forest.pairs = outline.forest.pairs := by
      simp [Forest.pairs]
    cases hfound : Piece.placedMarker? placed with
    | none =>
      rw [hfound, Option.toList_none, List.nil_append] at hmarkers
      constructor
      · rw [hadd, hmarkers]
        exact hpairs.pairs
      · rw [map_opening_add, hmarkers]
        exact hpairs.opened
    | some found =>
      rw [hfound, Option.toList_some, List.singleton_append] at hmarkers
      obtain ⟨hopens, hcloses⟩ := hloose found hfound
      -- the innermost open block is that of the last marker without a pair
      have hsame : pairsBack (found :: outline.markersBack) = pairsBack outline.markersBack := by
        apply pairsBack_cons_of_not_closesBlock
        intro opening others hunpaired
        rw [← hpairs.opened, List.map_eq_cons_iff] at hunpaired
        obtain ⟨innermost, outer, hinnermost, rfl, -⟩ := hunpaired
        exact hcloses innermost outer hinnermost
      apply hpairs.of_pairsBack_eq hmarkers horder hsame hadd
      rw [map_opening_add, hopens]
      rfl
  | opening found label hopens =>
    rw [Piece.placedMarker?_ofMarker, Option.toList_some, List.singleton_append] at hmarkers
    have hsame : pairsBack (found :: outline.markersBack) = pairsBack outline.markersBack :=
      pairsBack_cons_of_not_closesBlock fun opening _ _ =>
        Marker.closesBlock_eq_false_of_opensBlock hopens opening.1.name
    apply hpairs.of_pairsBack_eq hmarkers horder hsame
    · rw [forest_openBlock, Forest.pairs_append]
      exact List.append_nil _
    · rw [if_pos hopens]
      rfl
  | closing found label innermost outer hinnermost hcloses =>
    rw [Piece.placedMarker?_ofMarker, Option.toList_some, List.singleton_append] at hmarkers
    rw [hmarkers] at horder
    have hunpaired : unpairedBack outline.markersBack =
        innermost.opening :: outer.map Opened.opening := by
      rw [← hpairs.opened, hinnermost, List.map_cons]
    have hforest := hpairs.pairs
    rw [forest_of_opened_eq_cons hinnermost] at hforest
    simp only [Forest.pairs_append, Forest.pairs] at hforest
    constructor
    · rw [hmarkers, pairsBack_cons_of_closesBlock hunpaired hcloses, forest_closeBlock]
      simp only [Forest.pairs_append, Forest.pairs, List.append_nil]
      -- the new pair stands before those of its content, and first in the list of pairs
      exact List.perm_middle.trans (hforest.cons _)
    · rw [map_opening_closeBlock, hmarkers,
        unpairedBack_cons_of_closesBlock horder hunpaired hcloses]

theorem pairsUp_empty : ({} : Outline α).PairsUp := by
  constructor
  · exact List.Perm.refl _
  · rfl

/-- A run of `read` preserves `PairsUp`. -/
theorem pairsUp_foldl_read (entries : List (PlacedPiece × α)) {outline : Outline α}
    (hpairs : outline.PairsUp)
    (horder : IsLatestFirst (entries.foldl read outline).markersBack) :
    (entries.foldl read outline).PairsUp := by
  induction entries generalizing outline with
  | nil => exact hpairs
  | cons entry entries ih =>
    rw [List.foldl_cons] at horder ⊢
    refine ih ((outline.step_read entry).pairsUp hpairs ?_) horder
    -- the markers read so far are the last of those listed at the end
    rw [IsLatestFirst, markersBack, pieces_foldl_read, List.filterMap_append,
      List.reverse_append] at horder
    exact (List.pairwise_append.mp horder).2.1

end Outline

end MarkdownTemplate
