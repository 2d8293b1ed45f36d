import Mathlib.Data.List.Flatten
import MarkdownTemplate.Proofs.Body.Declarations
import MarkdownTemplate.Proofs.Body.OpenBlocks
import MarkdownTemplate.Proofs.Node.Skeleton

/-!
# What a header does to a body

A header decides which placeholders of a body are references, and nothing else. Two runs over one
body with different headers read the same pieces, so they have one outline between them: its leaves
are labelled with the nodes that a piece becomes in the one run and in the other.

* `skeletonIn_leafNode`: without references, a piece becomes its text under every header;
* `referenceMarkers_leafNode`: a header that declares more turns more pieces into references;
* `skeleton_ofString`: two headers give a body the same skeleton and diagnostics, and one that
  declares more gives it more references.
-/

namespace MarkdownTemplate

/-! ### Leaves -/

section Leaves

variable {first second : BodyState}

/-- The skeleton of `leafNode` is the text of the piece. -/
theorem skeletonIn_leafNode (state : BodyState) (piece : Piece) :
    (state.leafNode piece).skeletonIn = .text (String.ofList piece.chars) := by
  cases piece with
  | text chars => rfl
  | marker marker =>
    rw [BodyState.leafNode]
    split
    · split <;> rfl
    · rfl

theorem isMarked_leafNode (state : BodyState) (piece : Piece) :
    (state.leafNode piece).IsMarked := by
  intro target hreference
  cases piece with
  | text chars => exact absurd hreference (by simp [BodyState.leafNode])
  | marker marker =>
    have htext : marker.text ≠ "" := by
      rw [Marker.text, ← String.ofList_nil, Ne, String.ofList_inj]
      exact marker.chars_ne_nil
    rw [BodyState.leafNode] at hreference
    split at hreference
    · split at hreference
      · exact absurd hreference (by simp)
      · exact htext (Node.reference.inj hreference).2
    · exact absurd hreference (by simp)

/-- `second` declares every name that `first` declares. -/
def BodyState.DeclaresIn (first second : BodyState) : Prop :=
  ∀ name, first.header.declares name = true → second.header.declares name = true

/-- Reading one piece in both states preserves `DeclaresIn`. -/
theorem BodyState.DeclaresIn.readPiece (h : first.DeclaresIn second) (piece : Piece) :
    (first.readPiece piece).DeclaresIn (second.readPiece piece) := by
  intro name
  cases piece with
  | text chars =>
    rw [header_readPiece_text, header_readPiece_text]
    exact h name
  | marker marker =>
    rw [header_readPiece_marker, header_readPiece_marker]
    split
    · rw [Header.declares_insertIfNew, Header.declares_insertIfNew, Bool.or_eq_true,
        Bool.or_eq_true]
      exact Or.imp_right (h name)
    · exact h name

/-- If `leafNode` is a reference in `first`, then also in `second`, which declares more. -/
theorem referenceMarkers_leafNode (h : first.DeclaresIn second) (piece : Piece) :
    ((first.leafNode piece).usesIn.filterMap VariableUse.marker?).Sublist
      ((second.leafNode piece).usesIn.filterMap VariableUse.marker?) := by
  cases piece with
  | text chars => exact List.Sublist.refl _
  | marker marker =>
    rw [BodyState.leafNode, BodyState.leafNode]
    split
    · cases hfirst : first.declared? marker.name with
      | none => exact List.nil_sublist _
      | some entry =>
        -- a name that `first` declares is declared by `second`, so it is a reference there too
        obtain ⟨hname, hdeclares⟩ :=
          BodyState.isSome_declared?_iff.mp (Option.isSome_of_eq_some hfirst)
        have hsome := BodyState.isSome_declared?_iff.mpr ⟨hname, h _ hdeclares⟩
        obtain ⟨other, hsecond⟩ := Option.isSome_iff_exists.mp hsome
        rw [hsecond]
        exact List.Sublist.refl _
    · exact List.Sublist.refl _

end Leaves

/-! ### Forests -/

namespace Forest

/-- `Node.skeleton` of a forest is computed leaf by leaf. -/
theorem skeleton_nodesOnto {forest : Forest Node}
    (hleaves : ∀ leaf ∈ forest.leaves, leaf.2.IsMarked) (nodes : List Node) :
    Node.skeleton (forest.nodesOnto nodes) =
      (forest.map Node.skeletonIn).nodesOnto (Node.skeleton nodes) := by
  induction forest generalizing nodes with
  | nil => rfl
  | leaf placed node rest ih =>
    rw [leaves, List.forall_mem_cons] at hleaves
    rw [nodesOnto, ih hleaves.2, Node.skeleton_push _ hleaves.1, map, nodesOnto]
  | block opening content closing rest ihContent ihRest =>
    simp only [leaves, List.forall_mem_append] at hleaves
    have hmarked : (Node.block opening.1.name (content.nodesOnto [])).IsMarked := by
      intro target
      simp
    rw [nodesOnto, ihRest hleaves.2, Node.skeleton_push _ hmarked, Node.skeletonIn_block,
      ihContent hleaves.1, map, nodesOnto]
    rfl

/-- Two labellings give the same `Node.skeleton` if their labels do at each leaf. -/
theorem skeleton_nodes_eq {forest : Forest (Node × Node)}
    (hleaves : ∀ leaf ∈ forest.leaves, leaf.2.1.IsMarked ∧ leaf.2.2.IsMarked ∧
      leaf.2.1.skeletonIn = leaf.2.2.skeletonIn) :
    Node.skeleton (forest.map Prod.fst).nodes = Node.skeleton (forest.map Prod.snd).nodes := by
  have hfirst : ∀ leaf ∈ (forest.map Prod.fst).leaves, leaf.2.IsMarked := by
    rw [leaves_map, List.forall_mem_map]
    exact fun leaf hleaf => (hleaves leaf hleaf).1
  have hsecond : ∀ leaf ∈ (forest.map Prod.snd).leaves, leaf.2.IsMarked := by
    rw [leaves_map, List.forall_mem_map]
    exact fun leaf hleaf => (hleaves leaf hleaf).2.1
  have hsame : (forest.map fun labels => labels.1.skeletonIn) =
      forest.map fun labels => labels.2.skeletonIn :=
    map_congr fun leaf hleaf => (hleaves leaf hleaf).2.2
  rw [nodes, skeleton_nodesOnto hfirst, nodes, skeleton_nodesOnto hsecond, map_map, map_map, hsame]

/-- `Node.referenceMarkers` of one labelling is a sublist of that of another if this holds at each
leaf. -/
theorem referenceMarkers_nodes_sublist {forest : Forest (Node × Node)}
    (hleaves : ∀ leaf ∈ forest.leaves,
      (leaf.2.1.usesIn.filterMap VariableUse.marker?).Sublist
        (leaf.2.2.usesIn.filterMap VariableUse.marker?)) :
    (Node.referenceMarkers (forest.map Prod.fst).nodes).Sublist
      (Node.referenceMarkers (forest.map Prod.snd).nodes) := by
  rw [Node.referenceMarkers, filterMap_uses_nodes fun _ => rfl, Node.referenceMarkers,
    filterMap_uses_nodes fun _ => rfl, leaves_map, leaves_map, List.flatMap_map, List.flatMap_map]
  exact List.Sublist.flatMap_right forest.leaves hleaves

end Forest

/-! ### Two runs -/

namespace BodyState

/-- The pieces with their places and the two nodes that they become in the runs from `first` and
from `second`. -/
def jointEntries (first second : BodyState) : List Piece → List (PlacedPiece × Node × Node)
  | [] => []
  | piece :: pieces =>
    ((piece, first.nextSpan piece), first.leafNode piece, second.leafNode piece) ::
      (first.readPiece piece).jointEntries (second.readPiece piece) pieces

theorem map_fst_jointEntries (first second : BodyState) (pieces : List Piece) :
    (first.jointEntries second pieces).map (Prod.map id Prod.fst) = first.entries pieces := by
  induction pieces generalizing first second with
  | nil => rfl
  | cons piece pieces ih =>
    rw [jointEntries, List.map_cons, ih, entries]
    rfl

theorem map_snd_jointEntries (first second : BodyState) (hoffset : first.offset = second.offset)
    (pieces : List Piece) :
    (first.jointEntries second pieces).map (Prod.map id Prod.snd) = second.entries pieces := by
  induction pieces generalizing first second with
  | nil => rfl
  | cons piece pieces ih =>
    have hspan : first.nextSpan piece = second.nextSpan piece := by
      rw [nextSpan, nextSpan, hoffset]
    rw [jointEntries, List.map_cons, ih _ _ (by simp [hoffset]), entries, hspan]
    rfl

/-- If `readPiece` preserves `related`, and `leafNode` gives nodes with `property` in related
states, then all `jointEntries` have `property`. -/
theorem forall_mem_jointEntries (related : BodyState → BodyState → Prop)
    (property : Node → Node → Prop)
    (hread : ∀ first second piece, related first second →
      related (first.readPiece piece) (second.readPiece piece))
    (hnode : ∀ first second piece, related first second →
      property (first.leafNode piece) (second.leafNode piece))
    {first second : BodyState} (h : related first second) (pieces : List Piece) :
    ∀ entry ∈ first.jointEntries second pieces, property entry.2.1 entry.2.2 := by
  induction pieces generalizing first second with
  | nil => simp [jointEntries]
  | cons piece pieces ih =>
    rw [jointEntries, List.forall_mem_cons]
    exact ⟨hnode first second piece h, ih (hread first second piece h)⟩

end BodyState

section Bodies

variable (header other : Header) (body : String)

/-- The outline of a body, its leaves labelled by the nodes of both runs. -/
def jointOutline : Outline (Node × Node) :=
  (BodyState.jointEntries { header } { header := other } (Piece.ofChars body.toList)).foldl
    Outline.read {}

theorem map_fst_jointOutline :
    (jointOutline header other body).map Prod.fst = outlineOf header body := by
  rw [jointOutline, Outline.map_foldl_read, BodyState.map_fst_jointEntries]
  rfl

theorem map_snd_jointOutline :
    (jointOutline header other body).map Prod.snd = outlineOf other body := by
  rw [jointOutline, Outline.map_foldl_read,
    BodyState.map_snd_jointEntries { header } { header := other } rfl]
  rfl

/-- Both runs have the nodes of one forest, by the first and by the second labels. -/
theorem nodes_ofString_eq_jointOutline (recovery : Recovery) :
    (ParsedBody.ofString recovery header body).nodes =
        (((jointOutline header other body).writtenBack recovery).map Prod.fst).nodes ∧
      (ParsedBody.ofString recovery other body).nodes =
        (((jointOutline header other body).writtenBack recovery).map Prod.snd).nodes := by
  constructor
  · rw [nodes_ofString_eq_writtenBack, Outline.map_writtenBack, map_fst_jointOutline]
  · rw [nodes_ofString_eq_writtenBack, Outline.map_writtenBack, map_snd_jointOutline]

/-- The leaves of that forest are `jointEntries`. -/
theorem mem_jointEntries_of_mem_leaves {recovery : Recovery} {leaf : PlacedPiece × Node × Node}
    (h : leaf ∈ ((jointOutline header other body).writtenBack recovery).leaves) :
    leaf ∈ BodyState.jointEntries { header } { header := other } (Piece.ofChars body.toList) := by
  have hforest := (Outline.leaves_writtenBack_perm _ recovery).mem_iff.mp h
  exact (Outline.leaves_foldl_read _ _).subset hforest

end Bodies

/-- The header changes neither the diagnostics nor the structure of a body: the nodes agree after
`Node.plain` replaces references by their markers and `Node.joinAll` joins adjacent texts. If
`other` declares every name that `header` declares, then `Node.referenceMarkers` with `header` is a
sublist of that with `other`. -/
theorem skeleton_ofString (recovery : Recovery) (header other : Header) (body : String) :
    let first := ParsedBody.ofString recovery header body
    let second := ParsedBody.ofString recovery other body
    first.diagnostics = second.diagnostics ∧
    Node.joinAll (Node.plain first.nodes) = Node.joinAll (Node.plain second.nodes) ∧
    ((∀ name, header.declares name = true → other.declares name = true) →
      (Node.referenceMarkers first.nodes).Sublist (Node.referenceMarkers second.nodes)) := by
  intro first second
  obtain ⟨hfirst, hsecond⟩ := nodes_ofString_eq_jointOutline header other body recovery
  refine ⟨?_, ?_, ?_⟩
  · exact (diagnostics_ofString header body recovery).trans
      (diagnostics_ofString other body recovery).symm
  -- every piece becomes the same text in both runs, whatever the two states declare
  · change Node.skeleton first.nodes = Node.skeleton second.nodes
    rw [hfirst, hsecond]
    apply Forest.skeleton_nodes_eq
    intro leaf hleaf
    refine BodyState.forall_mem_jointEntries (fun _ _ => True)
      (fun one two => one.IsMarked ∧ two.IsMarked ∧ one.skeletonIn = two.skeletonIn)
      (fun _ _ _ _ => trivial) ?_ trivial _ leaf (mem_jointEntries_of_mem_leaves _ _ _ hleaf)
    intro one two piece _
    exact ⟨isMarked_leafNode one piece, isMarked_leafNode two piece,
      (skeletonIn_leafNode one piece).trans (skeletonIn_leafNode two piece).symm⟩
  -- the state that starts with more declarations has more of them all along
  · intro hdeclares
    rw [hfirst, hsecond]
    apply Forest.referenceMarkers_nodes_sublist
    intro leaf hleaf
    have hstart : BodyState.DeclaresIn { header } { header := other } := hdeclares
    exact BodyState.forall_mem_jointEntries BodyState.DeclaresIn
      (fun one two => (one.usesIn.filterMap VariableUse.marker?).Sublist
        (two.usesIn.filterMap VariableUse.marker?))
      (fun _ _ piece h => h.readPiece piece) (fun _ _ piece h => referenceMarkers_leafNode h piece)
      hstart _ leaf (mem_jointEntries_of_mem_leaves _ _ _ hleaf)

end MarkdownTemplate
