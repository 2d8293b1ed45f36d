import Mathlib.Data.List.Forall2
import MarkdownTemplate.Body
import MarkdownTemplate.Proofs.Body.Outline

/-!
# Reading a body along its outline

Parsing a body and reading its outline go in step: what `BodyState.readPiece` does to the nodes,
`Outline.read` does to forests whose leaves are labelled with nodes. So the nodes of a parsed body
are those of a forest over its pieces, and its blocks are the pairs of the list of its markers.

* `isOutlinedBy_foldl_readPiece`: the state follows the outline;
* `ParsedBody.ofString_eq_ofPieces`: a body without markers needs no way of its own;
* `nodes_ofString` and `diagnostics_ofString`: what a parsed body has from its outline;
* `pieces_forestOf` and `pairs_forestOf`: the pieces and pairs of the forest of a body.
-/

namespace MarkdownTemplate

namespace BodyState

/-- The place of `piece` if it is read next. -/
def nextSpan (state : BodyState) (piece : Piece) : Span :=
  ⟨state.offset, state.offset + byteLength piece.chars⟩

/-- The node that `piece` becomes if it is read next and is no marker of a block. -/
def leafNode (state : BodyState) : Piece → Node
  | .text chars => .text (String.ofList chars)
  | .marker marker =>
    if marker.kind = .placeholder then
      match state.declared? marker.name with
      | none => .text marker.text
      | some entry =>
        .reference
          (state.variableFor marker.name entry marker.isQuestion (state.nextSpan (.marker marker)))
          marker.text
    else .text marker.text

@[simp]
theorem name_variableFor (state : BodyState) (name : String) (entry : Entry) (isOptional : Bool)
    (span : Span) : (state.variableFor name entry isOptional span).name = name := by
  unfold variableFor
  cases hfind : state.vars.find? fun known => known.name == name with
  | none => rfl
  | some known => simpa using List.find?_some hfind

/-- The pieces from `state` on, each with its place and its `leafNode`. -/
def entries (state : BodyState) : List Piece → List (PlacedPiece × Node)
  | [] => []
  | piece :: pieces =>
    ((piece, state.nextSpan piece), state.leafNode piece) ::
      (state.readPiece piece).entries pieces

@[simp]
theorem offset_readPiece (state : BodyState) (piece : Piece) :
    (state.readPiece piece).offset = state.offset + byteLength piece.chars := rfl

/-- `entries` has the pieces in the places of `Piece.placeFrom`. -/
theorem map_fst_entries (state : BodyState) (pieces : List Piece) :
    (state.entries pieces).map Prod.fst = Piece.placeFrom state.offset pieces := by
  induction pieces generalizing state with
  | nil => rfl
  | cons piece pieces ih =>
    rw [entries, List.map_cons, ih, offset_readPiece, Piece.placeFrom]
    rfl

/-- A property of `leafNode` in every state holds of all `entries`. -/
theorem forall_mem_entries (property : Piece → Node → Prop)
    (h : ∀ (state : BodyState) piece, property piece (state.leafNode piece)) (state : BodyState)
    (pieces : List Piece) : ∀ entry ∈ state.entries pieces, property entry.1.1 entry.2 := by
  induction pieces generalizing state with
  | nil => simp [entries]
  | cons piece pieces ih =>
    rw [entries, List.forall_mem_cons]
    exact ⟨h state piece, ih _⟩

@[simp]
theorem root_register (state : BodyState) (target : Variable) :
    (state.register target).root = state.root := by
  unfold register
  split <;> rfl

@[simp]
theorem frames_register (state : BodyState) (target : Variable) :
    (state.register target).frames = state.frames := by
  unfold register
  split <;> rfl

end BodyState

/-- `frame` has the marker and the nodes of `opened`. -/
structure Frame.IsOutlinedBy (frame : Frame) (opened : Opened Node) : Prop where
  /-- The opening marker in its place. -/
  opening : opened.opening = (frame.marker, frame.span)
  /-- The text that the marker becomes if the block stays open. -/
  label : opened.label = .text frame.marker.text
  /-- The nodes in the block. -/
  content : frame.content = opened.content.nodes

namespace BodyState

/-- `state` has the nodes and the open blocks of `outline`. -/
structure IsOutlinedBy (state : BodyState) (outline : Outline Node) : Prop where
  /-- The nodes outside all open blocks. -/
  root : state.root = outline.root.nodes
  /-- The open blocks. -/
  frames : List.Forall₂ Frame.IsOutlinedBy state.frames outline.opened

variable {state other : BodyState} {outline : Outline Node}

/-- `IsOutlinedBy` depends on `root` and `frames` only. -/
theorem IsOutlinedBy.of_eq (h : state.IsOutlinedBy outline) (hroot : other.root = state.root)
    (hframes : other.frames = state.frames) : other.IsOutlinedBy outline := by
  constructor
  · rw [hroot]
    exact h.root
  · rw [hframes]
    exact h.frames

/-- `addNode` follows `Outline.add` with a forest that pushes this node. -/
theorem IsOutlinedBy.addNode (h : state.IsOutlinedBy outline) {added : Forest Node} {node : Node}
    (hadded : ∀ before, Forest.nodesOnto before added = Node.push before node) :
    (state.addNode node).IsOutlinedBy (outline.add added) := by
  obtain ⟨root, opened⟩ := outline
  have hnodes : ∀ forest : Forest Node, (forest ++ added).nodes = Node.push forest.nodes node := by
    intro forest
    rw [Forest.nodes, Forest.nodesOnto_append, hadded, Forest.nodes]
  obtain ⟨hroot, hframes⟩ := h
  -- the node goes to the root if no block is open, and else to the innermost frame
  unfold BodyState.addNode
  split
  · rename_i hnil
    rw [hnil] at hframes
    cases hframes
    constructor
    · change Node.push state.root node = (root ++ added).nodes
      rw [hroot, hnodes]
    · exact hnil ▸ List.Forall₂.nil
  · rename_i frame frames hcons
    rw [hcons] at hframes
    cases hframes with
    | cons hframe hrest =>
      refine ⟨hroot, List.Forall₂.cons ⟨hframe.opening, hframe.label, ?_⟩ hrest⟩
      rw [hframe.content, hnodes]

/-- A marker that becomes a leaf is added as its `leafNode`. -/
theorem IsOutlinedBy.addLeaf (h : state.IsOutlinedBy outline) {marker : Marker} {node : Node}
    (hroot : other.root = state.root) (hframes : other.frames = state.frames)
    (hnode : state.leafNode (.marker marker) = node)
    (hloose : outline.IsLoose (marker, state.nextSpan (.marker marker))) :
    (other.addNode node).IsOutlinedBy
      (outline.read ((.marker marker, state.nextSpan (.marker marker)),
        state.leafNode (.marker marker))) := by
  have hread := Outline.read_of_isLoose hloose (state.leafNode (.marker marker))
  rw [Piece.ofMarker] at hread
  rw [hread, hnode]
  exact (h.of_eq hroot hframes).addNode fun before => rfl

/-- `readPlaceholder` follows `Outline.read`. -/
theorem IsOutlinedBy.readPlaceholder (h : state.IsOutlinedBy outline) {marker : Marker}
    (hkind : marker.kind = .placeholder) :
    (state.readPlaceholder marker (state.nextSpan (.marker marker))).IsOutlinedBy
      (outline.read ((.marker marker, state.nextSpan (.marker marker)),
        state.leafNode (.marker marker))) := by
  unfold BodyState.readPlaceholder
  split
  · rename_i hnone
    exact h.addLeaf rfl rfl (by simp [leafNode, hkind, hnone])
      (Outline.isLoose_of_placeholder hkind)
  · rename_i entry hsome
    exact h.addLeaf (root_register _ _) (frames_register _ _)
      (by simp [leafNode, hkind, hsome]) (Outline.isLoose_of_placeholder hkind)

/-- A marker that is no placeholder has its text as its `leafNode`. -/
theorem leafNode_of_kind_ne {marker : Marker} (hkind : marker.kind ≠ .placeholder) :
    state.leafNode (.marker marker) = .text marker.text :=
  if_neg hkind

/-- `readOpening` follows `Outline.read`. -/
theorem IsOutlinedBy.readOpening (h : state.IsOutlinedBy outline) {marker : Marker}
    (hkind : marker.kind = .opening) :
    (state.readOpening marker (state.nextSpan (.marker marker))).IsOutlinedBy
      (outline.read ((.marker marker, state.nextSpan (.marker marker)),
        state.leafNode (.marker marker))) := by
  have hnode : state.leafNode (.marker marker) = .text marker.text :=
    leafNode_of_kind_ne (by simp [hkind])
  unfold BodyState.readOpening
  split
  · rename_i hname
    exact h.addLeaf rfl rfl hnode (Outline.isLoose_of_opening hkind hname)
  · rename_i hname
    have hopens : marker.opensBlock = true := Marker.opensBlock_iff.mpr ⟨hkind, hname⟩
    rw [Outline.read_of_opensBlock hopens]
    exact ⟨h.root, List.Forall₂.cons ⟨rfl, hnode, rfl⟩ h.frames⟩

/-- A closing marker is kept as text, or closes the innermost frame. -/
theorem IsOutlinedBy.readClosing_cases (h : state.IsOutlinedBy outline) {marker : Marker}
    (hkind : marker.kind = .closing) (span : Span) :
    (outline.IsLoose (marker, span) ∧ state.readClosing marker = state.keepAsText marker) ∨
      ∃ frame frames innermost outer, state.frames = frame :: frames ∧
        outline.opened = innermost :: outer ∧ frame.IsOutlinedBy innermost ∧
        List.Forall₂ Frame.IsOutlinedBy frames outer ∧
        marker.closesBlock innermost.opening.1.name = true ∧
        state.readClosing marker =
          (BodyState.register { state with frames }
            (state.variableFor frame.marker.name frame.entry false frame.span)).addNode
            (.block frame.marker.name frame.content) := by
  have hopens : marker.opensBlock = false := by simp [Marker.opensBlock, hkind]
  have hframes := h.frames
  cases hstate : state.frames with
  | nil =>
    rw [hstate, List.forall₂_nil_left_iff] at hframes
    exact Or.inl ⟨⟨hopens, by simp [hframes]⟩, by rw [BodyState.readClosing, hstate]⟩
  | cons frame frames =>
    rw [hstate] at hframes
    obtain ⟨innermost, outer, hframe, hrest, hopened⟩ := List.forall₂_cons_left_iff.mp hframes
    have hcloses : marker.closesBlock innermost.opening.1.name = true ↔
        marker.name = "" ∨ marker.name = frame.marker.name := by
      rw [Marker.closesBlock_iff, hframe.opening]
      exact and_iff_right hkind
    by_cases hmatch : marker.name = "" ∨ marker.name = frame.marker.name
    · refine Or.inr ⟨frame, frames, innermost, outer, rfl, hopened, hframe, hrest,
        hcloses.mpr hmatch, ?_⟩
      rw [BodyState.readClosing, hstate]
      exact if_pos hmatch
    -- it has another name and stays text, even if an outer block has this name
    · refine Or.inl ⟨⟨hopens, ?_⟩, ?_⟩
      · intro other others hothers
        obtain ⟨rfl, -⟩ := List.cons.inj (hopened.symm.trans hothers)
        simpa using fun hcontra => hmatch (hcloses.mp hcontra)
      · rw [BodyState.readClosing, hstate]
        exact if_neg hmatch

/-- `readClosing` follows `Outline.read`. -/
theorem IsOutlinedBy.readClosing (h : state.IsOutlinedBy outline) {marker : Marker}
    (hkind : marker.kind = .closing) :
    (state.readClosing marker).IsOutlinedBy
      (outline.read ((.marker marker, state.nextSpan (.marker marker)),
        state.leafNode (.marker marker))) := by
  rcases h.readClosing_cases hkind (state.nextSpan (.marker marker)) with ⟨hloose, hread⟩ |
    ⟨frame, frames, innermost, outer, hstate, hopened, hframe, hrest, hcloses, hread⟩
  · rw [hread]
    exact h.addLeaf rfl rfl (leafNode_of_kind_ne (by simp [hkind])) hloose
  -- the nodes in the block become the content of a block
  · have hclosed : BodyState.IsOutlinedBy { state with frames }
        { outline with opened := outer } := ⟨h.root, hrest⟩
    rw [hread, Outline.read_of_closesBlock hopened hcloses, Outline.closeBlock]
    refine (hclosed.of_eq (root_register _ _) (frames_register _ _)).addNode ?_
    intro before
    rw [Forest.nodesOnto, hframe.opening, hframe.content]
    rfl

/-- `readPiece` follows `Outline.read` on the piece and its `leafNode`. -/
theorem IsOutlinedBy.readPiece (h : state.IsOutlinedBy outline) (piece : Piece) :
    (state.readPiece piece).IsOutlinedBy
      (outline.read ((piece, state.nextSpan piece), state.leafNode piece)) := by
  cases piece with
  | text chars => exact (h.addNode fun before => rfl).of_eq rfl rfl
  | marker marker =>
    have hmarker : (state.readMarker marker (state.nextSpan (.marker marker))).IsOutlinedBy
        (outline.read ((.marker marker, state.nextSpan (.marker marker)),
          state.leafNode (.marker marker))) := by
      unfold BodyState.readMarker
      split
      · rename_i hkind
        exact h.readPlaceholder hkind
      · rename_i hkind
        exact h.readOpening hkind
      · rename_i hkind
        exact h.readClosing hkind
    exact hmarker.of_eq rfl rfl

/-- A run of `readPiece` follows a run of `Outline.read` on the `entries`. -/
theorem isOutlinedBy_foldl_readPiece (h : state.IsOutlinedBy outline) (pieces : List Piece) :
    (pieces.foldl BodyState.readPiece state).IsOutlinedBy
      ((state.entries pieces).foldl Outline.read outline) := by
  induction pieces generalizing state outline with
  | nil => exact h
  | cons piece pieces ih =>
    rw [entries, List.foldl_cons, List.foldl_cons]
    exact ih (h.readPiece piece)

theorem isOutlinedBy_empty (header : Header) : IsOutlinedBy { header } {} :=
  ⟨rfl, List.Forall₂.nil⟩

/-- `pushFrame` appends the opening marker as a leaf and then the forest of the block. -/
theorem pushFrame_nodes {frame : Frame} {opened : Opened Node} (h : frame.IsOutlinedBy opened)
    (before : Forest Node) :
    pushFrame before.nodes frame =
      (before ++ .leaf (Piece.ofMarker opened.opening) opened.label opened.content).nodes := by
  rw [pushFrame, h.content, Forest.pushAll_nodes, Forest.nodes, Forest.nodes,
    Forest.nodesOnto_append, Forest.nodesOnto, h.label]
  rfl

/-- `flatten .documentOrder` gives the nodes of `outline.forest`. -/
theorem IsOutlinedBy.flatten_documentOrder (h : state.IsOutlinedBy outline) :
    state.flatten .documentOrder = outline.forest.nodes := by
  -- by induction on the open blocks from the outermost to the innermost
  have hfold : ∀ (frames : List Frame) (opened : List (Opened Node)),
      List.Forall₂ Frame.IsOutlinedBy frames opened →
        frames.foldr (fun frame nodes => pushFrame nodes frame) state.root =
          (Outline.forest { outline with opened }).nodes := by
    intro frames opened hframes
    induction hframes with
    | nil => exact h.root
    | cons hframe _ ih =>
      rw [List.foldr_cons, ih, pushFrame_nodes hframe, Outline.forest_cons]
  rw [flatten, List.foldl_reverse]
  exact hfold state.frames outline.opened h.frames

/-- `outline.opened` has the markers of `state.frames`. -/
theorem IsOutlinedBy.map_opening (h : state.IsOutlinedBy outline) :
    outline.opened.map Opened.opening =
      state.frames.map fun frame => (frame.marker, frame.span) := by
  obtain ⟨-, hframes⟩ := h
  generalize state.frames = frames at hframes ⊢
  generalize outline.opened = opened at hframes ⊢
  induction hframes with
  | nil => rfl
  | cons hframe _ ih => rw [List.map_cons, List.map_cons, ih, hframe.opening]

/-- `state.unclosed` has one diagnostic for each block in `outline.opened`, the outermost first. -/
theorem IsOutlinedBy.unclosed (h : state.IsOutlinedBy outline) :
    state.unclosed = (outline.opened.map Opened.opening).reverse.map fun opening =>
      Diagnostic.unclosedBlock opening.1.text opening.2 := by
  rw [h.map_opening, BodyState.unclosed, ← List.map_reverse, List.map_map]
  rfl

end BodyState

namespace ParsedBody

/-- `ofString` is `ofPieces`: the shortcut for a body without markers changes nothing. -/
theorem ofString_eq_ofPieces (recovery : Recovery) (header : Header) (body : String) :
    ofString recovery header body =
      ofPieces recovery header (Piece.ofChars body.toList) := by
  unfold ofString
  split
  · rfl
  · rename_i hmarkers
    -- the pieces are a single text, or none
    rw [Piece.ofChars_of_mayContainMarkers_eq_false _ (by simpa using hmarkers)]
    by_cases hempty : body = ""
    · subst hempty
      cases recovery <;> rfl
    · have hnodes : Node.pushText [] body = [.text body] := by simp [Node.pushText, hempty]
      have hchars : body.toList ≠ [] := by simpa using hempty
      rw [if_neg hchars, hnodes]
      cases recovery <;>
        simp [ofPieces, BodyState.readPiece, BodyState.addNode, BodyState.finish,
          BodyState.flatten, BodyState.unclosed, hnodes, Node.push]

end ParsedBody

/-! ### Bodies -/

section Bodies

variable (header : Header) (body : String)

/-- The outline of a body, its leaves labelled by `BodyState.leafNode`. -/
def outlineOf : Outline Node :=
  (BodyState.entries { header } (Piece.ofChars body.toList)).foldl Outline.read {}

/-- The forest of a body, with its open blocks written back. -/
def forestOf : Forest Node :=
  (outlineOf header body).forest

/-- The state at the end of a body is outlined by `outlineOf`. -/
theorem isOutlinedBy_outlineOf :
    BodyState.IsOutlinedBy
      ((Piece.ofChars body.toList).foldl BodyState.readPiece { header })
      (outlineOf header body) :=
  BodyState.isOutlinedBy_foldl_readPiece (BodyState.isOutlinedBy_empty header) _

/-- In `Recovery.documentOrder`, the nodes of a body are those of `forestOf`. -/
theorem nodes_ofString :
    (ParsedBody.ofString .documentOrder header body).nodes = (forestOf header body).nodes := by
  rw [ParsedBody.ofString_eq_ofPieces]
  exact (isOutlinedBy_outlineOf header body).flatten_documentOrder

/-- `forestOf` has the pieces of the body. -/
theorem pieces_forestOf : (forestOf header body).pieces = placedPieces body := by
  rw [forestOf, outlineOf, Outline.pieces_foldl_read, BodyState.map_fst_entries]
  rfl

theorem tiles_forestOf : Tiles 0 (forestOf header body).pieces (byteLength body.toList) := by
  rw [pieces_forestOf]
  exact tiles_placedPieces body

/-- A property of `BodyState.leafNode` in every state holds of all leaves of `forestOf`. -/
theorem forall_mem_leaves_forestOf (property : Piece → Node → Prop)
    (h : ∀ (state : BodyState) piece, property piece (state.leafNode piece)) :
    ∀ leaf ∈ (forestOf header body).leaves, property leaf.1.1 leaf.2 := by
  intro leaf hleaf
  have hentry := (Outline.leaves_foldl_read _ _).subset hleaf
  exact BodyState.forall_mem_entries property h _ _ leaf hentry

theorem markersBack_outlineOf :
    (outlineOf header body).markersBack = (markers body).reverse := by
  rw [Outline.markersBack, ← forestOf, pieces_forestOf, markers_eq_filterMap]

theorem isLatestFirst_reverse_markers : IsLatestFirst (markers body).reverse :=
  List.pairwise_reverse.mpr (markers_pairwise body)

/-- `outlineOf` pairs the markers of the body as `blockPairs` does. -/
theorem pairsUp_outlineOf : (outlineOf header body).PairsUp := by
  apply Outline.pairsUp_foldl_read _ Outline.pairsUp_empty
  rw [← outlineOf, markersBack_outlineOf]
  exact isLatestFirst_reverse_markers body

/-- The pairs of `forestOf` are `blockPairs` of the markers of the body, in the same order. -/
theorem pairs_forestOf : (forestOf header body).pairs = blockPairs (markers body) := by
  have hperm := (pairsUp_outlineOf header body).pairs
  rw [markersBack_outlineOf] at hperm
  exact eq_blockPairs_of_perm (Forest.pairs_pairwise (tiles_forestOf header body)) hperm

/-- The blocks that stay open, the outermost first, are the markers with `isUnpaired`. -/
theorem map_opening_outlineOf :
    ((outlineOf header body).opened.map Opened.opening).reverse =
      (markers body).filter (isUnpaired (blockPairs (markers body))) := by
  have hopened := (pairsUp_outlineOf header body).opened
  rw [markersBack_outlineOf, unpairedBack, ← isUnpaired_congr (blockPairs_perm (markers body)),
    List.filter_reverse] at hopened
  rw [hopened, List.reverse_reverse]

/-- A body has one `Diagnostic.unclosedBlock` for each opening marker with `isUnpaired`, in document
order. -/
theorem diagnostics_ofString (recovery : Recovery) :
    (ParsedBody.ofString recovery header body).diagnostics =
      ((markers body).filter (isUnpaired (blockPairs (markers body)))).map fun opening =>
        Diagnostic.unclosedBlock opening.1.text opening.2 := by
  rw [ParsedBody.ofString_eq_ofPieces, ParsedBody.ofPieces, BodyState.finish,
    (isOutlinedBy_outlineOf header body).unclosed, map_opening_outlineOf]

end Bodies

end MarkdownTemplate
