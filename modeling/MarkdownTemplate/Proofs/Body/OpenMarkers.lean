import MarkdownTemplate.Proofs.Body.Reading

/-!
# Markers of open blocks

Which blocks are open when a part of a body is read is fixed by the markers that are read, one after
another. Nothing else in the state matters, so this can be followed apart from nodes, variables and
declarations.

* `BodyState.openMarkers`: the markers of the open blocks;
* `BodyState.openMarkers_readPiece`: what a piece does to them;
* `BodyState.map_fst_nextOpenMarkers`: their places do not matter;
* `BodyState.unclosed_eq_map_openMarkers`: the diagnostics at the end are about them.
-/

namespace MarkdownTemplate

namespace BodyState

/-- The opening markers of `state.frames` with their places, the innermost first. -/
def openMarkers (state : BodyState) : List PlacedMarker :=
  state.frames.map fun frame => (frame.marker, frame.span)

/-- `marker` closes the first of `opened`. -/
def closesInnermost (opened : List PlacedMarker) (marker : Marker) : Bool :=
  opened.head?.any fun innermost => marker.closesBlock innermost.1.name

/-- `openMarkers` after a piece: a marker that opens a block is put first, and one with
`closesInnermost` removes the first. -/
def nextOpenMarkers (opened : List PlacedMarker) : PlacedPiece → List PlacedMarker
  | (.text _, _) => opened
  | (.marker marker, span) =>
    if marker.opensBlock then (marker, span) :: opened
    else if closesInnermost opened marker then opened.tail else opened

/-- `nextOpenMarkers` depends on places only by keeping them. -/
theorem map_fst_nextOpenMarkers {opened others : List PlacedMarker}
    (h : opened.map Prod.fst = others.map Prod.fst) (piece : Piece) (span other : Span) :
    (nextOpenMarkers opened (piece, span)).map Prod.fst =
      (nextOpenMarkers others (piece, other)).map Prod.fst := by
  cases piece with
  | text chars => exact h
  | marker marker =>
    -- which block is innermost shows in the markers without their places
    have hinnermost : ∀ list, closesInnermost list marker =
        (list.map Prod.fst).head?.any fun innermost => marker.closesBlock innermost.name := by
      intro list
      cases list <;> rfl
    have hcloses : closesInnermost opened marker = closesInnermost others marker := by
      rw [hinnermost, h, ← hinnermost]
    rw [nextOpenMarkers, nextOpenMarkers, hcloses]
    split
    · rw [List.map_cons, List.map_cons, h]
    · split
      · rw [List.map_tail, List.map_tail, h]
      · exact h

@[simp]
theorem openMarkers_addNode (state : BodyState) (node : Node) :
    (state.addNode node).openMarkers = state.openMarkers := by
  unfold addNode
  split
  · rfl
  · rename_i frame frames hframes
    rw [openMarkers, openMarkers, hframes]
    rfl

@[simp]
theorem openMarkers_register (state : BodyState) (target : Variable) :
    (state.register target).openMarkers = state.openMarkers := by
  rw [openMarkers, frames_register, openMarkers]

/-- `nextOpenMarkers` ignores a marker that neither opens a block nor has `closesInnermost`. -/
theorem nextOpenMarkers_eq_self {opened : List PlacedMarker} {marker : Marker} (span : Span)
    (hopens : marker.opensBlock = false) (hcloses : closesInnermost opened marker = false) :
    nextOpenMarkers opened (.marker marker, span) = opened := by
  rw [nextOpenMarkers, hopens, hcloses]
  rfl

theorem closesInnermost_eq_false {opened : List PlacedMarker} {marker : Marker}
    (hkind : marker.kind ≠ .closing) : closesInnermost opened marker = false := by
  cases opened with
  | nil => rfl
  | cons innermost outer => simp [closesInnermost, Marker.closesBlock, hkind]

theorem openMarkers_keepAsText (state : BodyState) {marker : Marker} (span : Span)
    (hopens : marker.opensBlock = false)
    (hcloses : closesInnermost state.openMarkers marker = false) :
    (state.keepAsText marker).openMarkers =
      nextOpenMarkers state.openMarkers (.marker marker, span) := by
  rw [keepAsText, openMarkers_addNode, nextOpenMarkers_eq_self span hopens hcloses]

theorem openMarkers_readPlaceholder (state : BodyState) {marker : Marker} (span : Span)
    (hkind : marker.kind = .placeholder) :
    (state.readPlaceholder marker span).openMarkers =
      nextOpenMarkers state.openMarkers (.marker marker, span) := by
  have hopens : marker.opensBlock = false := by simp [Marker.opensBlock, hkind]
  have hcloses : closesInnermost state.openMarkers marker = false :=
    closesInnermost_eq_false (by simp [hkind])
  unfold readPlaceholder
  split
  · exact state.openMarkers_keepAsText span hopens hcloses
  · rw [openMarkers_addNode, openMarkers_register, nextOpenMarkers_eq_self span hopens hcloses]

theorem openMarkers_readOpening (state : BodyState) {marker : Marker} (span : Span)
    (hkind : marker.kind = .opening) :
    (state.readOpening marker span).openMarkers =
      nextOpenMarkers state.openMarkers (.marker marker, span) := by
  unfold readOpening
  split
  · rename_i hname
    exact state.openMarkers_keepAsText span (by simp [Marker.opensBlock, hname])
      (closesInnermost_eq_false (by simp [hkind]))
  · rename_i hname
    rw [nextOpenMarkers, if_pos (Marker.opensBlock_iff.mpr ⟨hkind, hname⟩)]
    rfl

theorem openMarkers_readClosing (state : BodyState) {marker : Marker} (span : Span)
    (hkind : marker.kind = .closing) :
    (state.readClosing marker).openMarkers =
      nextOpenMarkers state.openMarkers (.marker marker, span) := by
  have hopens : marker.opensBlock = false := by simp [Marker.opensBlock, hkind]
  unfold readClosing
  split
  · rename_i hframes
    exact state.openMarkers_keepAsText span hopens (by simp [closesInnermost, openMarkers, hframes])
  · rename_i frame frames hframes
    have hopen : state.openMarkers = (frame.marker, frame.span) ::
        openMarkers { state with frames } := by
      rw [openMarkers, hframes]
      rfl
    have hcloses : closesInnermost state.openMarkers marker = true ↔
        marker.name = "" ∨ marker.name = frame.marker.name := by
      rw [hopen]
      exact Marker.closesBlock_iff.trans (and_iff_right hkind)
    dsimp only
    split
    · rename_i hmatch
      rw [openMarkers_addNode, openMarkers_register, nextOpenMarkers, hopens,
        hcloses.mpr hmatch, hopen]
      rfl
    · rename_i hmatch
      exact state.openMarkers_keepAsText span hopens
        (Bool.eq_false_iff.mpr (mt hcloses.mp hmatch))

theorem openMarkers_readMarker (state : BodyState) (marker : Marker) (span : Span) :
    (state.readMarker marker span).openMarkers =
      nextOpenMarkers state.openMarkers (.marker marker, span) := by
  unfold readMarker
  split
  · rename_i hkind
    exact state.openMarkers_readPlaceholder span hkind
  · rename_i hkind
    exact state.openMarkers_readOpening span hkind
  · rename_i hkind
    exact state.openMarkers_readClosing span hkind

theorem map_marker_frames (state : BodyState) :
    state.frames.map Frame.marker = state.openMarkers.map Prod.fst := by
  rw [openMarkers, List.map_map]
  rfl

theorem unclosed_eq_map_openMarkers (state : BodyState) :
    state.unclosed = state.openMarkers.reverse.map fun opening =>
      Diagnostic.unclosedBlock opening.1.text opening.2 := by
  rw [unclosed, openMarkers, ← List.map_reverse, List.map_map]
  rfl

/-- `readPiece` changes `openMarkers` by `nextOpenMarkers`. -/
theorem openMarkers_readPiece (state : BodyState) (piece : Piece) :
    (state.readPiece piece).openMarkers =
      nextOpenMarkers state.openMarkers (piece, state.nextSpan piece) := by
  cases piece with
  | text chars => exact state.openMarkers_addNode _
  | marker marker => exact state.openMarkers_readMarker marker _

end BodyState

end MarkdownTemplate
