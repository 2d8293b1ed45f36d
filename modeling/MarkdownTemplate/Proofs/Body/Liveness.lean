import MarkdownTemplate.Proofs.Body.Declarations

/-!
# Which placeholders stand for variables

Whether a placeholder stands for a variable can be told from the names that are declared at the
start and from the markers before it: its name is declared, or an opening marker before it has that
name. It does not matter where that block ends, or whether it does.

* `standsForVariable`: which placeholders do;
* `IsLeafOf`: the node that a piece becomes which neither opens nor closes a block;
* `isLeafOf_of_mem_entries`: the pieces that are read become such nodes;
* `isLeafOf_of_mem_leaves`: so do the leaves of the forest of a body.
-/

namespace MarkdownTemplate

section Placeholders

variable (declares : String → Bool) (found : List PlacedMarker)

/-- The marker is a placeholder with a non-empty name which `declares` holds of, or which an opening
marker in `found` before it has. -/
def standsForVariable (placeholder : PlacedMarker) : Bool :=
  placeholder.1.kind == .placeholder && placeholder.1.name != "" &&
    (declares placeholder.1.name ||
      found.any fun opening =>
        opening.1.kind == .opening && opening.1.name == placeholder.1.name &&
          decide (opening.2.start < placeholder.2.start))

/-- The label of a leaf: a reference if its marker has `standsForVariable`, and else its text. -/
inductive IsLeafOf : PlacedPiece → Node → Prop
  | text (placed : PlacedPiece)
      (hlive : ∀ marker, Piece.placedMarker? placed = some marker →
        standsForVariable declares found marker = false) :
      IsLeafOf placed (.text (String.ofList placed.1.chars))
  | reference (marker : PlacedMarker) (target : Variable)
      (hlive : standsForVariable declares found marker = true)
      (hname : target.name = marker.1.name) :
      IsLeafOf (Piece.ofMarker marker) (.reference target marker.1.text)

end Placeholders

variable {declares : String → Bool}

theorem standsForVariable_iff {found : List PlacedMarker} {placeholder : PlacedMarker} :
    standsForVariable declares found placeholder = true ↔
      placeholder.1.kind = .placeholder ∧ placeholder.1.name ≠ "" ∧
        (declares placeholder.1.name = true ∨
          ∃ opening ∈ found, opening.1.kind = .opening ∧
            opening.1.name = placeholder.1.name ∧ opening.2.start < placeholder.2.start) := by
  simp [standsForVariable, and_assoc]

/-- `standsForVariable` is `false` on markers of blocks. -/
theorem standsForVariable_eq_false {found : List PlacedMarker} {marker : PlacedMarker}
    (hkind : marker.1.kind ≠ .placeholder) : standsForVariable declares found marker = false :=
  Bool.eq_false_iff.mpr fun h => hkind (standsForVariable_iff.mp h).1

/-- `standsForVariable` says whether the state that reads the placeholder declares its name. -/
theorem standsForVariable_append {state : BodyState} {seen later : List PlacedMarker}
    (hdeclares : state.Declares declares seen)
    (hseen : ∀ other ∈ seen, other.2.start < state.offset)
    (hlater : ∀ other ∈ later, state.offset ≤ other.2.start) {marker : Marker}
    (hkind : marker.kind = .placeholder) :
    standsForVariable declares (seen ++ later) (marker, state.nextSpan (.marker marker)) =
      (state.declared? marker.name).isSome := by
  rw [Bool.eq_iff_iff, standsForVariable_iff, BodyState.isSome_declared?_iff,
    hdeclares marker.name, Bool.or_eq_true, opensNamed_iff]
  simp only [hkind, true_and, and_congr_right_iff]
  intro hname
  apply or_congr_right
  constructor
  -- of all opening markers, those before the placeholder are those that are read
  · rintro ⟨opening, hmem, hopening, hsame, hbefore⟩
    rcases List.mem_append.mp hmem with hmem | hmem
    · exact ⟨opening, hmem, by simp [Marker.opensBlock, hopening, hsame, hname], hsame⟩
    · exact absurd hbefore (Nat.not_lt_of_ge (hlater opening hmem))
  · rintro ⟨opening, hmem, hopens, hsame⟩
    exact ⟨opening, List.mem_append_left _ hmem, (Marker.opensBlock_iff.mp hopens).1, hsame,
      hseen opening hmem⟩

/-- `leafNode` is a label as in `IsLeafOf`. -/
theorem isLeafOf_leafNode {state : BodyState} {seen later : List PlacedMarker}
    (hdeclares : state.Declares declares seen)
    (hseen : ∀ other ∈ seen, other.2.start < state.offset)
    (hlater : ∀ other ∈ later, state.offset ≤ other.2.start) (piece : Piece) :
    IsLeafOf declares (seen ++ later) (piece, state.nextSpan piece) (state.leafNode piece) := by
  cases piece with
  | text chars => exact .text _ fun marker hmarker => absurd hmarker (by simp)
  | marker marker =>
    have htext : standsForVariable declares (seen ++ later)
          (marker, state.nextSpan (.marker marker)) = false →
        IsLeafOf declares (seen ++ later) (.marker marker, state.nextSpan (.marker marker))
          (.text marker.text) := by
      intro hlive
      refine .text (.marker marker, state.nextSpan (.marker marker)) fun found hfound => ?_
      rwa [← Option.some.inj hfound]
    rw [BodyState.leafNode]
    split
    · rename_i hkind
      have hlive := standsForVariable_append hdeclares hseen hlater hkind
      cases hentry : state.declared? marker.name with
      | none => exact htext (by rw [hlive, hentry]; rfl)
      | some entry =>
        exact .reference (marker, state.nextSpan (.marker marker)) _ (by rw [hlive, hentry]; rfl)
          (state.name_variableFor _ _ _ _)
    · rename_i hkind
      exact htext (standsForVariable_eq_false hkind)

/-- All `entries` of a run satisfy `IsLeafOf`. -/
theorem isLeafOf_of_mem_entries {state : BodyState} {seen : List PlacedMarker}
    {pieces : List Piece} {stop : Nat} (hdeclares : state.Declares declares seen)
    (hseen : ∀ other ∈ seen, other.2.start < state.offset)
    (htiles : Tiles state.offset (Piece.placeFrom state.offset pieces) stop)
    {entry : PlacedPiece × Node} (hentry : entry ∈ state.entries pieces) :
    IsLeafOf declares
      (seen ++ (Piece.placeFrom state.offset pieces).filterMap Piece.placedMarker?)
      entry.1 entry.2 := by
  induction pieces generalizing state seen with
  | nil => exact absurd hentry (by simp [BodyState.entries])
  | cons piece pieces ih =>
    rw [BodyState.entries] at hentry
    rcases List.mem_cons.mp hentry with rfl | hentry
    · exact isLeafOf_leafNode hdeclares hseen
        (fun other hother => (htiles.marker_bounds hother).1) piece
    -- the marker of `piece` joins those that were seen, all of them behind the new offset
    · have hsize := htiles.head_bounds.2
      have hread : ∀ other ∈ seen ++ (Piece.placedMarker? (piece, state.nextSpan piece)).toList,
          other.2.start < (state.readPiece piece).offset := by
        intro other hother
        rcases List.mem_append.mp hother with hother | hother
        · exact Nat.lt_trans (hseen other hother) hsize
        · rw [Option.mem_toList] at hother
          rw [← (Prod.mk.inj (Piece.eq_of_placedMarker?_eq_some hother)).2]
          exact hsize
      have hnext := ih (hdeclares.readPiece piece) hread htiles.tail hentry
      rw [List.append_assoc] at hnext
      rw [Piece.placeFrom, Piece.filterMap_placedMarker?_cons]
      exact hnext

/-- All leaves of `forestOf` satisfy `IsLeafOf`. -/
theorem isLeafOf_of_mem_leaves (header : Header) (body : String) :
    ∀ leaf ∈ (forestOf header body).leaves,
      IsLeafOf header.declares (markers body) leaf.1 leaf.2 := by
  have hdeclares : BodyState.Declares { header } header.declares [] := by
    intro name
    simp [opensNamed]
  intro leaf hleaf
  have hentry := (Outline.leaves_foldl_read _ _).subset hleaf
  rw [markers_eq_filterMap]
  exact isLeafOf_of_mem_entries hdeclares (by simp) (tiles_placedPieces body) hentry

end MarkdownTemplate
