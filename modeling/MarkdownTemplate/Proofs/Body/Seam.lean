import MarkdownTemplate.Proofs.Body.OpenMarkers
import MarkdownTemplate.Proofs.Body.Resemblance
import MarkdownTemplate.Proofs.Marker.Occurrences

/-!
# Seams between bodies

A body may be cut in two where no marker is cut. If no block is open there, the second part is read
after the first one as it would be read on its own, with what the first part has declared. The only
things that are handed on are the header and the variables in use.

* `BodyState.foldl_readPiece_append`: a body is read part by part;
* `BodyState.openMarkers_foldl_readPiece`: the second part leaves the same blocks open in both runs;
* `ofString_append`: the whole body is parsed so;
* `seam_ofString`: the two parts of a body.
-/

namespace MarkdownTemplate

/-- `found` with its place moved by `offset` bytes. -/
def PlacedMarker.shift (offset : Nat) (found : PlacedMarker) : PlacedMarker :=
  (found.1, found.2.shift offset)

namespace Piece

theorem markersFrom_add (offset start : Nat) (pieces : List Piece) :
    markersFrom (start + offset) pieces =
      (markersFrom start pieces).map (PlacedMarker.shift offset) := by
  induction pieces generalizing start with
  | nil => rfl
  | cons piece pieces ih =>
    cases piece with
    | text chars =>
      rw [markersFrom, markersFrom, Nat.add_right_comm]
      exact ih _
    | marker found =>
      rw [markersFrom, markersFrom, Nat.add_right_comm, ih, List.map_cons]
      rfl

/-- No marker of `markersFrom` starts before `offset`. -/
theorem le_start_of_mem_markersFrom {pieces : List Piece} {offset : Nat} {found : PlacedMarker}
    (h : found ∈ markersFrom offset pieces) : offset ≤ found.2.start := by
  induction pieces generalizing offset with
  | nil => exact absurd h List.not_mem_nil
  | cons piece pieces ih =>
    cases piece with
    | text chars => exact Nat.le_trans (Nat.le_add_right ..) (ih h)
    | marker marker =>
      rcases List.mem_cons.mp h with rfl | hmem
      · exact Nat.le_refl _
      · exact Nat.le_trans (Nat.le_add_right ..) (ih hmem)

/-- `Marker.read?` fails at the front of a text whose markers all start later. -/
theorem read?_eq_none_of_forall_lt_start {chars : List Char} (offset : Nat)
    (h : ∀ found ∈ markersFrom offset (ofChars chars), offset < found.2.start) :
    Marker.read? chars = none := by
  cases hread : Marker.read? chars with
  | none => rfl
  | some read =>
    have hfirst : (read.1, ⟨offset, offset + read.1.size⟩) ∈
        markersFrom offset (ofChars ([] ++ chars)) := mem_markersFrom_of_read? hread offset
    exact absurd (h _ hfirst) (Nat.lt_irrefl offset)

end Piece

namespace BodyState

/-! ### Reading a body part by part -/

/-- Reading a text is reading its two parts one after the other. -/
theorem readPiece_text_append (state : BodyState) (first second : List Char) :
    state.readPiece (.text (first ++ second)) =
      (state.readPiece (.text first)).readPiece (.text second) := by
  have hoffset : state.offset + byteLength (first ++ second) =
      state.offset + byteLength first + byteLength second := by
    rw [byteLength_append, Nat.add_assoc]
  cases hframes : state.frames with
  | nil =>
    simp only [readPiece, addNode, hframes, Piece.chars, Node.push_text, Node.pushText_pushText,
      String.ofList_append, hoffset]
  | cons frame frames =>
    simp only [readPiece, addNode, hframes, Piece.chars, Node.push_text, Node.pushText_pushText,
      String.ofList_append, hoffset]

/-- A character that `Piece.cons` puts in front may be read as a text of its own. -/
theorem foldl_readPiece_cons (state : BodyState) (c : Char) (pieces : List Piece) :
    (Piece.cons c pieces).foldl readPiece state =
      pieces.foldl readPiece (state.readPiece (.text [c])) := by
  rcases Piece.cons_cases c pieces with ⟨chars, later, rfl, hcons⟩ | ⟨-, hcons⟩
  · rw [hcons, List.foldl_cons, List.foldl_cons]
    exact congrArg (later.foldl readPiece) (state.readPiece_text_append [c] chars)
  · rw [hcons, List.foldl_cons]

/-- If `markersFrom` splits at the seam, reading a body is reading its two parts one after the
other. -/
theorem foldl_readPiece_append {first second : List Char} {offset : Nat}
    (h : Piece.markersFrom offset (Piece.ofChars (first ++ second)) =
      Piece.markersFrom offset (Piece.ofChars first) ++
        Piece.markersFrom (offset + byteLength first) (Piece.ofChars second))
    (state : BodyState) :
    (Piece.ofChars (first ++ second)).foldl readPiece state =
      (Piece.ofChars second).foldl readPiece ((Piece.ofChars first).foldl readPiece state) := by
  -- by induction on the first part, of which the pieces are read up to the seam
  fun_induction Piece.ofChars first generalizing offset state with
  | case1 => rfl
  | case2 c rest found after hread ih =>
    have hreadable := Marker.isReadable_of_read? hread
    have hpieces : Piece.ofChars (c :: rest ++ second) =
        .marker found :: Piece.ofChars (after ++ second) := by
      rw [← Marker.chars_append_of_read? hread, List.append_assoc]
      exact Piece.ofChars_chars_append hreadable _
    have hlength : offset + byteLength (c :: rest) = offset + found.size + byteLength after := by
      rw [← Marker.chars_append_of_read? hread, byteLength_append, Marker.size, Nat.add_assoc]
    rw [hpieces, hlength] at h
    rw [hpieces]
    exact ih (List.cons.inj h).2 _
  | case3 c rest hread ih =>
    -- a marker here would start before all that are left, and they are all there are
    have hnone : Marker.read? (c :: (rest ++ second)) = none := by
      apply Piece.read?_eq_none_of_forall_lt_start offset
      intro found hfound
      have hpos := Char.utf8Size_pos c
      rw [← List.cons_append, h, Piece.markersFrom_cons, List.mem_append, byteLength_cons] at hfound
      rcases hfound with hmem | hmem
      · exact Nat.lt_of_lt_of_le (by omega) (Piece.le_start_of_mem_markersFrom hmem)
      · exact Nat.lt_of_lt_of_le (by omega) (Piece.le_start_of_mem_markersFrom hmem)
    rw [List.cons_append, Piece.ofChars_cons hnone] at h ⊢
    rw [Piece.markersFrom_cons, Piece.markersFrom_cons, byteLength_cons, ← Nat.add_assoc] at h
    rw [foldl_readPiece_cons, foldl_readPiece_cons]
    exact ih h _

theorem offset_foldl_readPiece (state : BodyState) (pieces : List Piece) :
    (pieces.foldl readPiece state).offset =
      state.offset + byteLength (pieces.flatMap Piece.chars) := by
  induction pieces generalizing state with
  | nil => rfl
  | cons piece pieces ih =>
    rw [List.foldl_cons, ih, offset_readPiece, List.flatMap_cons, byteLength_append,
      Nat.add_assoc]

/-! ### Blocks that stay open -/

theorem nextOpenMarkers_shift (offset : Nat) (opened : List PlacedMarker) (piece : Piece)
    (span : Span) :
    nextOpenMarkers (opened.map (PlacedMarker.shift offset)) (piece, span.shift offset) =
      (nextOpenMarkers opened (piece, span)).map (PlacedMarker.shift offset) := by
  cases piece with
  | text chars => rfl
  | marker marker =>
    have hcloses : closesInnermost (opened.map (PlacedMarker.shift offset)) marker =
        closesInnermost opened marker := by
      cases opened <;> rfl
    rw [nextOpenMarkers, nextOpenMarkers, hcloses]
    split
    · rfl
    · split
      · exact List.map_tail.symm
      · rfl

/-- A run over the same pieces from a shifted state leaves the same `openMarkers`, shifted. -/
theorem openMarkers_foldl_readPiece {first second : BodyState} {offset : Nat}
    (hoffset : first.offset = second.offset + offset)
    (hopen : first.openMarkers = second.openMarkers.map (PlacedMarker.shift offset))
    (pieces : List Piece) :
    (pieces.foldl readPiece first).openMarkers =
      (pieces.foldl readPiece second).openMarkers.map (PlacedMarker.shift offset) := by
  induction pieces generalizing first second with
  | nil => exact hopen
  | cons piece pieces ih =>
    have hspan : first.nextSpan piece = (second.nextSpan piece).shift offset := by
      simp only [nextSpan, hoffset, Span.shift, Nat.add_right_comm]
    refine ih ?_ ?_
    · rw [offset_readPiece, offset_readPiece, hoffset, Nat.add_right_comm]
    · rw [openMarkers_readPiece, openMarkers_readPiece, hopen, hspan, nextOpenMarkers_shift]

end BodyState

/-- If `markers` splits at the seam, parsing a body is reading its two parts one after the other. -/
theorem ofString_append (recovery : Recovery) (header : Header) {first second : String}
    (hseam : markers (first ++ second) = markers first ++
      (markers second).map (PlacedMarker.shift (byteLength first.toList))) :
    ParsedBody.ofString recovery header (first ++ second) =
      ((Piece.ofChars second.toList).foldl BodyState.readPiece
        ((Piece.ofChars first.toList).foldl BodyState.readPiece { header })).finish recovery := by
  have hmarkers : Piece.markersFrom 0 (Piece.ofChars (first.toList ++ second.toList)) =
      Piece.markersFrom 0 (Piece.ofChars first.toList) ++
        Piece.markersFrom (0 + byteLength first.toList) (Piece.ofChars second.toList) := by
    rw [Piece.markersFrom_add]
    simpa only [markers, String.toList_append] using hseam
  rw [ParsedBody.ofString_eq_ofPieces, ParsedBody.ofPieces, String.toList_append,
    BodyState.foldl_readPiece_append hmarkers]

/-- If `first` leaves no block open and no marker crosses the seam (`hseam`), then `first ++ second`
is parsed as `first` and then `second` with the header after `first`. For all `values`, it renders
to the two texts in a row. Its diagnostics are those of `second`, shifted by the bytes of `first`.
Its variables have the names in `first` and then the new ones in `second`, and its header is the one
after `second`. -/
theorem seam_ofString (header : Header) (first second : String)
    (hclosed : (ParsedBody.ofString .documentOrder header first).diagnostics = [])
    (hseam : markers (first ++ second) = markers first ++
      (markers second).map (PlacedMarker.shift (byteLength first.toList))) :
    let one := ParsedBody.ofString .documentOrder header first
    let two := ParsedBody.ofString .documentOrder one.header second
    let whole := ParsedBody.ofString .documentOrder header (first ++ second)
    (∀ {α : Type} [ValueSource α] (values : α),
      render whole.nodes values = render one.nodes values ++ render two.nodes values) ∧
    whole.diagnostics = two.diagnostics.map (·.shift (byteLength first.toList)) ∧
    whole.vars.map Variable.name = one.vars.map Variable.name ++
      (two.vars.map Variable.name).filter (· ∉ one.vars.map Variable.name) ∧
    whole.header = two.header := by
  intro one two whole
  let before := (Piece.ofChars first.toList).foldl BodyState.readPiece { header }
  let apart := (Piece.ofChars second.toList).foldl BodyState.readPiece { header := before.header }
  let state := (Piece.ofChars second.toList).foldl BodyState.readPiece before
  have hone : one = before.finish .documentOrder := ParsedBody.ofString_eq_ofPieces ..
  have htwo : two = apart.finish .documentOrder := by
    have hheader : one.header = before.header := by rw [hone]; rfl
    simp only [two, hheader]
    exact ParsedBody.ofString_eq_ofPieces ..
  have hwhole : whole = state.finish .documentOrder := ofString_append .documentOrder header hseam
  -- no block is open at the seam, so both runs over the second part start alike
  have hframes : before.frames = [] := by
    have hnone : one.diagnostics = [] := hclosed
    rw [hone] at hnone
    exact List.reverse_eq_nil_iff.mp (List.map_eq_nil_iff.mp hnone)
  have hstart : before.Resembles before.vars before.root { header := before.header } :=
    ⟨rfl, (List.append_nil _).symm, rfl, by rw [hframes]; exact List.Forall₂.nil⟩
  have hresembles : state.Resembles before.vars before.root apart :=
    hstart.foldl_readPiece (Piece.ofChars second.toList)
  have hopen : state.openMarkers =
      apart.openMarkers.map (PlacedMarker.shift (byteLength first.toList)) := by
    apply BodyState.openMarkers_foldl_readPiece
    · exact (BodyState.offset_foldl_readPiece ..).trans
        (by rw [Piece.flatMap_chars_ofChars])
    · rw [BodyState.openMarkers, hframes]
      rfl
  have hnodes := hresembles.flatten (by
    rw [BodyState.map_marker_frames, BodyState.map_marker_frames, hopen, List.map_map]
    rfl)
  have hbefore : before.flatten .documentOrder = before.root := by
    rw [BodyState.flatten, hframes]
    rfl
  rw [hone, htwo, hwhole]
  refine ⟨?_, ?_, hresembles.map_name_vars, hresembles.header⟩
  · intro α _ values
    have hname := Variable.name_amid before.vars
    change renderAll _ (state.flatten .documentOrder) =
      renderAll _ (before.flatten .documentOrder) ++ renderAll _ (apart.flatten .documentOrder)
    rw [← renderAll_retarget _ hname (state.flatten _), hnodes, renderAll_pushAll,
      renderAll_retarget _ hname, renderAll_retarget _ hname, hbefore]
  · change state.unclosed = apart.unclosed.map _
    rw [BodyState.unclosed_eq_map_openMarkers, BodyState.unclosed_eq_map_openMarkers, hopen,
      ← List.map_reverse, List.map_map, List.map_map]
    rfl

/-- `first` declares a name for a reference in `second`, and a block of `second` stays open. -/
theorem seam_ofString_open_block :
    let first := "#{?a}x#{/}#{a}"
    let second := "#{a}#{?b}y"
    let values := [("a", "1")]
    (ParsedBody.ofString .documentOrder .empty first).diagnostics = [] ∧
    markers (first ++ second) = markers first ++
      (markers second).map (PlacedMarker.shift (byteLength first.toList)) ∧
    let one := ParsedBody.ofString .documentOrder .empty first
    let two := ParsedBody.ofString .documentOrder one.header second
    let whole := ParsedBody.ofString .documentOrder .empty (first ++ second)
    render whole.nodes values = render one.nodes values ++ render two.nodes values ∧
      whole.diagnostics = two.diagnostics.map (·.shift (byteLength first.toList)) ∧
      whole.vars.map Variable.name = one.vars.map Variable.name ++
        (two.vars.map Variable.name).filter (· ∉ one.vars.map Variable.name) ∧
      whole.header = two.header := by
  intro first second values
  have hclosed : (ParsedBody.ofString .documentOrder .empty first).diagnostics = [] := by
    decide +kernel
  have hseam : markers (first ++ second) = markers first ++
      (markers second).map (PlacedMarker.shift (byteLength first.toList)) := by
    decide +kernel
  obtain ⟨hrender, hrest⟩ := seam_ofString .empty first second hclosed hseam
  exact ⟨hclosed, hseam, hrender values, hrest⟩

end MarkdownTemplate
