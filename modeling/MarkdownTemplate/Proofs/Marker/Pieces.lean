import MarkdownTemplate.Marker

/-!
# Places of pieces

The pieces of a body lie one after another, and none is empty. `Piece.placeFrom` gives each piece
its span, and `Tiles start pieces stop` says that placed pieces fill the bytes from `start` to
`stop`.

* `markers_eq_filterMap`: the markers of a body are those among its placed pieces;
* `tiles_placedPieces`: the pieces of a body fill it;
* `markers_apart` and `markers_bounds`: the markers of a body lie in it, one after another;
* `slice?_of_mem_markers`: the place of a marker covers the marker as it is written;
* `ofChars_of_mayContainMarkers_eq_false`: a text in which no marker can start is one piece.
-/

namespace MarkdownTemplate

/-- A marker with the place where it stands. -/
abbrev PlacedMarker := Marker × Span

/-- A piece with the place where it stands. -/
abbrev PlacedPiece := Piece × Span

theorem byteLength_pos {chars : List Char} (h : chars ≠ []) : 0 < byteLength chars := by
  obtain ⟨c, rest, rfl⟩ := List.exists_cons_of_ne_nil h
  have hpos := Char.utf8Size_pos c
  rw [byteLength_cons]
  omega

theorem Marker.chars_ne_nil (marker : Marker) : marker.chars ≠ [] := by
  simp [Marker.chars]

/-- Where `Marker.read?` finds a marker, `mayContainMarkers` holds. -/
theorem Marker.mayContainMarkers_of_read? {chars rest : List Char} {marker : Marker}
    (h : Marker.read? chars = some (marker, rest)) : mayContainMarkers chars = true := by
  unfold Marker.read? at h
  split at h
  · rfl
  · exact absurd h (by simp)

theorem mayContainMarkers_tail {c : Char} {chars : List Char}
    (h : mayContainMarkers (c :: chars) = false) : mayContainMarkers chars = false := by
  unfold mayContainMarkers at h
  split at h
  · exact absurd h (by simp)
  · rename_i heq
    obtain ⟨-, rfl⟩ := List.cons.inj heq
    exact h
  · rename_i heq
    exact absurd heq (by simp)

namespace Piece

/-- The pieces with their spans, where the first starts at `offset`. -/
def placeFrom (offset : Nat) : List Piece → List PlacedPiece
  | [] => []
  | piece :: pieces =>
    (piece, ⟨offset, offset + byteLength piece.chars⟩) ::
      placeFrom (offset + byteLength piece.chars) pieces

/-- `placeFrom` leaves the pieces as they are. -/
theorem map_fst_placeFrom (offset : Nat) (pieces : List Piece) :
    (placeFrom offset pieces).map Prod.fst = pieces := by
  induction pieces generalizing offset with
  | nil => rfl
  | cons piece pieces ih => rw [placeFrom, List.map_cons, ih]

theorem flatMap_chars_placeFrom (offset : Nat) (pieces : List Piece) :
    (placeFrom offset pieces).flatMap (fun placed => placed.1.chars) = pieces.flatMap chars := by
  have hmap := List.flatMap_map Prod.fst chars (placeFrom offset pieces)
  rw [map_fst_placeFrom] at hmap
  exact hmap.symm

/-- The marker of a placed piece, if the piece is a `Piece.marker`. -/
def placedMarker? : PlacedPiece → Option PlacedMarker
  | (marker found, span) => some (found, span)
  | (text _, _) => none

@[simp]
theorem placedMarker?_marker (found : Marker) (span : Span) :
    placedMarker? (marker found, span) = some (found, span) := rfl

@[simp]
theorem placedMarker?_text (chars : List Char) (span : Span) :
    placedMarker? (text chars, span) = none := rfl

theorem eq_of_placedMarker?_eq_some {placed : PlacedPiece} {found : PlacedMarker}
    (h : placedMarker? placed = some found) : placed = (marker found.1, found.2) := by
  obtain ⟨_ | _, _⟩ := placed
  · exact absurd h (by simp)
  · rw [← Option.some.inj h]

/-- `placedMarker?` over a first piece and the rest. -/
theorem filterMap_placedMarker?_cons (placed : PlacedPiece) (pieces : List PlacedPiece) :
    (placed :: pieces).filterMap placedMarker? =
      (placedMarker? placed).toList ++ pieces.filterMap placedMarker? := by
  cases hfound : placedMarker? placed with
  | none => rw [List.filterMap_cons_none hfound, Option.toList_none, List.nil_append]
  | some found => rw [List.filterMap_cons_some hfound, Option.toList_some, List.singleton_append]

/-- `markersFrom` lists the markers among the pieces that `placeFrom` places. -/
theorem markersFrom_eq_filterMap (offset : Nat) (pieces : List Piece) :
    markersFrom offset pieces = (placeFrom offset pieces).filterMap placedMarker? := by
  induction pieces generalizing offset with
  | nil => rfl
  | cons piece pieces ih =>
    cases piece with
    | text chars =>
      rw [markersFrom, placeFrom, List.filterMap_cons_none (placedMarker?_text ..)]
      exact ih _
    | marker found =>
      rw [markersFrom, placeFrom, List.filterMap_cons_some (placedMarker?_marker ..)]
      exact congrArg _ (ih _)

/-- No piece that `ofChars` cuts is empty. -/
theorem chars_ne_nil_of_mem_ofChars {chars : List Char} {piece : Piece}
    (h : piece ∈ ofChars chars) : piece.chars ≠ [] := by
  fun_induction ofChars chars with
  | case1 => exact absurd h (by simp)
  | case2 c rest found after hread ih =>
    rcases List.mem_cons.mp h with rfl | hmem
    · exact found.chars_ne_nil
    · exact ih hmem
  | case3 c rest hread ih =>
    unfold cons at h
    split at h
    -- the character joins the text at the front of the pieces after it
    · rename_i text pieces hpieces
      rcases List.mem_cons.mp h with rfl | hmem
      · exact List.cons_ne_nil c text
      · exact ih (by rw [hpieces]; exact List.mem_cons_of_mem _ hmem)
    -- the character is a text of its own, in front of a marker or at the end
    · rcases List.mem_cons.mp h with rfl | hmem
      · exact List.cons_ne_nil c []
      · exact ih hmem

/-- Where `mayContainMarkers` is false, `ofChars` cuts a text into one piece, or into none if the
text is empty. -/
theorem ofChars_of_mayContainMarkers_eq_false (chars : List Char)
    (h : mayContainMarkers chars = false) :
    ofChars chars = if chars = [] then [] else [text chars] := by
  fun_induction ofChars chars with
  | case1 => rfl
  | case2 c rest found after hread ih =>
    rw [Marker.mayContainMarkers_of_read? hread] at h
    exact absurd h (by simp)
  | case3 c rest hread ih =>
    rw [ih (mayContainMarkers_tail h), if_neg (List.cons_ne_nil c rest)]
    by_cases hrest : rest = []
    · rw [if_pos hrest, hrest, cons]
      simp
    · rw [if_neg hrest, cons]

end Piece

/-- The placed pieces are not empty and follow one another without a gap from `start` to `stop`. -/
def Tiles (start : Nat) : List PlacedPiece → Nat → Prop
  | [], stop => start = stop
  | (piece, span) :: pieces, stop =>
    piece.chars ≠ [] ∧ span = ⟨start, start + byteLength piece.chars⟩ ∧
      Tiles (start + byteLength piece.chars) pieces stop

/-- What `placeFrom` places has no gap. -/
theorem tiles_placeFrom (offset : Nat) {pieces : List Piece}
    (hpieces : ∀ piece ∈ pieces, piece.chars ≠ []) :
    Tiles offset (Piece.placeFrom offset pieces)
      (offset + byteLength (pieces.flatMap Piece.chars)) := by
  induction pieces generalizing offset with
  | nil => rfl
  | cons piece pieces ih =>
    rw [List.forall_mem_cons] at hpieces
    refine ⟨hpieces.1, rfl, ?_⟩
    rw [List.flatMap_cons, byteLength_append, ← Nat.add_assoc]
    exact ih _ hpieces.2

namespace Tiles

variable {start stop : Nat} {pieces : List PlacedPiece}

/-- `Tiles` for `first ++ second` is `Tiles` for both parts, with some `middle` between them. -/
theorem append_iff {first second : List PlacedPiece} :
    Tiles start (first ++ second) stop ↔
      ∃ middle, Tiles start first middle ∧ Tiles middle second stop := by
  induction first generalizing start with
  | nil => simp [Tiles]
  | cons placed first ih =>
    simp only [List.cons_append, Tiles, ih]
    constructor
    · rintro ⟨hchars, hspan, middle, hfirst, hsecond⟩
      exact ⟨middle, ⟨hchars, hspan, hfirst⟩, hsecond⟩
    · rintro ⟨middle, ⟨hchars, hspan, hfirst⟩, hsecond⟩
      exact ⟨hchars, hspan, middle, hfirst, hsecond⟩

/-- `Tiles` for `placed :: pieces`: `placed` starts at `start`, and `pieces` follow it. -/
theorem cons_iff {placed : PlacedPiece} :
    Tiles start (placed :: pieces) stop ↔
      placed.1.chars ≠ [] ∧ placed.2 = ⟨start, start + byteLength placed.1.chars⟩ ∧
        Tiles placed.2.stop pieces stop := by
  rw [Tiles]
  constructor
  · rintro ⟨hchars, hspan, hrest⟩
    refine ⟨hchars, hspan, ?_⟩
    rw [hspan]
    exact hrest
  · rintro ⟨hchars, hspan, hrest⟩
    refine ⟨hchars, hspan, ?_⟩
    rw [hspan] at hrest
    exact hrest

/-- The first piece starts at `start` and takes at least one byte. -/
theorem head_bounds {placed : PlacedPiece} (h : Tiles start (placed :: pieces) stop) :
    placed.2.start = start ∧ start < placed.2.stop := by
  obtain ⟨hchars, hspan, -⟩ := cons_iff.mp h
  have hpos := byteLength_pos hchars
  rw [hspan]
  exact ⟨rfl, by simp only; omega⟩

theorem tail {placed : PlacedPiece} (h : Tiles start (placed :: pieces) stop) :
    Tiles placed.2.stop pieces stop :=
  (cons_iff.mp h).2.2

theorem start_le_stop (h : Tiles start pieces stop) : start ≤ stop := by
  induction pieces generalizing start with
  | nil => exact Nat.le_of_eq h
  | cons placed pieces ih => exact Nat.le_trans (Nat.le_of_lt h.head_bounds.2) (ih h.tail)

/-- Each piece takes at least one byte between `start` and `stop`. -/
theorem bounds (h : Tiles start pieces stop) {placed : PlacedPiece} (hmem : placed ∈ pieces) :
    start ≤ placed.2.start ∧ placed.2.start < placed.2.stop ∧ placed.2.stop ≤ stop := by
  induction pieces generalizing start with
  | nil => exact absurd hmem (by simp)
  | cons first pieces ih =>
    obtain ⟨hstart, hstop⟩ := h.head_bounds
    rcases List.mem_cons.mp hmem with rfl | hmem
    · exact ⟨by omega, by omega, h.tail.start_le_stop⟩
    · have hbounds := ih h.tail hmem
      omega

/-- Each marker takes at least one byte between `start` and `stop`. -/
theorem marker_bounds (h : Tiles start pieces stop) {found : PlacedMarker}
    (hmem : found ∈ pieces.filterMap Piece.placedMarker?) :
    start ≤ found.2.start ∧ found.2.start < found.2.stop ∧ found.2.stop ≤ stop := by
  obtain ⟨placed, hplaced, hfound⟩ := List.mem_filterMap.mp hmem
  obtain rfl := Piece.eq_of_placedMarker?_eq_some hfound
  exact h.bounds hplaced

/-- Each marker ends before the next one starts. -/
theorem markers_apart (h : Tiles start pieces stop) :
    (pieces.filterMap Piece.placedMarker?).Pairwise fun first second =>
      first.2.stop ≤ second.2.start := by
  induction pieces generalizing start with
  | nil => exact List.Pairwise.nil
  | cons placed pieces ih =>
    cases hfound : Piece.placedMarker? placed with
    | none =>
      rw [List.filterMap_cons_none hfound]
      exact ih h.tail
    | some found =>
      obtain rfl := Piece.eq_of_placedMarker?_eq_some hfound
      rw [List.filterMap_cons_some hfound, List.pairwise_cons]
      exact ⟨fun later hlater => (h.tail.marker_bounds hlater).1, ih h.tail⟩

/-- Each marker starts before the next one does. -/
theorem markers_pairwise (h : Tiles start pieces stop) :
    (pieces.filterMap Piece.placedMarker?).Pairwise fun first second =>
      first.2.start < second.2.start := by
  refine h.markers_apart.imp_of_mem ?_
  intro first second hfirst _ hapart
  have hbounds := h.marker_bounds hfirst
  omega

/-- The span of each placed piece slices its characters out of the text, if `start` bytes come
before the pieces. -/
theorem slice?_eq (h : Tiles start pieces stop) {placed : PlacedPiece} (hmem : placed ∈ pieces)
    {before : List Char} (hbefore : byteLength before = start) :
    placed.2.slice? (String.ofList (before ++ pieces.flatMap fun placed => placed.1.chars)) =
      some (String.ofList placed.1.chars) := by
  induction pieces generalizing start before with
  | nil => exact absurd hmem (by simp)
  | cons first pieces ih =>
    obtain ⟨-, hspan, hrest⟩ := cons_iff.mp h
    rw [List.flatMap_cons]
    rcases List.mem_cons.mp hmem with rfl | hmem
    · rw [hspan, ← hbefore]
      exact Span.slice?_append before placed.1.chars _
    -- a later piece has the first one before it as well
    · rw [← List.append_assoc]
      refine ih hrest hmem ?_
      rw [byteLength_append, hbefore, hspan]

end Tiles

/-- The pieces that `Piece.ofChars` cuts a body into, with their spans. -/
def placedPieces (body : String) : List PlacedPiece :=
  Piece.placeFrom 0 (Piece.ofChars body.toList)

/-- The characters of the `placedPieces` are those of the body. -/
theorem flatMap_chars_placedPieces (body : String) :
    (placedPieces body).flatMap (fun placed => placed.1.chars) = body.toList := by
  rw [placedPieces, Piece.flatMap_chars_placeFrom, Piece.flatMap_chars_ofChars]

/-- The `markers` of a body are those among its `placedPieces`. -/
theorem markers_eq_filterMap (body : String) :
    markers body = (placedPieces body).filterMap Piece.placedMarker? :=
  Piece.markersFrom_eq_filterMap 0 (Piece.ofChars body.toList)

/-- The `placedPieces` fill the body without a gap. -/
theorem tiles_placedPieces (body : String) :
    Tiles 0 (placedPieces body) (byteLength body.toList) := by
  have hchars : ∀ piece ∈ Piece.ofChars body.toList, piece.chars ≠ [] :=
    fun _ hpiece => Piece.chars_ne_nil_of_mem_ofChars hpiece
  have htiles := tiles_placeFrom 0 hchars
  rwa [Piece.flatMap_chars_ofChars, Nat.zero_add] at htiles

/-- Each of the `markers` of a body starts before the next one does. -/
theorem markers_pairwise (body : String) :
    (markers body).Pairwise fun first second => first.2.start < second.2.start := by
  rw [markers_eq_filterMap]
  exact (tiles_placedPieces body).markers_pairwise

/-- Each of the `markers` of a body ends before the next one starts. -/
theorem markers_apart (body : String) :
    (markers body).Pairwise fun first second => first.2.stop ≤ second.2.start := by
  rw [markers_eq_filterMap]
  exact (tiles_placedPieces body).markers_apart

/-- Each of the `markers` of a body takes at least one byte of it. -/
theorem markers_bounds {body : String} {found : PlacedMarker} (h : found ∈ markers body) :
    found.2.start < found.2.stop ∧ found.2.stop ≤ byteLength body.toList := by
  rw [markers_eq_filterMap] at h
  exact ((tiles_placedPieces body).marker_bounds h).2

/-- The span of each of the `markers` of a body slices the text of the marker out of it. -/
theorem slice?_of_mem_markers {body : String} {found : PlacedMarker} (h : found ∈ markers body) :
    found.2.slice? body = some found.1.text := by
  rw [markers_eq_filterMap] at h
  obtain ⟨placed, hplaced, hfound⟩ := List.mem_filterMap.mp h
  obtain rfl := Piece.eq_of_placedMarker?_eq_some hfound
  have hslice := (tiles_placedPieces body).slice?_eq hplaced byteLength_nil
  rwa [List.nil_append, flatMap_chars_placedPieces, String.ofList_toList] at hslice

end MarkdownTemplate
