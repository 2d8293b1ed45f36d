import MarkdownTemplate.Proofs.Body.MarkerByMarker
import MarkdownTemplate.Proofs.Body.OpenMarkers
import MarkdownTemplate.Proofs.Body.Registration
import MarkdownTemplate.Proofs.Body.Seam

/-!
# Two ways to read a body

Reading a body piece by piece and reading it marker by marker go in step. The first knows the
declaration of a block from its opening marker on, the second looks it up when the block is closed;
it is found because every block that is open is declared. So both give the same parsed body, and the
second way, in which every step could fail, never does.

* `BodyState.toScan`: the state that has read the same marker by marker;
* `BodyState.hasDeclaredBlocks_foldl_readPiece`: the blocks that are open are declared;
* `BodyState.isSound_foldl_readPiece`: what is read piece by piece is read soundly;
* `BodyState.toScan_readMarker` and `BodyState.toScan_finish`: the steps and the end, side by side;
* `ReadingPoint.exists_foldlM_readMarker`: all markers that are ahead;
* `ParsedBody.ofMarkers_eq_ok`: the whole body;
* `sound_ofMarkers`: what holds at every marker on the way.
-/

namespace MarkdownTemplate

/-! ### Steps -/

/-- The scope of an open block. -/
def Frame.toScope (frame : Frame) : Scope :=
  ⟨some (frame.marker, frame.span), frame.content⟩

namespace BodyState

/-- The `BodyScan` that has read the same pieces. -/
def toScan (state : BodyState) : BodyScan where
  header := state.header
  cursor := state.offset
  scopes := state.frames.map Frame.toScope ++ [⟨none, state.root⟩]
  vars := state.vars

/-- Every frame is opened by a marker with a name, and holds the declaration of that name. -/
def HasDeclaredBlocks (state : BodyState) : Prop :=
  ∀ frame ∈ state.frames,
    frame.marker.opensBlock = true ∧ state.header.find? frame.marker.name = some frame.entry

section Steps

variable (state : BodyState)

theorem toScan_addNode (node : Node) :
    state.toScan.addNode node = .ok (state.addNode node).toScan := by
  cases hframes : state.frames with
  | nil => simp only [toScan, BodyState.addNode, hframes, List.map_nil, List.nil_append,
      BodyScan.addNode]
  | cons frame frames =>
    simp only [toScan, BodyState.addNode, hframes, List.map_cons, List.cons_append,
      BodyScan.addNode, Frame.toScope]

theorem toScan_keepAsText (marker : Marker) :
    state.toScan.keepAsText marker = .ok (state.keepAsText marker).toScan :=
  state.toScan_addNode _

/-- On a declared name, `BodyScan.variableOf` gives `variableFor`, and registers it. -/
theorem toScan_variableOf {name : String} {entry : Entry}
    (hentry : state.header.find? name = some entry) (isOptional : Bool) (span : Span) :
    let target := state.variableFor name entry isOptional span
    state.toScan.variableOf name isOptional span =
      .ok (target, (state.register target).toScan) := by
  intro target
  have hname : target.name = name := name_variableFor ..
  have hvars : state.toScan.vars = state.vars := rfl
  have hheader : state.toScan.header = state.header := rfl
  rw [BodyScan.variableOf, register, hvars, hheader, hentry, hname]
  -- either the name is in use and nothing is registered, or the new variable comes last
  cases hfind : state.vars.find? fun known => known.name == name with
  | some known =>
    have htarget : target = known := by simp [target, variableFor, hfind]
    have hused : state.vars.any (fun known => known.name == name) = true := by
      rw [List.any_eq_true]
      exact ⟨known, List.mem_of_find?_eq_some hfind, by simpa using List.find?_some hfind⟩
    rw [if_pos hused, htarget]
  | none =>
    have htarget : target = ⟨name, entry.value, isOptional || entry.isOptional, span⟩ := by
      simp [target, variableFor, hfind]
    have hunused : ¬ state.vars.any (fun known => known.name == name) = true := by
      simpa using hfind
    rw [if_neg hunused, htarget]
    rfl

theorem toScan_readPlaceholder (found : PlacedMarker) :
    state.toScan.readPlaceholder found = .ok (state.readPlaceholder found.1 found.2).toScan := by
  rw [BodyScan.readPlaceholder, readPlaceholder, declared?]
  by_cases hname : found.1.name = ""
  · rw [if_pos (Or.inl hname), if_pos hname]
    exact state.toScan_keepAsText found.1
  · rw [if_neg hname]
    cases hentry : state.header.find? found.1.name with
    | none =>
      have hundeclared : state.toScan.header.declares found.1.name = false := by
        simp [toScan, Header.declares, hentry]
      rw [if_pos (Or.inr hundeclared)]
      exact state.toScan_keepAsText found.1
    | some entry =>
      have hdeclared : state.toScan.header.declares found.1.name = true := by
        simp [toScan, Header.declares, hentry]
      rw [if_neg (by simp [hname, hdeclared]), state.toScan_variableOf hentry]
      exact toScan_addNode _ _

theorem toScan_readOpening (found : PlacedMarker) :
    state.toScan.readOpening found = .ok (state.readOpening found.1 found.2).toScan := by
  rw [BodyScan.readOpening, readOpening]
  split
  · exact state.toScan_keepAsText found.1
  · simp only [toScan, Header.insertIfNew_getD_find?, Frame.toScope, List.map_cons,
      List.cons_append]

/-- `BodyScan.readClosing` finds the declaration of the block, so it agrees with
`BodyState.readClosing`. -/
theorem toScan_readClosing (h : state.HasDeclaredBlocks) (found : PlacedMarker) :
    state.toScan.readClosing found = .ok (state.readClosing found.1).toScan := by
  rw [BodyScan.readClosing, readClosing]
  cases hframes : state.frames with
  | nil =>
    have hlength : state.toScan.scopes.length = 1 := by simp [toScan, hframes]
    rw [if_pos hlength]
    exact state.toScan_keepAsText found.1
  | cons frame frames =>
    -- the frame has its entry at hand; the scan has to look it up in the header
    obtain ⟨hopens, hentry⟩ := h frame (by simp [hframes])
    have hkind := (Marker.opensBlock_iff.mp hopens).1
    let outer : BodyState := { state with frames }
    have hscopes : state.toScan.scopes = frame.toScope :: outer.toScan.scopes := by
      simp [toScan, hframes, outer]
    have hlength : state.toScan.scopes.length ≠ 1 := by simp [toScan, hframes]
    have hname : frame.toScope.name? = some frame.marker.name := if_pos hkind
    rw [if_neg hlength, hscopes, List.head?_cons, Option.bind_some, hname]
    dsimp only
    split
    · rw [BodyScan.closeBlock, hscopes]
      have hvariable := outer.toScan_variableOf hentry false frame.span
      have hscan : BodyScan.variableOf { state.toScan with scopes := outer.toScan.scopes }
          frame.marker.name false frame.span = _ := hvariable
      simp only [Frame.toScope, Option.map_some, Option.getD_some, hscan]
      exact toScan_addNode _ _
    · exact state.toScan_keepAsText found.1

theorem toScan_applyMarker (h : state.HasDeclaredBlocks) (found : PlacedMarker) :
    state.toScan.applyMarker found = .ok (state.readMarker found.1 found.2).toScan := by
  rw [BodyScan.applyMarker, readMarker]
  cases found.1.kind with
  | placeholder => exact state.toScan_readPlaceholder found
  | opening => exact state.toScan_readOpening found
  | closing => exact state.toScan_readClosing h found

/-- `BodyScan.readTo` agrees with `BodyState.readPiece` on a text, which it cuts out of `body`. -/
theorem toScan_readTo {body : String} {left chars right : List Char}
    (hbody : body.toList = left ++ (chars ++ right)) (hoffset : state.offset = byteLength left) :
    state.toScan.readTo body (state.offset + byteLength chars) =
      .ok (state.readPiece (.text chars)).toScan := by
  have hslice := Span.slice?_append left chars right
  rw [← hbody, String.ofList_toList, ← hoffset] at hslice
  have hcut : Span.cut? ⟨state.toScan.cursor, state.offset + byteLength chars⟩ body =
      some (String.ofList chars) :=
    (if_pos (Nat.le_add_right ..)).trans hslice
  rw [BodyScan.readTo, hcut]
  simp only [toScan_addNode]
  rfl

/-- `BodyScan.readMarker` reads two pieces: the text before the marker, and the marker. -/
theorem toScan_readMarker {body : String} {left pending right : List Char} (marker : Marker)
    (h : (state.readPiece (.text pending)).HasDeclaredBlocks)
    (hbody : body.toList = left ++ (pending ++ right)) (hoffset : state.offset = byteLength left) :
    let start := state.offset + byteLength pending
    state.toScan.readMarker body (marker, ⟨start, start + marker.size⟩) =
      .ok ((state.readPiece (.text pending)).readPiece (.marker marker)).toScan := by
  intro start
  have htext : state.toScan.readTo body start = _ := state.toScan_readTo hbody hoffset
  have hmarker := toScan_applyMarker _ h (marker, ⟨start, start + marker.size⟩)
  rw [BodyScan.readMarker, htext]
  simp only [bind, Except.bind, hmarker]
  rfl

theorem readPiece_text_nil : state.readPiece (.text []) = state := by
  obtain ⟨header, offset, root, _ | ⟨frame, frames⟩, vars⟩ := state
  · simp [readPiece, addNode, Piece.chars]
  · simp [readPiece, addNode, Piece.chars]

end Steps

/-- `nextOpenMarkers` opens blocks by markers with `Marker.opensBlock` only. -/
theorem opensBlock_of_mem_nextOpenMarkers {opened : List PlacedMarker}
    (h : ∀ opening ∈ opened, opening.1.opensBlock = true) (placed : PlacedPiece) :
    ∀ opening ∈ nextOpenMarkers opened placed, opening.1.opensBlock = true := by
  obtain ⟨chars | marker, span⟩ := placed
  · exact h
  · rw [nextOpenMarkers]
    split
    · rename_i hopens
      exact List.forall_mem_cons.mpr ⟨hopens, h⟩
    · split
      · exact fun opening hopening => h opening (List.mem_of_mem_tail hopening)
      · exact h

theorem opensBlock_of_mem_openMarkers {state : BodyState}
    (h : ∀ opening ∈ state.openMarkers, opening.1.opensBlock = true) (pieces : List Piece) :
    ∀ opening ∈ (pieces.foldl BodyState.readPiece state).openMarkers,
      opening.1.opensBlock = true := by
  induction pieces generalizing state with
  | nil => exact h
  | cons piece pieces ih =>
    apply ih
    rw [openMarkers_readPiece]
    exact opensBlock_of_mem_nextOpenMarkers h _

/-- Every state that is reached from an empty one satisfies `HasDeclaredBlocks`. -/
theorem hasDeclaredBlocks_foldl_readPiece (header : Header) (pieces : List Piece) :
    (pieces.foldl BodyState.readPiece { header }).HasDeclaredBlocks := by
  have hregisters := registers_foldl_readPiece (isOutlinedBy_empty header)
    (registers_empty header) pieces
  have hnone : ∀ opening ∈ openMarkers { header }, opening.1.opensBlock = true := by
    simp [openMarkers]
  intro frame hframe
  have hopening : (frame.marker, frame.span) ∈
      (pieces.foldl BodyState.readPiece { header }).openMarkers :=
    List.mem_map_of_mem hframe
  exact ⟨opensBlock_of_mem_openMarkers hnone pieces _ hopening, hregisters.frames frame hframe⟩

/-- `toScan` is sound if `state.offset` is a boundary. -/
theorem isSound_toScan {state : BodyState} (h : state.HasDeclaredBlocks) {body : String}
    (hboundary : IsBoundary body state.offset) : state.toScan.IsSound body := by
  refine ⟨hboundary, state.frames.map Frame.toScope, ⟨none, state.root⟩, rfl, rfl, ?_⟩
  rw [List.forall_mem_map]
  intro frame hframe
  obtain ⟨hopens, hentry⟩ := h frame hframe
  obtain ⟨hkind, hname⟩ := Marker.opensBlock_iff.mp hopens
  have hdeclared : state.toScan.header.find? frame.marker.name = some frame.entry := hentry
  refine ⟨(frame.marker, frame.span), rfl, hkind, hname, ?_⟩
  rw [Header.declares, hdeclared, Option.isSome_some]

/-- `toScan` is sound after any number of the pieces of `body`. -/
theorem isSound_foldl_readPiece (header : Header) {body : String} {read unread : List Piece}
    (h : Piece.ofChars body.toList = read ++ unread) :
    (read.foldl BodyState.readPiece { header }).toScan.IsSound body := by
  apply isSound_toScan (hasDeclaredBlocks_foldl_readPiece header read)
  refine ⟨read.flatMap Piece.chars, unread.flatMap Piece.chars, ?_, ?_⟩
  · rw [← List.flatMap_append, ← h, Piece.flatMap_chars_ofChars]
  · rw [offset_foldl_readPiece, Nat.zero_add]

/-- Both readings end alike. They differ only in how `Recovery.innermostFirst` appends `root`: as a
whole, or node by node. -/
theorem toScan_finish (state : BodyState) (hroot : Node.pushAll [] state.root = state.root)
    (recovery : Recovery) :
    state.toScan.finish recovery = .ok (state.finish recovery) := by
  have hscopes : state.toScan.scopes.reverse =
      ⟨none, state.root⟩ :: state.frames.reverse.map Frame.toScope := by
    simp [toScan]
  have hunclosed : (state.frames.reverse.map Frame.toScope).filterMap Scope.unclosed? =
      state.unclosed := by
    rw [List.filterMap_map, unclosed, ← List.filterMap_eq_map]
    rfl
  have hnodes : BodyScan.writtenBack ⟨none, state.root⟩ (state.frames.reverse.map Frame.toScope)
      recovery = state.flatten recovery := by
    cases recovery with
    | documentOrder =>
      rw [BodyScan.writtenBack, List.foldl_map]
      rfl
    | innermostFirst =>
      rw [BodyScan.writtenBack, ← List.map_reverse, List.reverse_reverse, List.foldl_map]
      -- without open blocks, one reading keeps the root and the other pushes it node by node
      split
      · rename_i hempty
        have hframes : state.frames = [] := by simpa using hempty
        rw [flatten, hframes, List.foldl_nil, hroot]
      · rfl
  rw [BodyScan.finish, hscopes]
  simp only [hunclosed, hnodes]
  rfl

theorem pushAll_nil_root (header : Header) (pieces : List Piece) :
    let state := pieces.foldl BodyState.readPiece { header }
    Node.pushAll [] state.root = state.root := by
  intro state
  have houtline := isOutlinedBy_foldl_readPiece (isOutlinedBy_empty header) pieces
  rw [houtline.root]
  exact Forest.pushAll_nodes [] _

end BodyState

/-! ### The run -/

/-- A split of `body` into pieces that are read, a text and pieces that are not. -/
structure ReadingPoint (body : String) where
  /-- The pieces that are read. -/
  done : List Piece
  /-- The text behind them. -/
  pending : List Char
  /-- The pieces behind the text. -/
  ahead : List Piece
  /-- Together they are the body. -/
  chars_eq : body.toList = done.flatMap Piece.chars ++ (pending ++ ahead.flatMap Piece.chars)

namespace ReadingPoint

variable {body : String}

/-- The point at the start of `body`. -/
def start (body : String) : ReadingPoint body where
  done := []
  pending := []
  ahead := Piece.ofChars body.toList
  chars_eq := (Piece.flatMap_chars_ofChars body.toList).symm

/-- The markers in `ahead`, with their places. -/
def markersAhead (point : ReadingPoint body) : List PlacedMarker :=
  Piece.markersFrom (byteLength (point.done.flatMap Piece.chars) + byteLength point.pending)
    point.ahead

variable (header : Header) (point : ReadingPoint body)

/-- The state after the pieces in `done`. -/
def state : BodyState :=
  point.done.foldl BodyState.readPiece { header }

/-- The state after all the pieces of `body`. -/
def final : BodyState :=
  point.ahead.foldl BodyState.readPiece ((point.state header).readPiece (.text point.pending))

theorem offset_state :
    (point.state header).offset = byteLength (point.done.flatMap Piece.chars) := by
  rw [state, BodyState.offset_foldl_readPiece, Nat.zero_add]

section Moves

variable {point} {chars : List Char} {marker : Marker} {ahead : List Piece}

/-- The point with the text ahead moved into `pending`. -/
def joinText (h : point.ahead = .text chars :: ahead) : ReadingPoint body where
  done := point.done
  pending := point.pending ++ chars
  ahead
  chars_eq := by rw [point.chars_eq, h, List.flatMap_cons, Piece.chars, List.append_assoc]

theorem markersAhead_joinText (h : point.ahead = .text chars :: ahead) :
    (joinText h).markersAhead = point.markersAhead := by
  rw [markersAhead, markersAhead, h, Piece.markersFrom, joinText, byteLength_append,
    Nat.add_assoc]

theorem final_joinText (h : point.ahead = .text chars :: ahead) :
    (joinText h).final header = point.final header := by
  rw [final, final, h, joinText, BodyState.readPiece_text_append]
  rfl

/-- The point behind the marker ahead. -/
def passMarker (h : point.ahead = .marker marker :: ahead) : ReadingPoint body where
  done := point.done ++ [.text point.pending, .marker marker]
  pending := []
  ahead
  chars_eq := by rw [point.chars_eq, h]; simp [Piece.chars]

theorem markersAhead_eq_cons_passMarker (h : point.ahead = .marker marker :: ahead) :
    let start := byteLength (point.done.flatMap Piece.chars) + byteLength point.pending
    point.markersAhead =
      (marker, ⟨start, start + marker.size⟩) :: (passMarker h).markersAhead := by
  intro start
  rw [markersAhead, h, Piece.markersFrom, markersAhead]
  simp [passMarker, Piece.chars, Marker.size, Nat.add_assoc, start]

theorem state_passMarker (h : point.ahead = .marker marker :: ahead) :
    (passMarker h).state header =
      ((point.state header).readPiece (.text point.pending)).readPiece (.marker marker) := by
  rw [state, passMarker, List.foldl_append]
  rfl

theorem final_passMarker (h : point.ahead = .marker marker :: ahead) :
    (passMarker h).final header = point.final header := by
  rw [final, state_passMarker, passMarker, BodyState.readPiece_text_nil, final, h]
  rfl

/-- Reading the marker ahead leads from one point to the next. -/
theorem readMarker_toScan_state (h : point.ahead = .marker marker :: ahead) :
    let start := byteLength (point.done.flatMap Piece.chars) + byteLength point.pending
    (point.state header).toScan.readMarker body (marker, ⟨start, start + marker.size⟩) =
      .ok ((passMarker h).state header).toScan := by
  have hblocks := BodyState.hasDeclaredBlocks_foldl_readPiece header
    (point.done ++ [.text point.pending])
  rw [List.foldl_append] at hblocks
  have hread := (point.state header).toScan_readMarker marker hblocks point.chars_eq
    (point.offset_state header)
  rwa [offset_state, ← state_passMarker header h] at hread

end Moves

/-- `BodyScan.readMarker` on the first of `markersAhead` leads to a point with the others ahead. -/
theorem exists_of_markersAhead_eq_cons {found : PlacedMarker} {later : List PlacedMarker}
    (h : point.markersAhead = found :: later) :
    ∃ next : ReadingPoint body,
      (point.state header).toScan.readMarker body found = .ok (next.state header).toScan ∧
        next.markersAhead = later ∧ next.final header = point.final header := by
  -- by induction on the pieces ahead, of which texts join what is pending
  induction hahead : point.ahead generalizing point with
  | nil =>
    rw [markersAhead, hahead] at h
    exact absurd h (List.cons_ne_nil found later).symm
  | cons piece ahead ih =>
    cases piece with
    | text chars =>
      rw [← markersAhead_joinText hahead] at h
      obtain ⟨next, hread, hlater, hfinal⟩ := ih (joinText hahead) h rfl
      exact ⟨next, hread, hlater, hfinal.trans (final_joinText header hahead)⟩
    | marker marker =>
      rw [markersAhead_eq_cons_passMarker hahead] at h
      obtain ⟨rfl, rfl⟩ := List.cons.inj h
      exact ⟨passMarker hahead, readMarker_toScan_state header hahead, rfl,
        final_passMarker header hahead⟩

/-- Reading all of `markersAhead` leads to a point with none ahead. -/
theorem exists_foldlM_readMarker :
    ∃ last : ReadingPoint body,
      point.markersAhead.foldlM (fun scan => scan.readMarker body) (point.state header).toScan =
          Except.ok (last.state header).toScan ∧
        last.markersAhead = [] ∧ last.final header = point.final header := by
  induction hahead : point.markersAhead generalizing point with
  | nil => exact ⟨point, rfl, hahead, rfl⟩
  | cons found later ih =>
    obtain ⟨next, hread, hlater, hfinal⟩ := point.exists_of_markersAhead_eq_cons header hahead
    obtain ⟨last, hrun, hnone, hlast⟩ := ih next hlater
    refine ⟨last, ?_, hnone, hlast.trans hfinal⟩
    rw [List.foldlM_cons, hread]
    exact hrun

/-- Without `markersAhead`, one `readTo` reads the rest of `body`. -/
theorem readTo_toScan_state (h : point.markersAhead = []) :
    (point.state header).toScan.readTo body (byteLength body.toList) =
      .ok (point.final header).toScan := by
  -- all pieces ahead are texts, which are moved into `pending` one by one
  induction hahead : point.ahead generalizing point with
  | nil =>
    have hread := (point.state header).toScan_readTo point.chars_eq (point.offset_state header)
    rw [offset_state, ← byteLength_append] at hread
    rw [point.chars_eq, final, hahead, List.flatMap_nil, List.append_nil]
    exact hread
  | cons piece ahead ih =>
    cases piece with
    | text chars =>
      rw [← markersAhead_joinText hahead] at h
      rw [← final_joinText header hahead]
      exact ih (joinText hahead) h rfl
    | marker marker =>
      rw [markersAhead_eq_cons_passMarker hahead] at h
      exact absurd h (List.cons_ne_nil _ _)

end ReadingPoint

/-- `ParsedBody.ofMarkers` never fails, and agrees with `ParsedBody.ofString`. -/
theorem ParsedBody.ofMarkers_eq_ok (recovery : Recovery) (header : Header) (body : String) :
    ofMarkers recovery header body = .ok (ofString recovery header body) := by
  obtain ⟨last, hrun, hnone, hlast⟩ := (ReadingPoint.start body).exists_foldlM_readMarker header
  have hfinal : last.final header =
      (Piece.ofChars body.toList).foldl BodyState.readPiece { header } := by
    rw [hlast, ReadingPoint.final, ReadingPoint.start, BodyState.readPiece_text_nil]
    rfl
  have hmarkers : BodyScan.ofMarkers header body (markers body) = .ok (last.state header).toScan :=
    hrun
  have hrest := last.readTo_toScan_state header hnone
  have hfinish := BodyState.toScan_finish _
    (BodyState.pushAll_nil_root header (Piece.ofChars body.toList)) recovery
  rw [hfinal] at hrest
  rw [ofMarkers, hmarkers]
  simp only [bind, Except.bind, hrest, hfinish]
  rw [ofString_eq_ofPieces, ofPieces]

theorem Span.isAhead_of_mem_markers {body : String} {found : PlacedMarker}
    (h : found ∈ markers body) : found.2.IsAhead body 0 := by
  obtain ⟨hstart, hstop⟩ := markers_bounds h
  obtain ⟨before, after, hbody, hbefore, hlength⟩ :=
    Span.exists_of_slice?_eq_some (slice?_of_mem_markers h)
  refine ⟨Nat.zero_le _, Nat.le_of_lt hstart, hstop, ⟨before, _, hbody, hbefore⟩,
    ⟨before ++ found.1.text.toList, after, ?_, ?_⟩⟩
  · rw [hbody, List.append_assoc]
  · rw [byteLength_append, hbefore, hlength]
    omega

/-- Reading any prefix of `markers body` succeeds, ends in a sound state, and leaves the other
markers ahead of its cursor. -/
theorem BodyScan.exists_ofMarkers (header : Header) {body : String}
    {earlier later : List PlacedMarker} (h : markers body = earlier ++ later) :
    ∃ scan, ofMarkers header body earlier = .ok scan ∧ scan.IsSound body ∧
      ∀ found ∈ later, found.2.IsAhead body scan.cursor := by
  have hapart := markers_apart body
  have hahead : ∀ found ∈ markers body, found.2.IsAhead body 0 :=
    fun _ => Span.isAhead_of_mem_markers
  rw [h] at hapart hahead
  exact (isSound_empty header body).foldlM_readMarker hahead hapart

/-- Parsing marker by marker never ends in a `ReadingFault`. From any state with `BodyScan.IsSound`,
`readTo` and `readMarker` succeed on a marker that is ahead and preserve `IsSound`, and `readTo` and
`finish` succeed at the end of `body`. Every prefix of `markers body` and every prefix of
`Piece.ofChars body.toList` reaches such a state, and the whole run gives `ParsedBody.ofString`. -/
theorem sound_ofMarkers (recovery : Recovery) (header : Header) (body : String) :
    (∀ scan : BodyScan, scan.IsSound body →
      (∀ found : PlacedMarker, found.2.IsAhead body scan.cursor →
        BodyScan.LeadsTo (scan.readTo body found.2.start) body found.2.start ∧
        BodyScan.LeadsTo (scan.readMarker body found) body found.2.stop) ∧
      ∃ rest parsed, scan.readTo body (byteLength body.toList) = .ok rest ∧
        rest.finish recovery = .ok parsed) ∧
    (∀ earlier later, markers body = earlier ++ later →
      ∃ scan, BodyScan.ofMarkers header body earlier = .ok scan ∧ scan.IsSound body ∧
        ∀ found ∈ later, found.2.IsAhead body scan.cursor) ∧
    (∀ read unread, Piece.ofChars body.toList = read ++ unread →
      (read.foldl BodyState.readPiece { header }).toScan.IsSound body) ∧
    ParsedBody.ofMarkers recovery header body =
      .ok (ParsedBody.ofString recovery header body) := by
  refine ⟨?_, ?_, ?_, ParsedBody.ofMarkers_eq_ok recovery header body⟩
  · intro scan hsound
    refine ⟨?_, hsound.exists_finish recovery⟩
    intro found hahead
    exact ⟨hsound.readTo hahead.cursor_le hahead.start_boundary, hsound.readMarker hahead⟩
  · intro earlier later hmarkers
    exact BodyScan.exists_ofMarkers header hmarkers
  · intro read unread hpieces
    exact BodyState.isSound_foldl_readPiece header hpieces

end MarkdownTemplate
