import MarkdownTemplate.Proofs.Body.Reading

/-!
# Declarations while a body is read

Reading a body changes its header at opening markers only: one that opens a block declares its name,
unless the name is declared.

* `header_readPiece_marker`: what reading a marker does to the header;
* `Declares.readPiece`: which names are declared when a part of a body is read;
* `Header.find?_declareBlocks`: what is declared when names of blocks are;
* `header_ofString`: the header of a parsed body declares the names of its opening markers too.
-/

namespace MarkdownTemplate

/-- `insertIfNew` declares `name` and keeps the names that are declared. -/
@[simp]
theorem Header.declares_insertIfNew (header : Header) (name other : String) (entry : Entry) :
    (header.insertIfNew name entry).declares other = (name == other || header.declares other) := by
  rw [Header.declares, Header.find?_insertIfNew]
  by_cases h : name = other
  · simp [h]
  · simp [h, Header.declares]

/-- `insertIfNew` keeps every declaration. -/
theorem Header.find?_insertIfNew_of_eq_some {header : Header} {name other : String}
    {entry known : Entry} (h : header.find? other = some known) :
    (header.insertIfNew name entry).find? other = some known := by
  rw [find?_insertIfNew]
  split
  · rename_i hsame
    rw [hsame, h, Option.getD_some]
  · exact h

/-- `insertIfNew` ignores its entry for a declared name, so this may as well be the known one. -/
theorem Header.insertIfNew_getD_find? (header : Header) (name : String) (entry : Entry) :
    header.insertIfNew name ((header.find? name).getD entry) = header.insertIfNew name entry := by
  apply Header.ext_find?
  intro other
  cases hfind : header.find? name <;> simp [hfind]

namespace BodyState

variable (state : BodyState)

@[simp]
theorem header_addNode (node : Node) : (state.addNode node).header = state.header := by
  unfold addNode
  split <;> rfl

@[simp]
theorem header_register (target : Variable) : (state.register target).header = state.header := by
  unfold register
  split <;> rfl

@[simp]
theorem header_keepAsText (marker : Marker) : (state.keepAsText marker).header = state.header :=
  state.header_addNode _

theorem header_readPiece_text (chars : List Char) :
    (state.readPiece (.text chars)).header = state.header :=
  state.header_addNode _

/-- Reading a marker inserts `Entry.ofBlock` if the marker opens a block. -/
theorem header_readPiece_marker (marker : Marker) :
    (state.readPiece (.marker marker)).header =
      if marker.opensBlock then state.header.insertIfNew marker.name (.ofBlock marker.name)
      else state.header := by
  change (state.readMarker marker _).header = _
  unfold readMarker
  -- only an opening marker with a name reaches `insertIfNew`; all other branches keep the header
  split
  · rename_i hkind
    have hopens : ¬ marker.opensBlock = true := by simp [Marker.opensBlock, hkind]
    rw [if_neg hopens]
    unfold readPlaceholder
    split <;> simp
  · rename_i hkind
    unfold readOpening
    split
    · rename_i hname
      have hopens : ¬ marker.opensBlock = true := by simp [Marker.opensBlock, hname]
      rw [if_neg hopens, header_keepAsText]
    · rename_i hname
      have hopens : marker.opensBlock = true := Marker.opensBlock_iff.mpr ⟨hkind, hname⟩
      rw [if_pos hopens]
      exact Header.insertIfNew_getD_find? ..
  · rename_i hkind
    have hopens : ¬ marker.opensBlock = true := by simp [Marker.opensBlock, hkind]
    rw [if_neg hopens]
    unfold readClosing
    split
    · simp
    · dsimp only
      split <;> simp

end BodyState

/-- Some marker in `found` opens a block named `name`. -/
def opensNamed (found : List PlacedMarker) (name : String) : Bool :=
  found.any fun opening => opening.1.opensBlock && opening.1.name == name

theorem opensNamed_iff {found : List PlacedMarker} {name : String} :
    opensNamed found name = true ↔
      ∃ opening ∈ found, opening.1.opensBlock = true ∧ opening.1.name = name := by
  simp [opensNamed]

theorem BodyState.isSome_declared?_iff {state : BodyState} {name : String} :
    (state.declared? name).isSome = true ↔ name ≠ "" ∧ state.header.declares name = true := by
  unfold BodyState.declared?
  by_cases hname : name = ""
  · simp [hname]
  · simp [hname, Header.declares]

/-- `state` declares the names of `declares` and those of the opening markers in `found`. -/
def BodyState.Declares (state : BodyState) (declares : String → Bool)
    (found : List PlacedMarker) : Prop :=
  ∀ name, state.header.declares name = (declares name || opensNamed found name)

/-- Reading a piece preserves `Declares`, with its marker added to `found`. -/
theorem BodyState.Declares.readPiece {state : BodyState} {declares : String → Bool}
    {found : List PlacedMarker} (h : state.Declares declares found) (piece : Piece) :
    (state.readPiece piece).Declares declares
      (found ++ (Piece.placedMarker? (piece, state.nextSpan piece)).toList) := by
  intro name
  cases piece with
  | text chars =>
    rw [header_readPiece_text, h name]
    simp
  | marker marker =>
    rw [header_readPiece_marker, Piece.placedMarker?_marker, Option.toList_some]
    by_cases hopens : marker.opensBlock = true
    · rw [if_pos hopens, Header.declares_insertIfNew, h name]
      simp [opensNamed, hopens, Bool.or_comm, Bool.or_left_comm]
    · rw [if_neg hopens, h name]
      simp [opensNamed, hopens]

/-! ### Names of blocks -/

/-- The names of the markers in `found` that open blocks. -/
def blockNames (found : List PlacedMarker) : List String :=
  (found.filter fun opening => opening.1.opensBlock).map fun opening => opening.1.name

theorem blockNames_append (first second : List PlacedMarker) :
    blockNames (first ++ second) = blockNames first ++ blockNames second := by
  simp [blockNames]

theorem mem_blockNames_iff {found : List PlacedMarker} {name : String} :
    name ∈ blockNames found ↔
      ∃ opening ∈ found, opening.1.opensBlock = true ∧ opening.1.name = name := by
  simp [blockNames, and_assoc]

/-- `header` with `Entry.ofBlock` for each of `names` that is not declared. -/
def Header.declareBlocks (header : Header) (names : List String) : Header :=
  names.foldl (fun header name => header.insertIfNew name (.ofBlock name)) header

theorem Header.declareBlocks_append (header : Header) (first second : List String) :
    header.declareBlocks (first ++ second) =
      (header.declareBlocks first).declareBlocks second :=
  List.foldl_append

/-- `declareBlocks` keeps every declaration, and declares other `names` by `Entry.ofBlock`. -/
theorem Header.find?_declareBlocks (header : Header) (names : List String) (name : String) :
    (header.declareBlocks names).find? name =
      (header.find? name).or (if name ∈ names then some (.ofBlock name) else none) := by
  induction names generalizing header with
  | nil => simp [declareBlocks]
  | cons other names ih =>
    rw [declareBlocks, List.foldl_cons, ← declareBlocks, ih, find?_insertIfNew]
    by_cases hsame : other = name
    · subst hsame
      cases header.find? other <;> simp
    · simp [hsame, Ne.symm hsame]

/-- Reading a piece applies `declareBlocks` to the header. -/
theorem BodyState.header_readPiece (state : BodyState) (piece : Piece) :
    (state.readPiece piece).header = state.header.declareBlocks
      (blockNames (Piece.placedMarker? (piece, state.nextSpan piece)).toList) := by
  cases piece with
  | text chars => exact state.header_readPiece_text chars
  | marker marker =>
    rw [header_readPiece_marker, Piece.placedMarker?_marker, Option.toList_some]
    by_cases hopens : marker.opensBlock = true
    · simp [blockNames, hopens, Header.declareBlocks]
    · simp [blockNames, hopens, Header.declareBlocks]

/-- Reading pieces applies `declareBlocks` with the names of all blocks that they open. -/
theorem BodyState.header_foldl_readPiece (state : BodyState) (pieces : List Piece) :
    (pieces.foldl BodyState.readPiece state).header = state.header.declareBlocks
      (blockNames ((Piece.placeFrom state.offset pieces).filterMap Piece.placedMarker?)) := by
  induction pieces generalizing state with
  | nil => rfl
  | cons piece pieces ih =>
    rw [List.foldl_cons, ih, header_readPiece, ← Header.declareBlocks_append, ← blockNames_append,
      offset_readPiece, Piece.placeFrom, Piece.filterMap_placedMarker?_cons]
    rfl

/-- The header after parsing is `declareBlocks` with the `blockNames` of the body, in either order
of recovery. -/
theorem header_ofString (recovery : Recovery) (header : Header) (body : String) :
    (ParsedBody.ofString recovery header body).header =
      header.declareBlocks (blockNames (markers body)) := by
  rw [ParsedBody.ofString_eq_ofPieces, markers_eq_filterMap]
  exact BodyState.header_foldl_readPiece { header } (Piece.ofChars body.toList)

end MarkdownTemplate
