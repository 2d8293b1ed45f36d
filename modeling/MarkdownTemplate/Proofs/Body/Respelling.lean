import MarkdownTemplate.Proofs.Body.OpenMarkers
import MarkdownTemplate.Proofs.Body.Resemblance
import MarkdownTemplate.Proofs.Marker.Respelling

/-!
# Bodies with the markers around blocks respelled

A block may be opened and closed by other markers than those that enclose it in a body. The forest
of a body tells which markers these are. All others stay, also those that open a block which is
never closed.

* `Forest.IsMatched`: what encloses the blocks of a forest, and which markers are left in them;
* `isMatched_forestOf`: the forest of a body is such a forest;
* `Forest.respell`: the forest with plain markers around its blocks;
* `BodyState.Resembles.readForest`: both are read with the same effect;
* `ofChars_respell`: the characters of the forest with plain markers are cut into its pieces.
-/

namespace MarkdownTemplate

namespace Marker

/-- The opening marker of a block as the printer writes it. -/
def openingOf (name : String) : Marker :=
  ⟨.opening, name, false⟩

/-- The closing marker of a block as the printer writes it, with the name. -/
def closingOf (name : String) : Marker :=
  ⟨.closing, name, false⟩

/-- The marker neither opens a block nor closes one named `name`. -/
def IsIdleIn (name : String) (marker : Marker) : Prop :=
  marker.opensBlock = false ∧ marker.closesBlock name = false

theorem opensBlock_openingOf {marker : Marker} (h : marker.opensBlock = true) :
    (openingOf marker.name).opensBlock = true :=
  opensBlock_iff.mpr ⟨rfl, (opensBlock_iff.mp h).2⟩

theorem closesBlock_closingOf (name : String) : (closingOf name).closesBlock name = true :=
  closesBlock_iff.mpr ⟨rfl, Or.inr rfl⟩

theorem IsReadable.openingOf {marker : Marker} (h : marker.IsReadable) :
    (openingOf marker.name).IsReadable :=
  ⟨h.name, fun _ _ => rfl⟩

theorem IsReadable.closingOf {marker : Marker} (h : marker.IsReadable) :
    (closingOf marker.name).IsReadable :=
  ⟨h.name, fun _ _ => rfl⟩

end Marker

/-! ### Matched blocks -/

namespace Forest

variable {α : Type} {allowed : Marker → Prop}

/-- Each block stands between markers that open and close it, and markers of leaves right inside it
satisfy `Marker.IsIdleIn`. Markers outside all blocks satisfy `allowed`. -/
def IsMatched (allowed : Marker → Prop) : Forest α → Prop
  | nil => True
  | leaf placed _ rest =>
    (∀ found, Piece.placedMarker? placed = some found → allowed found.1) ∧ rest.IsMatched allowed
  | block opening content closing rest =>
    (opening.1.opensBlock = true ∧ closing.1.closesBlock opening.1.name = true ∧
      content.IsMatched (Marker.IsIdleIn opening.1.name)) ∧ rest.IsMatched allowed

theorem IsMatched.mono {forest : Forest α} (h : forest.IsMatched allowed)
    {others : Marker → Prop} (hallowed : ∀ marker, allowed marker → others marker) :
    forest.IsMatched others := by
  induction forest with
  | nil => trivial
  | leaf placed label rest ih =>
    exact ⟨fun found hfound => hallowed _ (h.1 found hfound), ih h.2⟩
  | block opening content closing rest _ ih => exact ⟨h.1, ih h.2⟩

theorem IsMatched.append {first second : Forest α} (hfirst : first.IsMatched allowed)
    (hsecond : second.IsMatched allowed) : (first ++ second).IsMatched allowed := by
  induction first with
  | nil => exact hsecond
  | leaf placed label rest ih => exact ⟨hfirst.1, ih hfirst.2⟩
  | block opening content closing rest _ ih => exact ⟨hfirst.1, ih hfirst.2⟩

end Forest

namespace Outline

variable {α : Type}

/-- `root` is matched with any markers outside its blocks, and so is each open block with idle
markers. -/
structure IsMatched (outline : Outline α) : Prop where
  /-- What is read outside all open blocks. -/
  root : outline.root.IsMatched fun _ => True
  /-- The open blocks. -/
  opened : ∀ opened ∈ outline.opened, opened.opening.1.opensBlock = true ∧
    opened.content.IsMatched (Marker.IsIdleIn opened.opening.1.name)

theorem IsMatched.add {outline : Outline α} (h : outline.IsMatched) {added : Forest α}
    (hroot : added.IsMatched fun _ => True)
    (hinner : ∀ innermost outer, outline.opened = innermost :: outer →
      added.IsMatched (Marker.IsIdleIn innermost.opening.1.name)) :
    (outline.add added).IsMatched := by
  obtain ⟨root, opened⟩ := outline
  cases opened with
  | nil => exact ⟨h.root.append hroot, h.opened⟩
  | cons innermost outer =>
    obtain ⟨hinnermost, houter⟩ := List.forall_mem_cons.mp h.opened
    exact ⟨h.root, List.forall_mem_cons.mpr
      ⟨⟨hinnermost.1, hinnermost.2.append (hinner innermost outer rfl)⟩, houter⟩⟩

/-- A `Step` preserves `IsMatched`. -/
theorem Step.isMatched {outline next : Outline α} {entry : PlacedPiece × α}
    (h : outline.Step entry next) (hmatched : outline.IsMatched) : next.IsMatched := by
  cases h with
  | leaf placed label hloose =>
    refine hmatched.add ⟨fun _ _ => trivial, trivial⟩ fun innermost outer hopened => ?_
    refine ⟨fun found hfound => ?_, trivial⟩
    obtain ⟨hopens, hcloses⟩ := hloose found hfound
    exact ⟨hopens, hcloses innermost outer hopened⟩
  | opening found label hopens =>
    exact ⟨hmatched.root, List.forall_mem_cons.mpr ⟨⟨hopens, trivial⟩, hmatched.opened⟩⟩
  | closing found label innermost outer hopened hcloses =>
    have hall := hmatched.opened
    rw [hopened] at hall
    obtain ⟨⟨hopens, hcontent⟩, houter⟩ := List.forall_mem_cons.mp hall
    -- the block fits in anywhere, as it hides what is in it
    have hblock : ∀ allowed : Marker → Prop,
        (Forest.block innermost.opening innermost.content found .nil).IsMatched allowed :=
      fun _ => ⟨⟨hopens, hcloses, hcontent⟩, trivial⟩
    have hclosed : IsMatched { outline with opened := outer } := ⟨hmatched.root, houter⟩
    exact hclosed.add (hblock _) fun _ _ _ => hblock _

/-- A run of `read` preserves `IsMatched`. -/
theorem IsMatched.foldl_read {outline : Outline α} (h : outline.IsMatched)
    (entries : List (PlacedPiece × α)) : (entries.foldl read outline).IsMatched := by
  induction entries generalizing outline with
  | nil => exact h
  | cons entry entries ih => exact ih ((outline.step_read entry).isMatched h)

theorem isMatched_empty : ({} : Outline α).IsMatched :=
  ⟨trivial, fun _ hopened => absurd hopened (by simp)⟩

/-- `forest` is matched with any markers outside its blocks. -/
theorem IsMatched.forest {outline : Outline α} (h : outline.IsMatched) :
    outline.forest.IsMatched fun _ => True := by
  obtain ⟨root, opened⟩ := outline
  obtain ⟨hroot, hopened⟩ := h
  induction opened with
  | nil => exact hroot
  | cons innermost outer ih =>
    obtain ⟨⟨-, hcontent⟩, houter⟩ := List.forall_mem_cons.mp hopened
    rw [forest_cons]
    exact (ih hroot houter).append ⟨fun _ _ => trivial, hcontent.mono fun _ _ => trivial⟩

end Outline

/-- `forestOf` is matched with any markers outside its blocks. -/
theorem isMatched_forestOf (header : Header) (body : String) :
    (forestOf header body).IsMatched fun _ => True :=
  (Outline.isMatched_empty.foldl_read _).forest

/-! ### Plain markers -/

namespace Forest

variable {α : Type} {allowed : Marker → Prop}

/-- The forest with `Marker.openingOf` and `Marker.closingOf` around its blocks. The spans are those
of the markers that they replace. -/
def respell : Forest α → Forest α
  | nil => nil
  | leaf placed label rest => leaf placed label rest.respell
  | block opening content closing rest =>
    block (.openingOf opening.1.name, opening.2) content.respell
      (.closingOf opening.1.name, closing.2) rest.respell

/-- `respell` preserves `IsMatched`. -/
theorem IsMatched.respell {forest : Forest α} (h : forest.IsMatched allowed) :
    forest.respell.IsMatched allowed := by
  induction forest generalizing allowed with
  | nil => trivial
  | leaf placed label rest ih => exact ⟨h.1, ih h.2⟩
  | block opening content closing rest ihContent ihRest =>
    obtain ⟨⟨hopens, -, hcontent⟩, hrest⟩ := h
    exact ⟨⟨Marker.opensBlock_openingOf hopens, Marker.closesBlock_closingOf _,
      ihContent hcontent⟩, ihRest hrest⟩

/-- `respell` replaces pieces by spellings of the same. -/
theorem pieces_respell {forest : Forest α}
    (hreadable : ∀ found, Piece.marker found ∈ forest.pieces.map Prod.fst → found.IsReadable) :
    List.Forall₂ Piece.IsRespelled (forest.pieces.map Prod.fst)
      (forest.respell.pieces.map Prod.fst) := by
  induction forest with
  | nil => exact .nil
  | leaf placed label rest ih =>
    rw [pieces, List.map_cons] at hreadable
    refine .cons ?_ (ih fun found hfound => hreadable found (List.mem_cons_of_mem _ hfound))
    obtain ⟨piece, span⟩ := placed
    cases piece with
    | text chars => exact .text chars
    | marker found => exact .marker found found (hreadable found List.mem_cons_self)
  | block opening content closing rest ihContent ihRest =>
    simp only [pieces, List.map_cons, List.map_append, List.mem_cons, List.mem_append,
      Piece.ofMarker] at hreadable
    have hopening : opening.1.IsReadable := hreadable _ (Or.inl rfl)
    simp only [respell, pieces, List.map_cons, List.map_append]
    -- both plain markers are readable, since they have the name of the opening marker
    refine .cons (.marker _ _ hopening.openingOf) (List.rel_append ?_
      (.cons (.marker _ _ hopening.closingOf) ?_))
    · exact ihContent fun found hfound => hreadable found (Or.inr (Or.inl hfound))
    · exact ihRest fun found hfound => hreadable found (Or.inr (Or.inr (Or.inr hfound)))

end Forest

theorem map_fst_pieces_forestOf (header : Header) (body : String) :
    (forestOf header body).pieces.map Prod.fst = Piece.ofChars body.toList := by
  rw [pieces_forestOf]
  exact Piece.map_fst_placeFrom 0 _

/-- `Piece.ofChars` cuts the text of a respelled forest into the pieces of that forest. -/
theorem ofChars_respell (header : Header) (body : String) :
    Piece.ofChars ((forestOf header body).respell.pieces.flatMap fun placed => placed.1.chars) =
      (forestOf header body).respell.pieces.map Prod.fst := by
  have hpieces := map_fst_pieces_forestOf header body
  have hreadable : ∀ found, Piece.marker found ∈ (forestOf header body).pieces.map Prod.fst →
      found.IsReadable := by
    intro found hfound
    rw [hpieces] at hfound
    obtain ⟨front, rest, hread⟩ := Piece.exists_read?_of_mem_ofChars hfound
    exact Marker.isReadable_of_read? hread
  have hrespelled := Forest.pieces_respell hreadable
  rw [hpieces] at hrespelled
  have hcut := Piece.ofChars_respelled hrespelled
  rwa [List.flatMap_map] at hcut

/-! ### Reading a forest -/

namespace BodyState

variable {α : Type}

/-- Reads the pieces of `forest` one after another. -/
def readForest (state : BodyState) (forest : Forest α) : BodyState :=
  (forest.pieces.map Prod.fst).foldl readPiece state

theorem readForest_leaf (state : BodyState) (placed : PlacedPiece) (label : α)
    (rest : Forest α) :
    state.readForest (.leaf placed label rest) = (state.readPiece placed.1).readForest rest := rfl

theorem readForest_block (state : BodyState) (opening closing : PlacedMarker)
    (content rest : Forest α) :
    state.readForest (.block opening content closing rest) =
      (((state.readPiece (.marker opening.1)).readForest content).readPiece
        (.marker closing.1)).readForest rest := by
  simp only [readForest, Forest.pieces, List.map_cons, List.map_append, List.foldl_cons,
    List.foldl_append]
  rfl

theorem openMarkers_readPiece_opening (state : BodyState) {marker : Marker}
    (hopens : marker.opensBlock = true) :
    (state.readPiece (.marker marker)).openMarkers =
      (marker, state.nextSpan (.marker marker)) :: state.openMarkers := by
  rw [openMarkers_readPiece, nextOpenMarkers, if_pos hopens]

/-- A block leaves `openMarkers` unchanged if its content does. -/
theorem openMarkers_enclosed (state : BodyState) {opening closing : Marker} {content : Forest α}
    (hopens : opening.opensBlock = true) (hcloses : closing.closesBlock opening.name = true)
    (hcontent : ∀ (inside : BodyState) span outer, inside.openMarkers = (opening, span) :: outer →
      (inside.readForest content).openMarkers = (opening, span) :: outer) :
    (((state.readPiece (.marker opening)).readForest content).readPiece
      (.marker closing)).openMarkers = state.openMarkers := by
  have hopensNot : ¬ closing.opensBlock = true := by
    simp [Marker.opensBlock_eq_false_of_closesBlock hcloses]
  rw [openMarkers_readPiece, hcontent _ _ _ (state.openMarkers_readPiece_opening hopens),
    nextOpenMarkers, if_neg hopensNot]
  exact if_pos hcloses

/-- A forest with idle markers leaves `openMarkers` unchanged. -/
theorem openMarkers_readForest {forest : Forest α} {name : String}
    (h : forest.IsMatched (Marker.IsIdleIn name)) {state : BodyState} {innermost : PlacedMarker}
    {outer : List PlacedMarker} (hname : innermost.1.name = name)
    (hopen : state.openMarkers = innermost :: outer) :
    (state.readForest forest).openMarkers = innermost :: outer := by
  induction forest generalizing state innermost outer name with
  | nil => exact hopen
  | leaf placed label rest ih =>
    rw [readForest_leaf]
    refine ih h.2 hname ?_
    rw [openMarkers_readPiece, hopen]
    obtain ⟨piece, span⟩ := placed
    cases piece with
    | text chars => rfl
    | marker found =>
      obtain ⟨hopens, hcloses⟩ := h.1 (found, span) rfl
      rw [← hname] at hcloses
      exact nextOpenMarkers_eq_self _ hopens hcloses
  | block opening content closing rest ihContent ihRest =>
    obtain ⟨⟨hopens, hcloses, hcontent⟩, hrest⟩ := h
    -- what is in the block sees that block as the innermost one
    rw [readForest_block]
    refine ihRest hrest hname ?_
    rw [state.openMarkers_enclosed hopens hcloses fun _ _ _ => ihContent hcontent rfl, hopen]

/-- A forest and its `respell` leave the same markers in `openMarkers`, up to places. -/
theorem map_fst_openMarkers_respell {forest : Forest α} {allowed : Marker → Prop}
    (h : forest.IsMatched allowed) {first second : BodyState}
    (hopen : first.openMarkers.map Prod.fst = second.openMarkers.map Prod.fst) :
    (first.readForest forest.respell).openMarkers.map Prod.fst =
      (second.readForest forest).openMarkers.map Prod.fst := by
  induction forest generalizing first second with
  | nil => exact hopen
  | leaf placed label rest ih =>
    rw [Forest.respell, readForest_leaf, readForest_leaf]
    refine ih h.2 ?_
    rw [openMarkers_readPiece, openMarkers_readPiece]
    exact map_fst_nextOpenMarkers hopen _ _ _
  | block opening content closing rest _ ih =>
    obtain ⟨⟨hopens, hcloses, hcontent⟩, hrest⟩ := h
    rw [Forest.respell, readForest_block, readForest_block]
    refine ih hrest ?_
    -- a closed block leaves no trace, in either spelling
    have hplain := first.openMarkers_enclosed (Marker.opensBlock_openingOf hopens)
      (Marker.closesBlock_closingOf opening.1.name) fun _ _ _ =>
        openMarkers_readForest hcontent.respell rfl
    have hwritten := second.openMarkers_enclosed hopens hcloses fun _ _ _ =>
      openMarkers_readForest hcontent rfl
    rw [hplain, hwritten, hopen]

/-- Reading the `respell` of a forest resembles reading the forest. -/
theorem Resembles.readForest {known : List Variable} {before : List Node}
    {first second : BodyState} (hresembles : first.Resembles known before second)
    {forest : Forest α} {allowed : Marker → Prop} (h : forest.IsMatched allowed) :
    (first.readForest forest.respell).Resembles known before (second.readForest forest) := by
  induction forest generalizing first second allowed with
  | nil => exact hresembles
  | leaf placed label rest ih =>
    rw [Forest.respell, readForest_leaf, readForest_leaf]
    exact ih (hresembles.readPiece (.same placed.1)) h.2
  | block opening content closing rest ihContent ihRest =>
    obtain ⟨⟨hopens, hcloses, hcontent⟩, hrest⟩ := h
    rw [Forest.respell, readForest_block, readForest_block]
    have hopened : (first.readPiece (.marker (.openingOf opening.1.name))).Resembles known before
        (second.readPiece (.marker opening.1)) :=
      hresembles.readPiece (.opening _ _ (Marker.opensBlock_openingOf hopens) hopens rfl)
    -- the innermost open block is that of the opening marker when the closing one is read
    have hinside : ((second.readPiece (.marker opening.1)).readForest content).openMarkers =
        (opening.1, second.nextSpan (.marker opening.1)) :: second.openMarkers :=
      openMarkers_readForest hcontent rfl (second.openMarkers_readPiece_opening hopens)
    obtain ⟨frame, frames, hframes, hframe, -⟩ := List.map_eq_cons_iff.mp hinside
    have hname : frame.marker.name = opening.1.name :=
      congrArg (fun innermost : PlacedMarker => innermost.1.name) hframe
    refine ihRest ((ihContent hopened hcontent).readPiece ?_) hrest
    exact .closing _ _ frame frames hframes (by rw [hname]; exact Marker.closesBlock_closingOf _)
      (by rwa [hname])

end BodyState

end MarkdownTemplate
