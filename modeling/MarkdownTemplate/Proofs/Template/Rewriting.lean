import MarkdownTemplate.Proofs.Body.Liveness
import MarkdownTemplate.Template

/-!
# Rendering as rewriting

Rendering a document is rewriting its text. The rewriting knows no nodes and no open blocks: it
looks at each piece of the body on its own, with the list of all markers and of their pairs in view.

* `rewriteBody`: the rewriting of a body;
* `toList_renderAll_nodes`: the nodes of a forest render to its rewritten pieces;
* `render_compile`: a compiled document renders to its rewritten body, or to itself if it has no
  header.
-/

namespace MarkdownTemplate

section Rewriting

variable (declares : String → Bool) (value? : String → Option String)

/-- Whether `pair` removes `placed`. A pair removes its own two markers, and if the value of its
control variable is missing or blank, also everything between them. -/
def erases (pair : BlockPair) (placed : PlacedPiece) : Bool :=
  if (value? pair.name).all allBlank then
    decide (pair.opening.2.start ≤ placed.2.start) &&
      decide (placed.2.start < pair.closing.2.stop)
  else placed == Piece.ofMarker pair.opening || placed == Piece.ofMarker pair.closing

/-- The text of a piece that stays: a marker with `standsForVariable` becomes its value if there is
one, and everything else is kept. -/
def replacement (found : List PlacedMarker) : PlacedPiece → List Char
  | (.text chars, _) => chars
  | (.marker marker, span) =>
    if standsForVariable declares found (marker, span) then
      ((value? marker.name).getD marker.text).toList
    else marker.chars

/-- The text of `body`: the pieces that no pair `erases`, each with its `replacement`. -/
def rewriteBody (body : String) : String :=
  let found := markers body
  String.ofList <| (placedPieces body).flatMap fun placed =>
    if (blockPairs found).any fun pair => erases value? pair placed then []
    else replacement declares value? found placed

end Rewriting

section Erasing

variable {value? : String → Option String} {pair : BlockPair} {placed : PlacedPiece}

/-- A pair erases a piece other than its markers if the piece is between these and the value is
missing or blank. -/
theorem erases_of_ne (hopening : placed.2.start ≠ pair.opening.2.start)
    (hclosing : placed.2.start ≠ pair.closing.2.start) :
    erases value? pair placed =
      ((value? pair.name).all allBlank && (decide (pair.opening.2.start ≤ placed.2.start) &&
        decide (placed.2.start < pair.closing.2.stop))) := by
  have hopeningNe : placed ≠ Piece.ofMarker pair.opening := by
    rintro rfl
    exact hopening rfl
  have hclosingNe : placed ≠ Piece.ofMarker pair.closing := by
    rintro rfl
    exact hclosing rfl
  -- if the value is not blank, the pair erases nothing but its two markers
  unfold erases
  split
  · rename_i hblank
    rw [hblank, Bool.true_and]
  · rename_i hblank
    rw [Bool.eq_false_iff.mpr hblank, Bool.false_and, beq_eq_false_iff_ne.mpr hopeningNe,
      beq_eq_false_iff_ne.mpr hclosingNe, Bool.or_false]

/-- A pair erases nothing in front of it. -/
theorem erases_eq_false_of_lt (hpair : pair.opening.2.start < pair.closing.2.start)
    (h : placed.2.start < pair.opening.2.start) : erases value? pair placed = false := by
  rw [erases_of_ne (by omega) (by omega), decide_eq_false (by omega), Bool.false_and,
    Bool.and_false]

/-- A pair erases nothing behind it. -/
theorem erases_eq_false_of_ge (hopening : pair.opening.2.start < pair.closing.2.stop)
    (hclosing : pair.closing.2.start < pair.closing.2.stop)
    (h : pair.closing.2.stop ≤ placed.2.start) : erases value? pair placed = false := by
  have hstop : decide (placed.2.start < pair.closing.2.stop) = false :=
    decide_eq_false (Nat.not_lt_of_le h)
  rw [erases_of_ne (by omega) (by omega), hstop, Bool.and_false, Bool.and_false]

/-- Between its markers, a pair erases everything or nothing, depending on the value. -/
theorem erases_eq_of_between (hopening : pair.opening.2.start < placed.2.start)
    (hclosing : placed.2.start < pair.closing.2.start)
    (hstop : pair.closing.2.start < pair.closing.2.stop) :
    erases value? pair placed = (value? pair.name).all allBlank := by
  rw [erases_of_ne (by omega) (by omega), decide_eq_true (by omega), decide_eq_true (by omega),
    Bool.and_self, Bool.and_true]

/-- A pair erases its own markers. -/
theorem erases_markers (h : pair.opening.2.start < pair.opening.2.stop)
    (hstop : pair.opening.2.stop ≤ pair.closing.2.start)
    (hclosing : pair.closing.2.start < pair.closing.2.stop) :
    erases value? pair (Piece.ofMarker pair.opening) = true ∧
      erases value? pair (Piece.ofMarker pair.closing) = true := by
  unfold erases
  split
  · simp only [Bool.and_eq_true, decide_eq_true_eq]
    simp only [Piece.ofMarker]
    omega
  · simp

end Erasing

namespace Forest

variable {value? : String → Option String} {own : PlacedPiece → List Char} {start stop : Nat}

/-- No pair of a forest erases a piece outside `start` and `stop`. -/
theorem any_erases_eq_false {α : Type} {forest : Forest α} (h : Tiles start forest.pieces stop)
    {placed : PlacedPiece} (houtside : placed.2.start < start ∨ stop ≤ placed.2.start) :
    (forest.pairs.any fun pair => erases value? pair placed) = false := by
  rw [List.any_eq_false]
  intro pair hpair
  have hbounds := pair_bounds h hpair
  rw [Bool.not_eq_true]
  rcases houtside with hbefore | hafter
  · exact erases_eq_false_of_lt (by omega) (by omega)
  · exact erases_eq_false_of_ge (by omega) (by omega) (by omega)

section Block

variable {α : Type} {opening closing : PlacedMarker} {content rest : Forest α}
  {placed : PlacedPiece} (h : Tiles start (block opening content closing rest).pieces stop)
include h

/-- The markers of a block are erased. -/
theorem any_erases_markers :
    ((block opening content closing rest).pairs.any fun pair =>
        erases value? pair (Piece.ofMarker opening)) = true ∧
      ((block opening content closing rest).pairs.any fun pair =>
        erases value? pair (Piece.ofMarker closing)) = true := by
  obtain ⟨hstart, hopening, hcontent, hclosing, hrest⟩ := tiles_block h
  have hmarkers : erases value? ⟨opening, closing⟩ (Piece.ofMarker opening) = true ∧
      erases value? ⟨opening, closing⟩ (Piece.ofMarker closing) = true :=
    erases_markers (by simp only; omega) hcontent.start_le_stop hclosing
  rw [pairs, List.any_cons, List.any_cons, hmarkers.1, hmarkers.2]
  exact ⟨rfl, rfl⟩

/-- A piece in a block is erased by the pair of the block, or by a pair inside it. -/
theorem any_erases_content (hplaced : placed ∈ content.pieces) :
    ((block opening content closing rest).pairs.any fun pair => erases value? pair placed) =
      ((value? opening.1.name).all allBlank ||
        content.pairs.any fun pair => erases value? pair placed) := by
  obtain ⟨hstart, hopening, hcontent, hclosing, hrest⟩ := tiles_block h
  have hbounds := hcontent.bounds hplaced
  -- the pairs after the block start too late to erase anything in it
  rw [pairs, List.any_cons, List.any_append, any_erases_eq_false hrest (Or.inl (by omega)),
    Bool.or_false, erases_eq_of_between (by simp only; omega) (by simp only; omega) hclosing]
  rfl

/-- A piece behind a block is erased by a pair behind it only. -/
theorem any_erases_rest (hplaced : placed ∈ rest.pieces) :
    ((block opening content closing rest).pairs.any fun pair => erases value? pair placed) =
      rest.pairs.any fun pair => erases value? pair placed := by
  obtain ⟨hstart, hopening, hcontent, hclosing, hrest⟩ := tiles_block h
  have hinner := hcontent.start_le_stop
  have hbounds := hrest.bounds hplaced
  -- the pair of the block and those in it end before
  rw [pairs, List.any_cons, List.any_append, any_erases_eq_false hcontent (Or.inr (by omega)),
    Bool.false_or, erases_eq_false_of_ge (by simp only; omega) hclosing (by simp only; omega),
    Bool.false_or]

end Block

/-- The nodes of a forest render to the pieces that no pair erases, if each leaf renders to `own` of
its piece. -/
theorem toList_renderAll_nodes {forest : Forest Node} (h : Tiles start forest.pieces stop)
    (hleaves : ∀ leaf ∈ forest.leaves, (leaf.2.renderWith value?).toList = own leaf.1) :
    (renderAll value? forest.nodes).toList =
      forest.pieces.flatMap fun placed =>
        if forest.pairs.any fun pair => erases value? pair placed then [] else own placed := by
  induction forest generalizing start stop with
  | nil => rfl
  | leaf placed node rest ih =>
    rw [leaves, List.forall_mem_cons] at hleaves
    have hplaced : (rest.pairs.any fun pair => erases value? pair placed) = false :=
      any_erases_eq_false h.tail (Or.inl (by have := h.head_bounds; omega))
    rw [toList_renderAll, flatMap_nodes_leaf (cutsText_renderWith value?), ← toList_renderAll,
      ih h.tail hleaves.2, hleaves.1, pieces, pairs, List.flatMap_cons, hplaced]
    rfl
  | block opening content closing rest ihContent ihRest =>
    obtain ⟨-, -, hcontent, -, hrest⟩ := tiles_block h
    have hmarkers : ((block opening content closing rest).pairs.any fun pair =>
          erases value? pair (Piece.ofMarker opening)) = true ∧
        ((block opening content closing rest).pairs.any fun pair =>
          erases value? pair (Piece.ofMarker closing)) = true := any_erases_markers h
    simp only [leaves, List.forall_mem_append] at hleaves
    have hcontentText : (content.pieces.flatMap fun placed =>
          if (block opening content closing rest).pairs.any fun pair => erases value? pair placed
          then [] else own placed) =
        (Node.renderWith value? (.block opening.1.name content.nodes)).toList := by
      rw [Node.renderWith, isKept_eq]
      -- a blank value drops the block; otherwise its own pair erases nothing of the content
      cases hblank : (value? opening.1.name).all allBlank with
      | true =>
        simp only [Bool.not_true, Bool.false_eq_true, if_false, String.toList_empty,
          List.flatMap_eq_nil_iff]
        intro placed hplaced
        rw [any_erases_content h hplaced, hblank, Bool.true_or, if_pos rfl]
      | false =>
        simp only [Bool.not_false, if_true]
        rw [ihContent hcontent hleaves.1]
        refine List.flatMap_congr fun placed hplaced => ?_
        rw [any_erases_content h hplaced, hblank, Bool.false_or]
    have hrestText : (rest.pieces.flatMap fun placed =>
          if (block opening content closing rest).pairs.any fun pair => erases value? pair placed
          then [] else own placed) =
        (renderAll value? rest.nodes).toList := by
      rw [ihRest hrest hleaves.2]
      exact List.flatMap_congr fun placed hplaced => by rw [any_erases_rest h hplaced]
    rw [toList_renderAll, flatMap_nodes_block (cutsText_renderWith value?), ← toList_renderAll,
      pieces, List.flatMap_cons, List.flatMap_append, List.flatMap_cons, if_pos hmarkers.1,
      if_pos hmarkers.2, List.nil_append, List.nil_append, hcontentText, hrestText]

end Forest

/-- A label as in `IsLeafOf` renders to the `replacement` of its piece. -/
theorem toList_renderWith_of_isLeafOf {declares : String → Bool} {value? : String → Option String}
    {found : List PlacedMarker} {placed : PlacedPiece} {node : Node}
    (h : IsLeafOf declares found placed node) :
    (node.renderWith value?).toList = replacement declares value? found placed := by
  cases h with
  | text placed hlive =>
    obtain ⟨piece, span⟩ := placed
    rw [Node.renderWith, String.toList_ofList]
    cases piece with
    | text chars => rfl
    | marker marker =>
      have hnot := hlive (marker, span) rfl
      rw [replacement, if_neg (by simp [hnot])]
      rfl
  | reference marker target hlive hname =>
    rw [Node.renderWith, Piece.ofMarker, replacement, if_pos hlive, hname]

/-- The nodes of a body render to `rewriteBody`. -/
theorem renderAll_ofString (header : Header) (value? : String → Option String) (body : String) :
    renderAll value? (ParsedBody.ofString .documentOrder header body).nodes =
      rewriteBody header.declares value? body := by
  have hleaves : ∀ leaf ∈ (forestOf header body).leaves, (leaf.2.renderWith value?).toList =
      replacement header.declares value? (markers body) leaf.1 :=
    fun leaf hleaf => toList_renderWith_of_isLeafOf (isLeafOf_of_mem_leaves header body leaf hleaf)
  apply String.toList_injective
  rw [nodes_ofString, Forest.toList_renderAll_nodes (tiles_forestOf header body) hleaves,
    pieces_forestOf, pairs_forestOf, rewriteBody, String.toList_ofList]

/-- A document without header is all body. -/
theorem Document.body_eq_of_header_eq_none {options : Options} {raw : String}
    (h : (Document.ofString options raw).header = none) :
    (Document.ofString options raw).body = raw := by
  unfold Document.ofString at h ⊢
  split at h
  · rfl
  · split at h
    · exact absurd h (by simp)
    · rfl

/-- `template.render` is `rewriteBody` of `template.body`, with the names that the header declares.
Without a header it is `raw`. Here `rewriteBody` is defined on the text by `markers` and
`blockPairs`, without any nodes. -/
theorem render_compile {α : Type} [ValueSource α] (tomlHeaders : Bool) (id : Option String)
    (raw : String) (values : α) :
    let options : Options := ⟨.documentOrder, tomlHeaders⟩
    let template := Template.compile options id raw
    let header := (Document.ofString options raw).header.getD .empty
    template.render values =
      if template.hasHeader then
        rewriteBody header.declares (ValueSource.value? values) template.body
      else raw := by
  intro options template header
  cases hheader : (Document.ofString options raw).header with
  -- without header, markers are not even looked for
  | none =>
    have hnodes : template.nodes = Node.pushText [] raw := by
      simp [template, Template.compile, hheader, Document.body_eq_of_header_eq_none hheader]
    have hhas : template.hasHeader = false := by simp [template, Template.compile, hheader]
    rw [Template.render, render, hnodes, renderAll_pushText, renderAll, String.empty_append, hhas]
    rfl
  | some declared =>
    have hnodes : template.nodes =
        (ParsedBody.ofString .documentOrder declared template.body).nodes := by
      simp [template, Template.compile, hheader, options]
    have hhas : template.hasHeader = true := by simp [template, Template.compile, hheader]
    have hdeclared : header = declared := by simp [header, hheader]
    rw [Template.render, render, hnodes, renderAll_ofString, hhas, hdeclared]
    rfl

end MarkdownTemplate
