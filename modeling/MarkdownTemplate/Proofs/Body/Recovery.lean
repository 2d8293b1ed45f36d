import MarkdownTemplate.Proofs.Body.Reading
import MarkdownTemplate.Proofs.Node.Join

/-!
# Orders of recovery

Blocks that stay open are written back as text in one of two orders. What is written back is the
same in both: the nodes outside all open blocks, and for each open block its opening marker with the
nodes after it. Only the order of these sections differs.

* `OpenSection`: an open block as it is written back;
* `flatten_documentOrder` and `flatten_innermostFirst`: the sections in the two orders;
* `Forest.tidy_nodes`: the nodes of a forest need no tidying;
* `sections_ofString`: a body parsed in the two orders.
-/

namespace MarkdownTemplate

/-- A block that is still open at the end of a body: its opening marker and the nodes after it. -/
structure OpenSection where
  /-- The marker in its place. -/
  opening : PlacedMarker
  /-- The nodes after the marker. -/
  content : List Node

namespace OpenSection

/-- The nodes of the section, with its marker as text in front. -/
def nodes (opened : OpenSection) : List Node :=
  .text opened.opening.1.text :: opened.content

/-- A section renders to a text that starts with the text of its marker. -/
theorem prefix_renderAll_nodes (value? : String → Option String) (opened : OpenSection) :
    opened.opening.1.text.toList <+: (renderAll value? opened.nodes).toList := by
  rw [nodes, renderAll, Node.renderWith, String.toList_append]
  exact List.prefix_append _ _

end OpenSection

/-- The section of a frame. -/
def Frame.toSection (frame : Frame) : OpenSection :=
  ⟨(frame.marker, frame.span), frame.content⟩

namespace BodyState

/-- The sections of `state.frames`, the outermost first. -/
def sections (state : BodyState) : List OpenSection :=
  state.frames.reverse.map Frame.toSection

theorem foldl_pushFrame (nodes : List Node) (frames : List Frame) :
    frames.foldl pushFrame nodes =
      Node.pushAll nodes ((frames.map Frame.toSection).flatMap OpenSection.nodes) := by
  induction frames generalizing nodes with
  | nil => rfl
  | cons frame frames ih =>
    rw [List.foldl_cons, ih, List.map_cons, List.flatMap_cons, Node.pushAll_append]
    rfl

/-- In `Recovery.documentOrder`, `sections` follow `root`. -/
theorem flatten_documentOrder (state : BodyState) (hroot : Node.tidy state.root = state.root) :
    state.flatten .documentOrder =
      Node.tidy (state.root ++ state.sections.flatMap OpenSection.nodes) := by
  rw [flatten, foldl_pushFrame, ← Node.pushAll_nil_eq_tidy, Node.pushAll_append,
    Node.pushAll_nil_eq_tidy, hroot, sections]

/-- In `Recovery.innermostFirst`, `sections` come in reverse before `root`. -/
theorem flatten_innermostFirst (state : BodyState) :
    state.flatten .innermostFirst =
      Node.tidy (state.sections.reverse.flatMap OpenSection.nodes ++ state.root) := by
  rw [flatten, foldl_pushFrame, ← Node.pushAll_append, Node.pushAll_nil_eq_tidy, sections,
    ← List.map_reverse, List.reverse_reverse]

/-- `unclosed` has one diagnostic for each of `sections`, in the same order. -/
theorem unclosed_eq_map_sections (state : BodyState) :
    state.unclosed = state.sections.map fun opened =>
      .unclosedBlock opened.opening.1.text opened.opening.2 := by
  rw [unclosed, sections, List.map_map]
  rfl

/-- `sections` has the markers of `outline.opened`, in reverse. -/
theorem IsOutlinedBy.map_opening_sections {state : BodyState} {outline : Outline Node}
    (h : state.IsOutlinedBy outline) :
    state.sections.map OpenSection.opening = (outline.opened.map Opened.opening).reverse := by
  rw [h.map_opening, sections, List.map_map, ← List.map_reverse]
  rfl

end BodyState

/-- `Node.tidy` does not change the nodes of a forest. -/
theorem Forest.tidy_nodes (forest : Forest Node) : Node.tidy forest.nodes = forest.nodes := by
  rw [← Node.pushAll_nil_eq_tidy, Forest.pushAll_nodes, Forest.nodes]

/-- `Node.tidy` does not change what is rendered. -/
theorem renderAll_tidy (value? : String → Option String) (nodes : List Node) :
    renderAll value? (Node.tidy nodes) = renderAll value? nodes := by
  rw [← Node.pushAll_nil_eq_tidy, renderAll_pushAll, renderAll, String.empty_append]

/-- Sections render one after another. -/
theorem renderAll_flatMap_nodes (value? : String → Option String) (opened : List OpenSection) :
    renderAll value? (opened.flatMap OpenSection.nodes) =
      String.join (opened.map fun opened => renderAll value? opened.nodes) := by
  induction opened with
  | nil => rfl
  | cons first opened ih =>
    rw [List.flatMap_cons, renderAll_append, ih, List.map_cons, String.join_cons]

/-- The two orders of recovery arrange the same `sections` differently, and agree on variables,
diagnostics and header, and on nodes if there are no diagnostics. There is one diagnostic for each
section, in document order. `Recovery.documentOrder` puts the sections after `root`, the outermost
first, and `Recovery.innermostFirst` puts them before it, the innermost first. For all `values`,
both render to the same texts in these two orders, and the text of each section starts with its
opening marker. -/
theorem sections_ofString (header : Header) (body : String) :
    let inOrder := ParsedBody.ofString .documentOrder header body
    let inward := ParsedBody.ofString .innermostFirst header body
    inward.vars = inOrder.vars ∧ inward.diagnostics = inOrder.diagnostics ∧
    inward.header = inOrder.header ∧
    (inOrder.diagnostics = [] → inward.nodes = inOrder.nodes) ∧
    ∃ (root : List Node) (sections : List OpenSection),
      (sections.map OpenSection.opening).Sublist (markers body) ∧
      inOrder.diagnostics = sections.map (fun opened =>
        .unclosedBlock opened.opening.1.text opened.opening.2) ∧
      (∀ opened ∈ sections, opened.opening.2.slice? body = some opened.opening.1.text) ∧
      inOrder.nodes = Node.tidy (root ++ sections.flatMap OpenSection.nodes) ∧
      inward.nodes = Node.tidy (sections.reverse.flatMap OpenSection.nodes ++ root) ∧
      ∀ {α : Type} [ValueSource α] (values : α), ∃ (before : String) (texts : List String),
        List.Forall₂ (fun opened text => opened.opening.1.text.toList <+: text.toList)
          sections texts ∧
        render inOrder.nodes values = before ++ String.join texts ∧
        render inward.nodes values = String.join texts.reverse ++ before := by
  intro inOrder inward
  let state := (Piece.ofChars body.toList).foldl BodyState.readPiece { header }
  have houtline : state.IsOutlinedBy (outlineOf header body) := isOutlinedBy_outlineOf header body
  have hinOrder : inOrder = state.finish .documentOrder := ParsedBody.ofString_eq_ofPieces ..
  have hinward : inward = state.finish .innermostFirst := ParsedBody.ofString_eq_ofPieces ..
  have hroot : Node.tidy state.root = state.root := by
    rw [houtline.root]
    exact Forest.tidy_nodes _
  have hnodes : inOrder.nodes =
      Node.tidy (state.root ++ state.sections.flatMap OpenSection.nodes) := by
    rw [hinOrder]
    exact state.flatten_documentOrder hroot
  have hreversed : inward.nodes =
      Node.tidy (state.sections.reverse.flatMap OpenSection.nodes ++ state.root) := by
    rw [hinward]
    exact state.flatten_innermostFirst
  have hdiagnostics : inOrder.diagnostics = state.sections.map fun opened =>
      .unclosedBlock opened.opening.1.text opened.opening.2 := by
    rw [hinOrder]
    exact state.unclosed_eq_map_sections
  -- the markers of the sections are those of the body that have no pair
  have hmarkers : (state.sections.map OpenSection.opening).Sublist (markers body) := by
    rw [houtline.map_opening_sections, map_opening_outlineOf]
    exact List.filter_sublist
  refine ⟨by rw [hinOrder, hinward]; rfl, by rw [hinOrder, hinward]; rfl,
    by rw [hinOrder, hinward]; rfl, ?_, state.root, state.sections, hmarkers, hdiagnostics, ?_,
    hnodes, hreversed, ?_⟩
  -- without diagnostics there are no sections
  · intro hnone
    have hempty : state.sections = [] := List.map_eq_nil_iff.mp (hdiagnostics.symm.trans hnone)
    rw [hnodes, hreversed, hempty]
    simp
  · intro opened hopened
    exact slice?_of_mem_markers (hmarkers.subset (List.mem_map_of_mem hopened))
  · intro α _ values
    refine ⟨renderAll (ValueSource.value? values) state.root,
      state.sections.map fun opened => renderAll (ValueSource.value? values) opened.nodes,
      ?_, ?_, ?_⟩
    · rw [List.forall₂_map_right_iff, List.forall₂_same]
      exact fun opened _ => opened.prefix_renderAll_nodes _
    · rw [render, hnodes, renderAll_tidy, renderAll_append, renderAll_flatMap_nodes]
    · rw [render, hreversed, renderAll_tidy, renderAll_append, renderAll_flatMap_nodes,
        List.map_reverse]

end MarkdownTemplate
