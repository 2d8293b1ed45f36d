import MarkdownTemplate.Proofs.Body.Respelling

/-!
# Printing nodes

Nodes are printed with plain markers around their blocks. What is printed differs from the body that
the nodes come from, as blocks may be enclosed by other markers there. But when it is parsed, the
same nodes come out, also for the text that is left of markers.

* `Node.printed`: the nodes as a body;
* `Forest.toList_printed_nodes`: the nodes of a forest are printed as its pieces with plain markers;
* `ofString_printed_eq_readForest`: to parse what is printed is to read these pieces;
* `reparse_printed`: what is printed is parsed to the same nodes.
-/

namespace MarkdownTemplate

mutual

/-- The text of a node in a body. -/
def Node.printedIn : Node → String
  | .text written => written
  | .reference _ marker => marker
  | .block control content =>
    "#" ++ braced ("?" ++ control) ++ Node.printed content ++ "#" ++ braced ("/" ++ control)
termination_by structural node => node

/-- The body that is written for `nodes`: a text as it is, a reference as its marker, and a block
between two markers with its name. -/
def Node.printed : List Node → String
  | [] => ""
  | node :: nodes => node.printedIn ++ Node.printed nodes
termination_by structural nodes => nodes

end

namespace Node

theorem toList_printed (nodes : List Node) :
    (printed nodes).toList = nodes.flatMap fun node => node.printedIn.toList :=
  eq_flatMap_of_cons (fun nodes => (printed nodes).toList) rfl
    (fun _ _ => String.toList_append) nodes

theorem cutsText_printedIn : CutsText fun node => node.printedIn.toList :=
  fun _ _ => String.toList_append

variable (change : Variable → Variable)

mutual

theorem printedIn_retargetIn (node : Node) :
    (node.retargetIn change).printedIn = node.printedIn := by
  cases node with
  | text written => rfl
  | reference target marker => rfl
  | block control content => rw [retargetIn, printedIn, printedIn, printed_retarget content]

/-- `printed` does not depend on variables. -/
theorem printed_retarget (nodes : List Node) : printed (retarget change nodes) = printed nodes := by
  cases nodes with
  | nil => rfl
  | cons node nodes =>
    rw [retarget, printed, printed, printedIn_retargetIn node, printed_retarget nodes]

end

end Node

/-- `leafNode` is printed as its piece. -/
theorem toList_printedIn_leafNode (state : BodyState) (piece : Piece) :
    (state.leafNode piece).printedIn.toList = piece.chars := by
  cases piece with
  | text chars => exact String.toList_ofList
  | marker marker =>
    rw [BodyState.leafNode]
    split
    · split <;> exact String.toList_ofList
    · exact String.toList_ofList

/-- A forest is printed as the pieces of its `respell`, if each leaf is printed as its piece. -/
theorem Forest.toList_printed_nodes {forest : Forest Node}
    (hleaves : ∀ leaf ∈ forest.leaves, leaf.2.printedIn.toList = leaf.1.1.chars) :
    (Node.printed forest.nodes).toList =
      forest.respell.pieces.flatMap fun placed => placed.1.chars := by
  induction forest with
  | nil => rfl
  | leaf placed node rest ih =>
    rw [leaves, List.forall_mem_cons] at hleaves
    rw [Node.toList_printed, flatMap_nodes_leaf Node.cutsText_printedIn, ← Node.toList_printed,
      ih hleaves.2, hleaves.1, respell, pieces, List.flatMap_cons]
  | block opening content closing rest ihContent ihRest =>
    simp only [leaves, List.forall_mem_append] at hleaves
    rw [Node.toList_printed, flatMap_nodes_block Node.cutsText_printedIn, ← Node.toList_printed,
      ihRest hleaves.2, Node.printedIn, respell, pieces, List.flatMap_cons, List.flatMap_append,
      List.flatMap_cons, ← ihContent hleaves.1]
    simp [Piece.ofMarker, Piece.chars, Marker.openingOf, Marker.closingOf, Marker.chars,
      MarkerKind.lead, braced]

/-- The nodes of a body are printed as the pieces of `respell` of its forest. -/
theorem toList_printed_ofString (header : Header) (body : String) :
    (Node.printed (ParsedBody.ofString .documentOrder header body).nodes).toList =
      (forestOf header body).respell.pieces.flatMap fun placed => placed.1.chars := by
  rw [nodes_ofString]
  exact Forest.toList_printed_nodes (forall_mem_leaves_forestOf header body
    (fun piece node => node.printedIn.toList = piece.chars) toList_printedIn_leafNode)

/-- Parsing a body is reading `forestOf` with `readForest`. -/
theorem ofString_eq_readForest (header : Header) (body : String) :
    ParsedBody.ofString .documentOrder header body =
      (BodyState.readForest { header } (forestOf header body)).finish .documentOrder := by
  rw [ParsedBody.ofString_eq_ofPieces, ← map_fst_pieces_forestOf header]
  rfl

/-- Parsing the printed nodes is reading the `respell` of `forestOf`. -/
theorem ofString_printed_eq_readForest (header : Header) (body : String) :
    ParsedBody.ofString .documentOrder header
        (Node.printed (ParsedBody.ofString .documentOrder header body).nodes) =
      (BodyState.readForest { header } (forestOf header body).respell).finish .documentOrder := by
  rw [ParsedBody.ofString_eq_ofPieces, toList_printed_ofString, ofChars_respell]
  rfl

/-- The nodes of a body are in the normal form of `Node.pushAll`. -/
theorem pushAll_nil_ofString (header : Header) (body : String) :
    Node.pushAll [] (ParsedBody.ofString .documentOrder header body).nodes =
      (ParsedBody.ofString .documentOrder header body).nodes := by
  rw [nodes_ofString]
  exact Forest.pushAll_nodes [] _

/-- The messages of `unclosed` depend on `openMarkers` only up to places. -/
theorem BodyState.map_message_unclosed {first second : BodyState}
    (h : first.openMarkers.map Prod.fst = second.openMarkers.map Prod.fst) :
    first.unclosed.map Diagnostic.message = second.unclosed.map Diagnostic.message := by
  have hmessages : ∀ state : BodyState, state.unclosed.map Diagnostic.message =
      (state.openMarkers.map Prod.fst).reverse.map fun opening =>
        (Diagnostic.unclosedBlock opening.text ⟨0, 0⟩).message := by
    intro state
    rw [unclosed_eq_map_openMarkers, ← List.map_reverse, List.map_map, List.map_map]
    rfl
  rw [hmessages, hmessages, h]

/-- Parsing `Node.printed parsed.nodes` with the same header gives `parsed` again: its nodes and
variables up to `Variable.span`, its header, and the messages of its diagnostics in their order. So
`Node.printed` is idempotent. -/
theorem reparse_printed (header : Header) (body : String) :
    let parsed := ParsedBody.ofString .documentOrder header body
    let again := ParsedBody.ofString .documentOrder header (Node.printed parsed.nodes)
    Node.retarget Variable.unplaced again.nodes = Node.retarget Variable.unplaced parsed.nodes ∧
    again.vars.map Variable.unplaced = parsed.vars.map Variable.unplaced ∧
    again.header = parsed.header ∧
    again.diagnostics.map Diagnostic.message = parsed.diagnostics.map Diagnostic.message ∧
    Node.printed again.nodes = Node.printed parsed.nodes := by
  intro parsed again
  -- both runs read one forest, as it is and respelled, and start in the same state
  let start : BodyState := { header }
  let first := start.readForest (forestOf header body).respell
  let second := start.readForest (forestOf header body)
  have hagain : again = first.finish .documentOrder := ofString_printed_eq_readForest header body
  have hparsed : parsed = second.finish .documentOrder := ofString_eq_readForest header body
  have hmatched := isMatched_forestOf header body
  have hstart : start.Resembles [] [] start := ⟨rfl, rfl, rfl, List.Forall₂.nil⟩
  have hresembles : first.Resembles [] [] second := hstart.readForest hmatched
  have hopen : first.openMarkers.map Prod.fst = second.openMarkers.map Prod.fst :=
    BodyState.map_fst_openMarkers_respell hmatched rfl
  have hnodes : Node.retarget Variable.unplaced again.nodes =
      Node.retarget Variable.unplaced parsed.nodes := by
    have hflatten := hresembles.flatten (by
      rw [BodyState.map_marker_frames, BodyState.map_marker_frames, hopen])
    rw [← Node.retarget_pushAll] at hflatten
    calc
      Node.retarget Variable.unplaced again.nodes
      _ = Node.retarget Variable.unplaced (Node.pushAll [] parsed.nodes) := by
        rw [hagain, hparsed]
        exact hflatten
      _ = Node.retarget Variable.unplaced parsed.nodes := by
        rw [pushAll_nil_ofString]
  refine ⟨hnodes, ?_, ?_, ?_, ?_⟩
  · rw [hagain, hparsed]
    have hvars := hresembles.vars
    simp only [List.map_nil, List.nil_append, List.not_mem_nil, not_false_eq_true, decide_true,
      List.filter_true] at hvars
    exact hvars
  · rw [hagain, hparsed]
    exact hresembles.header
  · rw [hagain, hparsed]
    exact BodyState.map_message_unclosed hopen
  · rw [← Node.printed_retarget Variable.unplaced, hnodes, Node.printed_retarget]

/-- A closing marker with another name stays text, and the block around it is open at the end. -/
example : Node.printed (ParsedBody.ofString .documentOrder .empty
    "#{?a?}x#{/b}#{?c?}y#{/?}").nodes =
      "#{?a?}x#{/b}#{?c}y#{/c}" := by
  cbv

end MarkdownTemplate
