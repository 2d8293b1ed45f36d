import MarkdownTemplate.Proofs.Body.Liveness
import MarkdownTemplate.Proofs.Body.OpenBlocks
import MarkdownTemplate.Proofs.Marker.Occurrences

/-!
# References of a body

Every placeholder of a body ends up in its nodes once: as a reference if it stands for a variable,
and inside a text otherwise. In document order both come in the order of the body. The texts of a
body are runs of its pieces, so the markers that can be found in them are those that were found in
the body.

* `Node.TextsAre`: the texts in nodes are made of runs of pieces;
* `exists_textsAre_nodesOnto`: the texts of a forest are made of the pieces of its leaves;
* `map_references_nodes`: the references of a forest are those of its leaves;
* `references_ofString`: what becomes of the placeholders of a body.
-/

namespace MarkdownTemplate

mutual

/-- The texts in a node. -/
def Node.textsIn : Node → List String
  | .text written => [written]
  | .reference _ _ => []
  | .block _ content => Node.texts content
termination_by structural node => node

/-- The texts at any depth, in document order. -/
def Node.texts : List Node → List String
  | [] => []
  | node :: nodes => node.textsIn ++ Node.texts nodes
termination_by structural nodes => nodes

end

/-- The marker of a piece that is a placeholder. -/
def Piece.placeholder? : Piece → Option Marker
  | text _ => none
  | marker found => if found.kind = .placeholder then some found else none

/-- The text of the pieces in `run`. -/
def Piece.written (run : List Piece) : String :=
  String.ofList (run.flatMap chars)

/-- The placeholders among the markers of `written`. -/
def placeholdersIn (written : String) : List Marker :=
  ((markers written).map Prod.fst).filter fun found => found.kind == .placeholder

/-! ### Texts made of pieces -/

namespace Node

theorem texts_append (first second : List Node) :
    texts (first ++ second) = texts first ++ texts second :=
  append_of_cons texts textsIn rfl (fun _ _ => rfl) first second

theorem texts_concat (nodes : List Node) (node : Node) :
    texts (nodes ++ [node]) = texts nodes ++ node.textsIn := by
  rw [texts_append, texts, texts, List.append_nil]

/-- Each text in `nodes` is a run of adjacent pieces. If `nodes` ends in a text, which later text
would join, then the run of this text is a suffix of `pieces`. -/
structure TextsAre (nodes : List Node) (pieces : List Piece) (runs : List (List Piece)) : Prop where
  /-- The texts are those of the runs. -/
  texts : texts nodes = runs.map Piece.written
  /-- Each run is read in one go. -/
  within : ∀ run ∈ runs, run <:+: pieces
  /-- The run of a text at the end. -/
  last : EndsInText nodes → ∃ earlier run, runs = earlier ++ [run] ∧ run <:+ pieces

namespace TextsAre

theorem nil (pieces : List Piece) : TextsAre [] pieces [] := by
  refine ⟨rfl, by simp, ?_⟩
  rintro ⟨init, last, hnil⟩
  exact absurd hnil (by simp)

variable {nodes : List Node} {pieces : List Piece} {runs : List (List Piece)}

/-- Pushing the text of `piece` extends the last run or starts a new one. -/
theorem pushText (h : TextsAre nodes pieces runs) {piece : Piece} (hpiece : piece.chars ≠ []) :
    ∃ later, TextsAre (Node.pushText nodes (String.ofList piece.chars)) (pieces ++ [piece]) later ∧
      later.flatten = runs.flatten ++ [piece] := by
  have hadded : String.ofList piece.chars ≠ "" := by
    rwa [← String.ofList_nil, Ne, String.ofList_inj]
  have hwithin : ∀ run ∈ runs, run <:+: pieces ++ [piece] :=
    fun run hrun => (h.within run hrun).trans (List.prefix_append _ _).isInfix
  by_cases hend : EndsInText nodes
  -- the text at the end grows, and so does its run, which stays a suffix
  · obtain ⟨earlier, run, rfl, hsuffix⟩ := h.last hend
    obtain ⟨init, last, rfl⟩ := hend
    have htexts := h.texts
    rw [texts_concat, textsIn, List.map_append, List.map_singleton] at htexts
    obtain ⟨hinit, hlast⟩ := List.append_inj' htexts rfl
    have hgrown : run ++ [piece] <:+ pieces ++ [piece] := by
      rwa [List.suffix_append_inj_of_length_eq rfl, and_iff_left rfl]
    refine ⟨earlier ++ [run ++ [piece]], ⟨?_, ?_, ?_⟩, by simp⟩
    · rw [pushText_concat_text, texts_concat, textsIn, hinit, (List.cons.inj hlast).1]
      simp [Piece.written]
    · rw [List.forall_mem_append, List.forall_mem_singleton]
      exact ⟨fun run hrun => hwithin run (List.mem_append_left _ hrun), hgrown.isInfix⟩
    · exact fun _ => ⟨earlier, _, rfl, hgrown⟩
  · have hsuffix : [piece] <:+ pieces ++ [piece] := List.suffix_append _ _
    refine ⟨runs ++ [[piece]], ⟨?_, ?_, ?_⟩, by simp⟩
    · rw [pushText_of_not_endsInText hend hadded, texts_concat, textsIn, h.texts]
      simp [Piece.written]
    · rw [List.forall_mem_append, List.forall_mem_singleton]
      exact ⟨hwithin, hsuffix.isInfix⟩
    · exact fun _ => ⟨runs, _, rfl, hsuffix⟩

/-- A node that is no text ends the last run and adds the runs inside the node. -/
theorem concat (h : TextsAre nodes pieces runs) {node : Node} {more : List Piece}
    {inner : List (List Piece)} (hnode : ∀ written, node ≠ text written)
    (htexts : node.textsIn = inner.map Piece.written)
    (hwithin : ∀ run ∈ inner, run <:+: pieces ++ more) :
    TextsAre (nodes ++ [node]) (pieces ++ more) (runs ++ inner) := by
  refine ⟨?_, ?_, ?_⟩
  · rw [texts_concat, h.texts, htexts, List.map_append]
  · rw [List.forall_mem_append]
    exact ⟨fun run hrun => (h.within run hrun).trans (List.prefix_append _ _).isInfix, hwithin⟩
  · rintro ⟨init, last, heq⟩
    exact absurd (List.append_inj' heq rfl).2 (by simp [hnode])

end TextsAre

end Node

/-- The placeholders of `markersFrom` are those of `pieces`. -/
theorem Piece.filter_map_fst_markersFrom (offset : Nat) (pieces : List Piece) :
    ((markersFrom offset pieces).map Prod.fst).filter (fun found => found.kind == .placeholder) =
      pieces.filterMap placeholder? := by
  induction pieces generalizing offset with
  | nil => rfl
  | cons piece pieces ih =>
    cases piece with
    | text chars => exact ih _
    | marker found =>
      rw [markersFrom, List.map_cons, List.filter_cons, ih, List.filterMap_cons, placeholder?]
      by_cases hkind : found.kind = .placeholder
      · simp [hkind]
      · simp [hkind]

/-- `placeholdersIn` finds in the texts just the placeholders of their runs, if `pieces` come from
`Piece.ofChars`. -/
theorem Node.TextsAre.flatMap_placeholdersIn {nodes : List Node} {chars : List Char}
    {runs : List (List Piece)} (h : TextsAre nodes (Piece.ofChars chars) runs) :
    (Node.texts nodes).flatMap placeholdersIn = runs.flatten.filterMap Piece.placeholder? := by
  have hrun : ∀ run ∈ runs,
      placeholdersIn (Piece.written run) = run.filterMap Piece.placeholder? := by
    intro run hrun
    rw [placeholdersIn, markers, Piece.written, String.toList_ofList,
      Piece.ofChars_flatMap_chars (h.within run hrun)]
    exact Piece.filter_map_fst_markersFrom 0 run
  rw [h.texts, List.flatMap_map, List.filterMap_flatten, List.flatMap_def]
  exact congrArg List.flatten (List.map_congr_left hrun)

/-! ### Forests -/

/-- The piece of a leaf whose label is text. -/
def textPiece? : PlacedPiece × Node → Option Piece
  | (placed, .text _) => some placed.1
  | _ => none

section Forests

variable {declares : String → Bool} {found : List PlacedMarker} {forest : Forest Node}

/-- Pushing a leaf keeps `TextsAre`. If its label is text, its piece joins the runs. -/
theorem Node.TextsAre.pushLeaf {nodes : List Node} {pieces : List Piece}
    {runs : List (List Piece)} (h : Node.TextsAre nodes pieces runs) {placed : PlacedPiece}
    {node : Node} (hleaf : IsLeafOf declares found placed node) (hchars : placed.1.chars ≠ []) :
    ∃ next, Node.TextsAre (Node.push nodes node) (pieces ++ [placed.1]) next ∧
      next.flatten = runs.flatten ++ (textPiece? (placed, node)).toList := by
  cases hleaf with
  | text placed hlive => exact h.pushText hchars
  | reference marker target hlive hname =>
    refine ⟨runs ++ [], h.concat (by simp) rfl (by simp), ?_⟩
    simp [textPiece?]

/-- The texts of `nodesOnto` are runs of the pieces in `textPiece?` of the leaves. -/
theorem exists_textsAre_nodesOnto
    (hleaves : ∀ leaf ∈ forest.leaves, IsLeafOf declares found leaf.1 leaf.2)
    (hchars : ∀ leaf ∈ forest.leaves, leaf.1.1.chars ≠ []) {nodes : List Node}
    {pieces : List Piece} {runs : List (List Piece)} (h : Node.TextsAre nodes pieces runs) :
    ∃ later, Node.TextsAre (forest.nodesOnto nodes) (pieces ++ forest.pieces.map Prod.fst) later ∧
      later.flatten = runs.flatten ++ forest.leaves.filterMap textPiece? := by
  -- by induction on the forest, where `pieces` keeps track of all that is read before it
  induction forest generalizing nodes pieces runs with
  | nil => exact ⟨runs, by simpa [Forest.nodesOnto, Forest.pieces] using h, by simp [Forest.leaves]⟩
  | leaf placed node rest ih =>
    rw [Forest.leaves, List.forall_mem_cons] at hleaves hchars
    obtain ⟨next, hnext, hflatten⟩ := h.pushLeaf hleaves.1 hchars.1
    obtain ⟨later, hlater, hsame⟩ := ih hleaves.2 hchars.2 hnext
    refine ⟨later, by simpa [Forest.nodesOnto, Forest.pieces] using hlater, ?_⟩
    rw [hsame, hflatten, List.append_assoc, Forest.leaves]
    cases hpiece : textPiece? (placed, node) with
    | none => rw [List.filterMap_cons_none hpiece]; rfl
    | some piece => rw [List.filterMap_cons_some hpiece]; rfl
  | block opening content closing rest ihContent ihRest =>
    simp only [Forest.leaves, List.forall_mem_append] at hleaves hchars
    -- no run goes into a block or out of it, so its content starts without nodes and runs
    obtain ⟨inner, hinner, hcontent⟩ := ihContent hleaves.1 hchars.1
      (Node.TextsAre.nil (pieces ++ [.marker opening.1]))
    have hwithin : ∀ run ∈ inner, run <:+:
        pieces ++ .marker opening.1 :: (content.pieces.map Prod.fst ++ [.marker closing.1]) :=
      fun run hrun =>
        (hinner.within run hrun).trans (List.IsPrefix.isInfix ⟨[.marker closing.1], by simp⟩)
    have hblock : Node.TextsAre (nodes ++ [.block opening.1.name (content.nodesOnto [])]) _ _ :=
      h.concat (by simp) (by rw [Node.textsIn, hinner.texts]) hwithin
    obtain ⟨later, hlater, hsame⟩ := ihRest hleaves.2 hchars.2 hblock
    refine ⟨later, ?_, ?_⟩
    · simpa [Forest.nodesOnto, Forest.pieces, Piece.ofMarker, Node.push] using hlater
    · rw [hsame, List.flatten_append, hcontent, Forest.leaves, List.filterMap_append]
      simp

/-- The references of a forest are the markers of its leaves with `standsForVariable`. -/
theorem map_references_nodes
    (hleaves : ∀ leaf ∈ forest.leaves, IsLeafOf declares found leaf.1 leaf.2) :
    (Node.references forest.nodes).map (fun use => (use.1.name, use.2)) =
      ((forest.leaves.filterMap fun leaf => Piece.placedMarker? leaf.1).filter
        (standsForVariable declares found)).map fun marker => (marker.1.name, marker.1.text) := by
  rw [Node.references, Forest.filterMap_uses_nodes fun _ => rfl, List.filterMap_eq_flatMap_toList,
    List.filter_flatMap, List.map_flatMap, List.map_flatMap]
  -- both sides list at most one reference for each leaf
  apply List.flatMap_congr
  rintro ⟨placed, node⟩ hleaf
  have hnode : IsLeafOf declares found placed node := hleaves _ hleaf
  cases hnode with
  | text placed hlive =>
    cases hmarker : Piece.placedMarker? placed with
    | none => simp [Node.usesIn]
    | some marker => simp [Node.usesIn, hlive marker hmarker]
  | reference marker target hlive hname =>
    simp [Node.usesIn, VariableUse.reference?, hlive, hname]

/-- The placeholders of a forest that are text are those without `standsForVariable`. -/
theorem filterMap_textPiece?
    (hleaves : ∀ leaf ∈ forest.leaves, IsLeafOf declares found leaf.1 leaf.2) :
    (forest.leaves.filterMap textPiece?).filterMap Piece.placeholder? =
      ((forest.leaves.filterMap fun leaf => Piece.placedMarker? leaf.1).filter fun marker =>
        marker.1.kind == .placeholder && !standsForVariable declares found marker).map
          Prod.fst := by
  rw [List.filterMap_filterMap, List.filterMap_eq_flatMap_toList,
    List.filterMap_eq_flatMap_toList, List.filter_flatMap, List.map_flatMap]
  -- both sides are read off leaf by leaf
  apply List.flatMap_congr
  rintro ⟨placed, node⟩ hleaf
  have hnode : IsLeafOf declares found placed node := hleaves _ hleaf
  cases hnode with
  | text placed hlive =>
    obtain ⟨_ | marker, span⟩ := placed
    · rfl
    · have hmarker := hlive (marker, span) rfl
      by_cases hkind : marker.kind = .placeholder
      · simp [textPiece?, Piece.placeholder?, hkind, hmarker]
      · simp [textPiece?, Piece.placeholder?, hkind]
  | reference marker target hlive hname => simp [textPiece?, hlive]

end Forests

/-! ### Bodies -/

section Bodies

variable (header : Header) (body : String)

theorem chars_ne_nil_of_mem_leaves :
    ∀ leaf ∈ (forestOf header body).leaves, leaf.1.1.chars ≠ [] := by
  intro leaf hleaf
  have hentry : leaf ∈ BodyState.entries { header } (Piece.ofChars body.toList) :=
    (Outline.leaves_foldl_read _ _).subset hleaf
  have hplaced := List.mem_map_of_mem (f := Prod.fst) hentry
  rw [BodyState.map_fst_entries] at hplaced
  have hpiece := List.mem_map_of_mem (f := Prod.fst) hplaced
  rw [Piece.map_fst_placeFrom] at hpiece
  exact Piece.chars_ne_nil_of_mem_ofChars hpiece

/-- The placeholders of a body are all in leaves of `forestOf`. -/
theorem filter_markers_forestOf {keep : PlacedMarker → Bool}
    (hkeep : ∀ marker, keep marker = true → marker.1.kind = .placeholder) :
    ((forestOf header body).leaves.filterMap fun leaf => Piece.placedMarker? leaf.1).filter keep =
      (markers body).filter keep := by
  rw [markers_eq_filterMap, ← pieces_forestOf header body]
  apply Forest.filter_markers_leaves
  intro pair hpair
  rw [pairs_forestOf] at hpair
  obtain ⟨-, -, hopens, hcloses⟩ := mem_of_mem_blockPairs hpair
  constructor
  · rw [Bool.eq_false_iff]
    intro hkept
    exact absurd ((hkeep _ hkept).symm.trans (Marker.opensBlock_iff.mp hopens).1) (by simp)
  · rw [Bool.eq_false_iff]
    intro hkept
    exact absurd ((hkeep _ hkept).symm.trans (Marker.closesBlock_iff.mp hcloses).1) (by simp)

end Bodies

/-- A placeholder becomes a reference if and only if its name is non-empty, and is declared by
`header` or by an earlier opening marker (`standsForVariable`). In `Recovery.documentOrder`,
`Node.references` lists these placeholders in the order of `markers body`, and `placeholdersIn`
finds the others in `Node.texts`. In `Recovery.innermostFirst`, the references are a permutation of
these, and the other placeholders are a permutation of those in the pieces of the texts. -/
theorem references_ofString (header : Header) (body : String) :
    let inOrder := (ParsedBody.ofString .documentOrder header body).nodes
    let inward := (ParsedBody.ofString .innermostFirst header body).nodes
    let isLive := standsForVariable header.declares (markers body)
    let live := (markers body).filter isLive
    let others := (markers body).filter fun found =>
      found.1.kind == .placeholder && !isLive found
    (∀ found, isLive found = true ↔ found.1.kind = .placeholder ∧ found.1.name ≠ "" ∧
      (header.declares found.1.name = true ∨ ∃ opening ∈ markers body,
        opening.1.kind = .opening ∧ opening.1.name = found.1.name ∧
          opening.2.start < found.2.start)) ∧
    (Node.references inOrder).map (fun use => (use.1.name, use.2)) =
      live.map (fun found => (found.1.name, found.1.text)) ∧
    (Node.texts inOrder).flatMap placeholdersIn = others.map Prod.fst ∧
    (Node.references inward).Perm (Node.references inOrder) ∧
    ∃ runs : List (List Piece), Node.texts inward = runs.map Piece.written ∧
      (runs.flatten.filterMap Piece.placeholder?).Perm (others.map Prod.fst) := by
  intro inOrder inward isLive live others
  have hleaves := isLeafOf_of_mem_leaves header body
  have hchars := chars_ne_nil_of_mem_leaves header body
  have hothers : ((forestOf header body).leaves.filterMap textPiece?).filterMap
      Piece.placeholder? = others.map Prod.fst := by
    rw [filterMap_textPiece? hleaves, filter_markers_forestOf]
    intro marker hmarker
    rw [Bool.and_eq_true, beq_iff_eq] at hmarker
    exact hmarker.1
  have hperm := (outlineOf header body).leaves_writtenBack_perm .innermostFirst
  have hinOrder : inOrder = (forestOf header body).nodes := nodes_ofString header body
  have hinward : inward = ((outlineOf header body).writtenBack .innermostFirst).nodes :=
    nodes_ofString_eq_writtenBack header body .innermostFirst
  refine ⟨fun found => standsForVariable_iff, ?_, ?_, ?_, ?_⟩
  · rw [hinOrder, map_references_nodes hleaves, filter_markers_forestOf]
    exact fun marker hmarker => (standsForVariable_iff.mp hmarker).1
  · obtain ⟨runs, hruns, hflatten⟩ :=
      exists_textsAre_nodesOnto hleaves hchars (Node.TextsAre.nil [])
    rw [List.nil_append, pieces_forestOf, placedPieces, Piece.map_fst_placeFrom] at hruns
    rw [hinOrder, Forest.nodes, hruns.flatMap_placeholdersIn, hflatten, List.flatten_nil,
      List.nil_append, hothers]
  · rw [hinward, hinOrder, Node.references, Forest.filterMap_uses_nodes fun _ => rfl,
      Node.references, Forest.filterMap_uses_nodes fun _ => rfl]
    exact hperm.flatMap_right _
  -- here the pieces come in another order, so what is found in the texts is not settled by the runs
  · obtain ⟨runs, hruns, hflatten⟩ := exists_textsAre_nodesOnto
      (fun leaf hleaf => hleaves leaf (hperm.mem_iff.mp hleaf))
      (fun leaf hleaf => hchars leaf (hperm.mem_iff.mp hleaf)) (Node.TextsAre.nil [])
    refine ⟨runs, by rw [hinward, Forest.nodes, hruns.texts], ?_⟩
    rw [hflatten, List.flatten_nil, List.nil_append, ← hothers]
    exact (hperm.filterMap _).filterMap _

/-- A placeholder is text before the block that declares its name, and a reference in that block. -/
example : (ParsedBody.ofString .documentOrder .empty "#{x}#{?x}#{x}").nodes =
    [.text "#{x}#{?x}",
      .reference ⟨"x", "Include the `x` section", true, ⟨9, 13⟩⟩ "#{x}"] := by
  cbv

end MarkdownTemplate
