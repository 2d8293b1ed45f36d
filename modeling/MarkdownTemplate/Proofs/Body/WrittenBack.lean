import MarkdownTemplate.Proofs.Body.Reading
import MarkdownTemplate.Proofs.Marker.Spelling

/-!
# Writing nodes back

The nodes of a body do not say how the markers of a block are spelled: with or without a question
mark, and the closing one with or without the name. Up to this choice the body can be written back
from its nodes, so parsing loses, repeats and moves nothing.

* `WrittenAs`: a text from which nodes may come;
* `WrittenAs.push`: joining texts changes nothing about it;
* `writtenAs_nodesOnto`: a forest is written as its pieces;
* `writtenAs_ofString`: the nodes of a body are written as the body.
-/

namespace MarkdownTemplate

/-- The nodes are written as the text. A text stands for itself, a reference for its marker, and a
block is written between any of `openingTexts` and `closingTexts` of its name. -/
inductive WrittenAs : List Node → String → Prop
  | nil : WrittenAs [] ""
  | text (written : String) {nodes : List Node} {after : String} (hnodes : WrittenAs nodes after) :
      WrittenAs (.text written :: nodes) (written ++ after)
  | reference (target : Variable) (marker : String) {nodes : List Node} {after : String}
      (hnodes : WrittenAs nodes after) :
      WrittenAs (.reference target marker :: nodes) (marker ++ after)
  | block {control opening closing : String} {content nodes : List Node} {inner after : String}
      (hopening : opening ∈ openingTexts control) (hclosing : closing ∈ closingTexts control)
      (hcontent : WrittenAs content inner) (hnodes : WrittenAs nodes after) :
      WrittenAs (.block control content :: nodes) (opening ++ inner ++ closing ++ after)

namespace WrittenAs

variable {first second : List Node} {before after : String}

/-- `WrittenAs` is preserved by `++`. -/
theorem append (hfirst : WrittenAs first before) (hsecond : WrittenAs second after) :
    WrittenAs (first ++ second) (before ++ after) := by
  induction hfirst with
  | nil => rwa [String.empty_append]
  | text written _ ih =>
    rw [String.append_assoc]
    exact .text written ih
  | reference target marker _ ih =>
    rw [String.append_assoc]
    exact .reference target marker ih
  | block hopening hclosing hcontent _ _ ih =>
    rw [String.append_assoc]
    exact .block hopening hclosing hcontent ih

/-- A text of `first ++ second` splits into texts of the two. -/
theorem append_inv {whole : String} (h : WrittenAs (first ++ second) whole) :
    ∃ before after, WrittenAs first before ∧ WrittenAs second after ∧ whole = before ++ after := by
  induction first generalizing whole with
  | nil => exact ⟨"", whole, .nil, h, by rw [String.empty_append]⟩
  | cons node first ih =>
    cases h with
    | text written hnodes =>
      obtain ⟨before, after, hfirst, hsecond, rfl⟩ := ih hnodes
      exact ⟨_, after, .text written hfirst, hsecond, by rw [String.append_assoc]⟩
    | reference target marker hnodes =>
      obtain ⟨before, after, hfirst, hsecond, rfl⟩ := ih hnodes
      exact ⟨_, after, .reference target marker hfirst, hsecond, by rw [String.append_assoc]⟩
    | block hopening hclosing hcontent hnodes =>
      obtain ⟨before, after, hfirst, hsecond, rfl⟩ := ih hnodes
      exact ⟨_, after, .block hopening hclosing hcontent hfirst, hsecond,
        by simp only [String.append_assoc]⟩

theorem text_iff {written whole : String} : WrittenAs [.text written] whole ↔ whole = written := by
  constructor
  · rintro (_ | ⟨_, ⟨⟩⟩)
    rw [String.append_empty]
  · rintro rfl
    simpa using WrittenAs.text whole .nil

/-- `Node.push` is written as the node after the others, whether or not texts join. -/
theorem push {nodes : List Node} {node : Node} (hnodes : WrittenAs nodes before)
    (hnode : WrittenAs [node] after) : WrittenAs (Node.push nodes node) (before ++ after) := by
  rcases Node.push_cases nodes node with
    ⟨rfl, hpush⟩ | ⟨init, last, added, rfl, rfl, hpush⟩ | hpush
  · rw [text_iff] at hnode
    rwa [hpush, hnode, String.append_empty]
  -- the nodes end in a text, so what they are written as ends in it
  · obtain ⟨written, ending, hinit, hlast, rfl⟩ := append_inv hnodes
    rw [text_iff] at hlast hnode
    rw [hpush, hlast, hnode, String.append_assoc]
    exact hinit.append (text_iff.mpr rfl)
  · rw [hpush]
    exact hnodes.append hnode

end WrittenAs

/-! ### Bodies -/

/-- `leafNode` is written as its piece. -/
theorem writtenAs_leafNode (state : BodyState) (piece : Piece) :
    WrittenAs [state.leafNode piece] (String.ofList piece.chars) := by
  cases piece with
  | text chars => exact WrittenAs.text_iff.mpr rfl
  | marker marker =>
    rw [BodyState.leafNode]
    split
    · split
      · exact WrittenAs.text_iff.mpr rfl
      · rw [← @String.append_empty (String.ofList _)]
        exact .reference _ _ .nil
    · exact WrittenAs.text_iff.mpr rfl

/-- The nodes of a forest are written as its pieces, if each leaf is written as its piece and each
pair is of an opening marker and one that closes it. -/
theorem writtenAs_nodesOnto {forest : Forest Node}
    (hleaves : ∀ leaf ∈ forest.leaves, WrittenAs [leaf.2] (String.ofList leaf.1.1.chars))
    (hpairs : ∀ pair ∈ forest.pairs, pair.opening.1.opensBlock = true ∧
      pair.closing.1.closesBlock pair.name = true)
    {nodes : List Node} {before : String} (hnodes : WrittenAs nodes before) :
    WrittenAs (forest.nodesOnto nodes)
      (before ++ String.ofList (forest.pieces.flatMap fun placed => placed.1.chars)) := by
  induction forest generalizing nodes before with
  | nil =>
    rw [Forest.pieces, List.flatMap_nil, String.ofList_nil, String.append_empty]
    exact hnodes
  | leaf placed node rest ih =>
    rw [Forest.leaves, List.forall_mem_cons] at hleaves
    rw [Forest.nodesOnto, Forest.pieces, List.flatMap_cons, String.ofList_append,
      ← String.append_assoc]
    exact ih hleaves.2 hpairs (hnodes.push hleaves.1)
  | block opening content closing rest ihContent ihRest =>
    simp only [Forest.leaves, List.forall_mem_append] at hleaves
    simp only [Forest.pairs, List.forall_mem_cons, List.forall_mem_append] at hpairs
    obtain ⟨⟨hopens, hcloses⟩, hinner, hafter⟩ := hpairs
    -- the markers of the pair are the spellings that the block is written with
    have hblock := WrittenAs.block (Marker.text_mem_openingTexts hopens)
      (Marker.text_mem_closingTexts hcloses) (ihContent hleaves.1 hinner .nil) .nil
    have hrest := ihRest hleaves.2 hafter (hnodes.push hblock)
    simpa [Forest.nodesOnto, Forest.pieces, Piece.ofMarker, Piece.chars, Marker.text,
      String.append_assoc] using hrest

/-- The nodes of `ParsedBody.ofString .documentOrder` are written as `body` itself: no character is
lost, added or moved. -/
theorem writtenAs_ofString (header : Header) (body : String) :
    WrittenAs (ParsedBody.ofString .documentOrder header body).nodes body := by
  have hpairs : ∀ pair ∈ (forestOf header body).pairs, pair.opening.1.opensBlock = true ∧
      pair.closing.1.closesBlock pair.name = true := by
    intro pair hpair
    rw [pairs_forestOf] at hpair
    exact (mem_of_mem_blockPairs hpair).2.2
  have hleaves := forall_mem_leaves_forestOf header body
    (fun piece node => WrittenAs [node] (String.ofList piece.chars)) writtenAs_leafNode
  have hforest := writtenAs_nodesOnto hleaves hpairs .nil
  rwa [pieces_forestOf, flatMap_chars_placedPieces, String.ofList_toList, String.empty_append,
    ← Forest.nodes, ← nodes_ofString] at hforest

end MarkdownTemplate
