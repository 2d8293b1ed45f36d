import MarkdownTemplate.Proofs.Body.Labels
import MarkdownTemplate.Proofs.Body.Reading

/-!
# Open blocks of an outline

At the end of a body, the blocks of its outline that are still open are written back: their opening
markers become leaves. `Outline.writtenBack` does this in either order of recovery.

* `Outline.leaves_writtenBack_perm`: both orders write back the same leaves;
* `nodes_ofString_eq_writtenBack`: the nodes of a body are those of its outline, written back.
-/

namespace MarkdownTemplate

section Outlines

variable {α β : Type}

/-- The forest of a block that is written back, with its opening marker as a leaf. -/
def Opened.forest (opened : Opened α) : Forest α :=
  .leaf (Piece.ofMarker opened.opening) opened.label opened.content

/-- `before` with the forests of `opened` appended in this order. -/
def Forest.appendOpened (before : Forest α) (opened : List (Opened α)) : Forest α :=
  opened.foldl (fun before next => before ++ next.forest) before

namespace Forest

theorem leaves_appendOpened (before : Forest α) (opened : List (Opened α)) :
    (before.appendOpened opened).leaves =
      before.leaves ++ opened.flatMap fun next => next.forest.leaves := by
  induction opened generalizing before with
  | nil => rw [List.flatMap_nil, List.append_nil]; rfl
  | cons next opened ih =>
    rw [List.flatMap_cons, ← List.append_assoc, ← leaves_append]
    exact ih _

theorem map_appendOpened (change : α → β) (before : Forest α) (opened : List (Opened α)) :
    (before.appendOpened opened).map change =
      (before.map change).appendOpened (opened.map (Opened.map change)) := by
  induction opened generalizing before with
  | nil => rfl
  | cons next opened ih =>
    rw [appendOpened, List.foldl_cons, ← appendOpened, ih, map_append]
    rfl

/-- Folding `pushFrame` over frames gives the nodes of `appendOpened`. -/
theorem foldl_pushFrame_nodes {frames : List Frame} {opened : List (Opened Node)}
    (h : List.Forall₂ Frame.IsOutlinedBy frames opened) (before : Forest Node) :
    frames.foldl BodyState.pushFrame before.nodes = (before.appendOpened opened).nodes := by
  induction h generalizing before with
  | nil => rfl
  | cons hframe _ ih => rw [List.foldl_cons, BodyState.pushFrame_nodes hframe, ih]; rfl

end Forest

namespace Outline

theorem forest_eq_appendOpened (outline : Outline α) :
    outline.forest = outline.root.appendOpened outline.opened.reverse := by
  rw [Forest.appendOpened, List.foldl_reverse]
  rfl

/-- The forest of `outline` with its open blocks written back in the order of `Recovery`. -/
def writtenBack (outline : Outline α) : Recovery → Forest α
  | .documentOrder => outline.forest
  | .innermostFirst => Forest.appendOpened .nil outline.opened ++ outline.root

/-- Both orders of recovery have the same leaves, up to a permutation. -/
theorem leaves_writtenBack_perm (outline : Outline α) (recovery : Recovery) :
    (outline.writtenBack recovery).leaves.Perm outline.forest.leaves := by
  cases recovery with
  | documentOrder => exact List.Perm.refl _
  -- the open blocks come in reverse, and before what is outside them
  | innermostFirst =>
    rw [writtenBack, Forest.leaves_append, forest_eq_appendOpened, Forest.leaves_appendOpened,
      Forest.leaves_appendOpened, Forest.leaves, List.nil_append]
    exact List.perm_append_comm.trans
      (((List.reverse_perm outline.opened).symm.flatMap_right _).append_left _)

/-- `map` commutes with `writtenBack`. -/
theorem map_writtenBack (change : α → β) (outline : Outline α) (recovery : Recovery) :
    (outline.writtenBack recovery).map change = (outline.map change).writtenBack recovery := by
  cases recovery with
  | documentOrder =>
    rw [writtenBack, writtenBack, forest_eq_appendOpened, Forest.map_appendOpened,
      forest_eq_appendOpened, List.map_reverse]
    rfl
  | innermostFirst =>
    rw [writtenBack, Forest.map_append, Forest.map_appendOpened]
    rfl

end Outline

end Outlines

/-- `flatten` gives the nodes of `writtenBack`. -/
theorem BodyState.IsOutlinedBy.flatten_eq {state : BodyState} {outline : Outline Node}
    (h : state.IsOutlinedBy outline) (recovery : Recovery) :
    state.flatten recovery = (outline.writtenBack recovery).nodes := by
  cases recovery with
  | documentOrder => exact h.flatten_documentOrder
  | innermostFirst =>
    have hsections := Forest.foldl_pushFrame_nodes h.frames .nil
    rw [Forest.nodes, Forest.nodesOnto] at hsections
    rw [flatten, hsections, h.root, Forest.pushAll_nodes, Outline.writtenBack, Forest.nodes,
      Forest.nodes, Forest.nodesOnto_append]

/-- The nodes of a body are those of `outlineOf`, written back in the same order. -/
theorem nodes_ofString_eq_writtenBack (header : Header) (body : String) (recovery : Recovery) :
    (ParsedBody.ofString recovery header body).nodes =
      ((outlineOf header body).writtenBack recovery).nodes := by
  rw [ParsedBody.ofString_eq_ofPieces]
  exact (isOutlinedBy_outlineOf header body).flatten_eq recovery

end MarkdownTemplate
