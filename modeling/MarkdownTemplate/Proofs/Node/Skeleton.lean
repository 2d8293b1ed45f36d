import MarkdownTemplate.Proofs.Node.Join
import MarkdownTemplate.Proofs.Node.Uses

/-!
# What is in nodes besides references

The skeleton of nodes shows their blocks and their text, but not which markers are references: each
reference is replaced by its marker as text, and adjacent texts are joined at every depth. The
references are listed apart, by their markers.

* `skeleton_push`: the skeleton of nodes grows as the nodes do.
-/

namespace MarkdownTemplate

/-- The marker of a reference. -/
def VariableUse.marker? : VariableUse → Option String
  | .reference _ marker => some marker
  | .control _ => none

namespace Node

mutual

/-- The node with references replaced by their markers as text. -/
def plainIn : Node → Node
  | text written => text written
  | reference _ marker => text marker
  | block control content => block control (plain content)
termination_by structural node => node

/-- The nodes with references replaced by their markers as text, at every depth. -/
def plain : List Node → List Node
  | [] => []
  | node :: nodes => node.plainIn :: plain nodes
termination_by structural nodes => nodes

end

/-- `plain`, and then adjacent texts joined by `joinAll`. -/
def skeleton (nodes : List Node) : List Node :=
  joinAll (plain nodes)

/-- The skeleton of one node. -/
def skeletonIn (node : Node) : Node :=
  node.plainIn.joinIn

/-- The markers of references at any depth, in document order. -/
def referenceMarkers (nodes : List Node) : List String :=
  (uses nodes).filterMap VariableUse.marker?

/-- If `node` is a reference, its marker is not empty. -/
def IsMarked (node : Node) : Prop :=
  ∀ target, node ≠ reference target ""

@[simp]
theorem skeletonIn_text (written : String) : (text written).skeletonIn = text written := rfl

@[simp]
theorem skeletonIn_block (control : String) (content : List Node) :
    (block control content).skeletonIn = block control (skeleton content) := rfl

@[simp]
theorem plain_append (first second : List Node) :
    plain (first ++ second) = plain first ++ plain second :=
  append_of_cons plain (fun node => [node.plainIn]) rfl (fun _ _ => rfl) first second

/-- `skeleton` turns a node at the end into a `push`, unless it is empty text. -/
theorem skeleton_concat (nodes : List Node) {node : Node} (hmarked : node.IsMarked)
    (hnode : node.isEmptyText = false) :
    skeleton (nodes ++ [node]) = push (skeleton nodes) node.skeletonIn := by
  have hplain : node.plainIn.isEmptyText = false := by
    cases node with
    | text written => exact hnode
    | reference target marker =>
      have hmarker : marker ≠ "" := fun hempty => hmarked target (by rw [hempty])
      simpa [plainIn, isEmptyText] using hmarker
    | block control content => rfl
  rw [skeleton, plain_append, plain, plain, joinAll_concat _ hplain, skeleton, skeletonIn]

/-- `skeleton` commutes with `push`. -/
theorem skeleton_push (nodes : List Node) {node : Node} (hmarked : node.IsMarked) :
    skeleton (push nodes node) = push (skeleton nodes) node.skeletonIn := by
  cases hempty : node.isEmptyText with
  | true =>
    obtain rfl := isEmptyText_eq_true_iff.mp hempty
    rw [skeletonIn_text, push_text, push_text, pushText_empty, pushText_empty]
  | false =>
    rcases push_cases nodes node with ⟨rfl, -⟩ | ⟨init, last, added, rfl, rfl, hpush⟩ | hpush
    · exact absurd hempty (by simp [isEmptyText])
    -- the text that is joined shows whole, as the text before and what is appended to it
    · rw [hpush, skeletonIn_text, push_text, skeleton, skeleton, plain_append, plain_append]
      exact joinAll_concat_text (plain init) last added
    · rw [hpush, skeleton_concat nodes hmarked hempty]

end Node

end MarkdownTemplate
