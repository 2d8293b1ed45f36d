import MarkdownTemplate.Proofs.Node.Push

/-!
# Joining adjacent texts

`Node.push` keeps nodes in order while they are appended one by one. This file says of whole lists
what that comes to: `Node.joinTexts` joins each run of adjacent texts to one, `Node.tidy` leaves out
empty texts first, and `Node.joinAll` joins texts at every depth.

* `pushAll_nil_eq_tidy`: to append nodes one by one to none is to tidy them;
* `joinAll_concat` and `joinAll_concat_text`: what joining does with one more node at the end.
-/

namespace MarkdownTemplate

namespace Node

/-- Whether the node is the empty text. -/
def isEmptyText : Node → Bool
  | text written => written == ""
  | _ => false

/-- Puts a node in front. Two texts that become adjacent are joined. -/
def joinFront : Node → List Node → List Node
  | text first, text second :: nodes => text (first ++ second) :: nodes
  | node, nodes => node :: nodes

/-- `nodes` with adjacent texts joined. -/
def joinTexts (nodes : List Node) : List Node :=
  nodes.foldr joinFront []

/-- `nodes` without empty texts, and with adjacent texts joined. -/
def tidy (nodes : List Node) : List Node :=
  joinTexts (nodes.filter fun node => !node.isEmptyText)

mutual

/-- The node with `joinAll` applied to its content. -/
def joinIn : Node → Node
  | text written => text written
  | reference target marker => reference target marker
  | block control content => block control (joinAll content)
termination_by structural node => node

/-- The nodes with adjacent texts joined at every depth. -/
def joinAll : List Node → List Node
  | [] => []
  | node :: nodes => joinFront node.joinIn (joinAll nodes)
termination_by structural nodes => nodes

end

theorem isEmptyText_eq_true_iff {node : Node} : node.isEmptyText = true ↔ node = text "" := by
  cases node <;> simp [isEmptyText]

theorem joinAll_eq_joinTexts (nodes : List Node) :
    joinAll nodes = joinTexts (nodes.map joinIn) := by
  induction nodes with
  | nil => rfl
  | cons node nodes ih =>
    rw [joinAll, ih]
    rfl

/-! ### Joining at both ends -/

/-- `push` commutes with `joinFront`. -/
theorem push_joinFront (node : Node) (nodes : List Node) (added : Node) :
    push (joinFront node nodes) added = joinFront node (push nodes added) := by
  cases added with
  -- what is no text joins nothing at the end, so the front joins as before
  | reference target marker => cases node <;> rcases nodes with _ | ⟨_ | _ | _, nodes⟩ <;> rfl
  | block control content => cases node <;> rcases nodes with _ | ⟨_ | _ | _, nodes⟩ <;> rfl
  | text added =>
    by_cases hadded : added = ""
    · subst hadded
      simp only [push_text, pushText_empty]
    -- where the nodes are a single text, it joins at both ends
    · cases node <;> rcases nodes with _ | ⟨_ | _ | _, _ | ⟨_, nodes⟩⟩ <;>
        simp [joinFront, pushText, hadded, String.append_assoc]

theorem foldr_joinFront_push (before nodes : List Node) (added : Node) :
    before.foldr joinFront (push nodes added) = push (before.foldr joinFront nodes) added := by
  induction before with
  | nil => rfl
  | cons node before ih => rw [List.foldr_cons, ih, List.foldr_cons, push_joinFront]

theorem joinTexts_append (first second : List Node) :
    joinTexts (first ++ second) = first.foldr joinFront (joinTexts second) :=
  List.foldr_append

/-- `joinTexts` turns a node at the end into a `push`, unless it is empty text. -/
theorem joinTexts_concat (nodes : List Node) {node : Node} (hnode : node.isEmptyText = false) :
    joinTexts (nodes ++ [node]) = push (joinTexts nodes) node := by
  have hlast : joinTexts [node] = push [] node := by
    cases node with
    | text written =>
      have hwritten : written ≠ "" := by simpa [isEmptyText] using hnode
      simp [joinTexts, joinFront, pushText, hwritten]
    | reference target marker => rfl
    | block control content => rfl
  rw [joinTexts_append, hlast, foldr_joinFront_push, joinTexts]

/-- For `joinTexts`, a text at the end may be cut in two. -/
theorem joinTexts_concat_text (nodes : List Node) (last added : String) :
    joinTexts (nodes ++ [text (last ++ added)]) =
      pushText (joinTexts (nodes ++ [text last])) added := by
  have hlast : joinTexts [text (last ++ added)] = push (joinTexts [text last]) (text added) :=
    (pushText_concat_text [] last added).symm
  rw [joinTexts_append, hlast, foldr_joinFront_push, joinTexts_append, push_text]

/-- `pushAll` onto joined nodes is `joinTexts` with the empty texts left out of `added`. -/
theorem pushAll_joinTexts (nodes added : List Node) :
    pushAll (joinTexts nodes) added =
      joinTexts (nodes ++ added.filter fun node => !node.isEmptyText) := by
  -- by induction on what is appended, of which the first node moves behind those that are joined
  induction added generalizing nodes with
  | nil => simp
  | cons node added ih =>
    rw [pushAll_cons]
    cases hempty : node.isEmptyText with
    | true =>
      obtain rfl := isEmptyText_eq_true_iff.mp hempty
      rw [push_text, pushText_empty, ih, List.filter_cons_of_neg (by simp [hempty])]
    | false =>
      rw [← joinTexts_concat nodes hempty, ih, List.filter_cons_of_pos (by simp [hempty]),
        List.append_assoc, List.singleton_append]

/-- `pushAll []` is `tidy`. -/
theorem pushAll_nil_eq_tidy (nodes : List Node) : pushAll [] nodes = tidy nodes :=
  pushAll_joinTexts [] nodes

/-! ### Joining at every depth -/

theorem joinIn_isEmptyText (node : Node) : node.joinIn.isEmptyText = node.isEmptyText := by
  cases node <;> rfl

/-- `joinAll` turns a node at the end into a `push`, unless it is empty text. -/
theorem joinAll_concat (nodes : List Node) {node : Node} (hnode : node.isEmptyText = false) :
    joinAll (nodes ++ [node]) = push (joinAll nodes) node.joinIn := by
  rw [joinAll_eq_joinTexts, List.map_append, List.map_singleton,
    joinTexts_concat _ (by rw [joinIn_isEmptyText, hnode]), joinAll_eq_joinTexts]

/-- For `joinAll`, a text at the end may be cut in two. -/
theorem joinAll_concat_text (nodes : List Node) (last added : String) :
    joinAll (nodes ++ [text (last ++ added)]) =
      pushText (joinAll (nodes ++ [text last])) added := by
  simp only [joinAll_eq_joinTexts, List.map_append, List.map_singleton, joinIn]
  exact joinTexts_concat_text (nodes.map joinIn) last added

end Node

end MarkdownTemplate
