import Mathlib.Data.List.Chain
import MarkdownTemplate.Proofs.Node.Join

/-!
# Nodes in normal form

Nodes are in normal form if nowhere in them there is an empty text, or a text next to a text. This
is asked of the list of nodes and of the content of every block in it, at any depth.

* `Node.lists`: the lists of nodes in nodes;
* `Node.IsNormal` and `Node.IsInNormalForm`: the normal form of one list and of all of them;
* `Node.isNormal_tidy`: tidy nodes are normal.
-/

namespace MarkdownTemplate

mutual

/-- The node lists in a node, its own content included. -/
def Node.listsIn : Node → List (List Node)
  | .text _ => []
  | .reference _ _ => []
  | .block _ content => content :: Node.innerLists content
termination_by structural node => node

/-- The node lists inside blocks, at any depth. -/
def Node.innerLists : List Node → List (List Node)
  | [] => []
  | node :: nodes => node.listsIn ++ Node.innerLists nodes
termination_by structural nodes => nodes

end

namespace Node

/-- `nodes` and the node lists inside its blocks, at any depth. -/
def lists (nodes : List Node) : List (List Node) :=
  nodes :: innerLists nodes

/-- The node is a text. -/
def IsText (node : Node) : Prop :=
  ∃ written, node = text written

/-- No text in `nodes` is empty, and no two are adjacent. -/
structure IsNormal (nodes : List Node) : Prop where
  /-- Texts have characters. -/
  nonempty : text "" ∉ nodes
  /-- A text follows what is no text. -/
  apart : nodes.IsChain fun first second => ¬ (first.IsText ∧ second.IsText)

/-- `IsNormal` holds of the lists in `nodes` at every depth. -/
def IsInNormalForm (nodes : List Node) : Prop :=
  ∀ list ∈ lists nodes, IsNormal list

theorem innerLists_eq_flatMap (nodes : List Node) : innerLists nodes = nodes.flatMap listsIn :=
  eq_flatMap_of_cons innerLists rfl (fun _ _ => rfl) nodes

theorem cutsText_listsIn : CutsText listsIn := fun _ _ => rfl

theorem isNormal_nil : IsNormal [] :=
  ⟨List.not_mem_nil, List.IsChain.nil⟩

/-- `joinFront` preserves `IsNormal`, unless the node is empty text. -/
theorem IsNormal.joinFront {nodes : List Node} (h : IsNormal nodes) {node : Node}
    (hnode : node.isEmptyText = false) : IsNormal (joinFront node nodes) := by
  obtain ⟨hnonempty, hapart⟩ := h
  unfold Node.joinFront
  split
  · rename_i first second nodes
    have hjoined : text (first ++ second) ≠ text "" := by
      have hfirst : first ≠ "" := by simpa [isEmptyText] using hnode
      simp [hfirst]
    -- what comes after the second text is no text, and now comes after the joined one
    rw [List.mem_cons, not_or] at hnonempty
    rw [List.isChain_cons] at hapart
    refine ⟨by simpa [hjoined.symm] using hnonempty.2, List.isChain_cons.mpr ⟨?_, hapart.2⟩⟩
    rintro next hnext ⟨-, hnextText⟩
    exact hapart.1 next hnext ⟨⟨second, rfl⟩, hnextText⟩
  · rename_i hjoins
    have hhead : text "" ≠ node := by
      rintro rfl
      exact absurd hnode (by simp [isEmptyText])
    refine ⟨by simpa [hhead] using hnonempty, List.isChain_cons.mpr ⟨?_, hapart⟩⟩
    rintro next hnext ⟨⟨first, hfirst⟩, second, hsecond⟩
    obtain ⟨rest, hrest⟩ := List.head?_eq_some_iff.mp hnext
    exact hjoins first second rest hfirst (by rw [hrest, hsecond])

/-- `tidy` gives nodes with `IsNormal`. -/
theorem isNormal_tidy (nodes : List Node) : IsNormal (tidy nodes) := by
  have hfilter : ∀ node ∈ nodes.filter fun node => !node.isEmptyText,
      node.isEmptyText = false := by
    intro node hnode
    simpa using (List.mem_filter.mp hnode).2
  rw [tidy]
  generalize nodes.filter (fun node => !node.isEmptyText) = kept at hfilter
  induction kept with
  | nil => exact isNormal_nil
  | cons node kept ih =>
    rw [List.forall_mem_cons] at hfilter
    exact (ih hfilter.2).joinFront hfilter.1

/-- `pushText []` gives nodes in normal form. -/
theorem isInNormalForm_pushText (written : String) : IsInNormalForm (pushText [] written) := by
  by_cases hwritten : written = ""
  · rw [hwritten, pushText_empty, IsInNormalForm, lists, innerLists, List.forall_mem_singleton]
    exact isNormal_nil
  · have hnodes : pushText [] written = joinFront (text written) [] := by
      simp [pushText, hwritten, joinFront]
    rw [hnodes, IsInNormalForm, lists, List.forall_mem_cons]
    exact ⟨isNormal_nil.joinFront (by simpa [isEmptyText] using hwritten),
      by simp [joinFront, innerLists, listsIn]⟩

end Node

end MarkdownTemplate
