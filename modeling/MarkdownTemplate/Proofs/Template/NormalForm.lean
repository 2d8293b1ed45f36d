import MarkdownTemplate.Proofs.Body.BlockMatching
import MarkdownTemplate.Proofs.Body.OpenBlocks
import MarkdownTemplate.Proofs.Body.Recovery
import MarkdownTemplate.Proofs.Node.NormalForm
import MarkdownTemplate.Proofs.Template.HeaderRecognition

/-!
# The normal form of a template

The nodes of a body are in normal form, whatever is written back as text in either order of
recovery, and so are those of a document that is all text. Nothing is lost by this: nodes in normal
form render to the same text as those that they are made of.

* `Forest.isInNormalForm_nodes`: the nodes of a forest are in normal form;
* `isInNormalForm_ofString`: so are those of a parsed body;
* `isInNormalForm_compile`: so are those of a compiled document.
-/

namespace MarkdownTemplate

/-- The nodes of a forest are in normal form if no leaf is a block. -/
theorem Forest.isInNormalForm_nodes {forest : Forest Node}
    (hleaves : ∀ leaf ∈ forest.leaves, leaf.2.IsFlat) : Node.IsInNormalForm forest.nodes := by
  -- the nodes themselves are tidy, so only what is in blocks is left
  have hinner : ∀ list ∈ Node.innerLists forest.nodes, Node.IsNormal list := by
    induction forest with
    | nil => simp [nodes, nodesOnto, Node.innerLists]
    | leaf placed node rest ih =>
      rw [leaves, List.forall_mem_cons] at hleaves
      have hnode : node.listsIn = [] := by
        cases node with
        | text written => rfl
        | reference target marker => rfl
        | block control content => exact absurd rfl (hleaves.1 control content)
      rw [Node.innerLists_eq_flatMap, flatMap_nodes_leaf Node.cutsText_listsIn,
        ← Node.innerLists_eq_flatMap, hnode, List.nil_append]
      exact ih hleaves.2
    | block opening content closing rest ihContent ihRest =>
      simp only [leaves, List.forall_mem_append] at hleaves
      rw [Node.innerLists_eq_flatMap, flatMap_nodes_block Node.cutsText_listsIn,
        ← Node.innerLists_eq_flatMap, Node.listsIn, List.forall_mem_append, List.forall_mem_cons]
      refine ⟨⟨?_, ihContent hleaves.1⟩, ihRest hleaves.2⟩
      rw [← content.tidy_nodes]
      exact Node.isNormal_tidy _
  rw [Node.IsInNormalForm, Node.lists, List.forall_mem_cons]
  refine ⟨?_, hinner⟩
  rw [← forest.tidy_nodes]
  exact Node.isNormal_tidy _

/-- The nodes of `ParsedBody.ofString` are in normal form, in either order of recovery. -/
theorem isInNormalForm_ofString (recovery : Recovery) (header : Header) (body : String) :
    Node.IsInNormalForm (ParsedBody.ofString recovery header body).nodes := by
  have hflat := forall_mem_leaves_forestOf header body (fun _ node => node.IsFlat)
    BodyState.isFlat_leafNode
  have hperm := (outlineOf header body).leaves_writtenBack_perm recovery
  rw [nodes_ofString_eq_writtenBack]
  exact Forest.isInNormalForm_nodes fun leaf hleaf => hflat leaf (hperm.mem_iff.mp hleaf)

/-- The nodes of `Template.compile` are in normal form. -/
theorem isInNormalForm_compile (options : Options) (id : Option String) (raw : String) :
    Node.IsInNormalForm (Template.compile options id raw).nodes := by
  rcases Template.compile_cases options id raw with
    ⟨-, hcompile⟩ | ⟨parts, error, -, -, hcompile⟩ | ⟨parts, header, -, -, hcompile⟩
  · rw [hcompile]
    exact Node.isInNormalForm_pushText raw
  · rw [hcompile]
    exact Node.isInNormalForm_pushText raw
  · rw [hcompile]
    exact isInNormalForm_ofString options.recovery header parts.body

/-- Every node list of a compiled document or a parsed body satisfies `Node.IsNormal`, at any depth
and in either order of recovery: no text is empty, and no two texts are adjacent. `Node.push`,
`Node.pushText` and `Node.pushAll` render as `++` does, whatever the `values`. -/
theorem normalForm_nodes :
    (∀ (options : Options) (id : Option String) (raw : String),
      ∀ list ∈ Node.lists (Template.compile options id raw).nodes, Node.IsNormal list) ∧
    (∀ (recovery : Recovery) (header : Header) (body : String),
      ∀ list ∈ Node.lists (ParsedBody.ofString recovery header body).nodes, Node.IsNormal list) ∧
    ∀ {α : Type} [ValueSource α] (values : α) (nodes : List Node),
      (∀ node, render (Node.push nodes node) values = render (nodes ++ [node]) values) ∧
      (∀ written, render (Node.pushText nodes written) values =
        render (nodes ++ [.text written]) values) ∧
      ∀ added, render (Node.pushAll nodes added) values = render (nodes ++ added) values := by
  have happend : ∀ {α : Type} [ValueSource α] (values : α) (nodes added : List Node),
      render (Node.pushAll nodes added) values = render (nodes ++ added) values := by
    intro α _ values nodes added
    rw [render, renderAll_pushAll, render, renderAll_append]
  refine ⟨isInNormalForm_compile, isInNormalForm_ofString, ?_⟩
  intro α _ values nodes
  exact ⟨fun node => happend values nodes [node],
    fun written => happend values nodes [.text written], happend values nodes⟩

end MarkdownTemplate
