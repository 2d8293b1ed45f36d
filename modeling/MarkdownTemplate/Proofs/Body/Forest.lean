import MarkdownTemplate.Proofs.Marker.Pairing
import MarkdownTemplate.Proofs.Node.Uses

/-!
# Forests of pieces

A forest holds the pieces of a body with its blocks resolved: a piece that neither opens nor closes
a block is a leaf, which carries a label, and a block holds a forest between its two markers. A
forest stands between the text and the nodes: `pieces` gives the text back, `nodes` the nodes when
the labels are nodes, and `pairs` the pairs of markers that enclose blocks.

* `pushAll_nodes`: the nodes of a forest may be appended one by one or all at once;
* `filterMap_uses_nodes` and `filter_markers_leaves`: what is read off the leaves of a forest;
* `pair_bounds` and `pairs_pairwise`: where the pairs of a forest lie.
-/

namespace MarkdownTemplate

/-- The piece that a marker is. -/
def Piece.ofMarker (found : PlacedMarker) : PlacedPiece :=
  (.marker found.1, found.2)

@[simp]
theorem Piece.placedMarker?_ofMarker (found : PlacedMarker) :
    Piece.placedMarker? (Piece.ofMarker found) = some found := rfl

/-- Pieces of a body with its blocks resolved. -/
inductive Forest (α : Type) where
  /-- No pieces. -/
  | nil
  /-- A piece that neither opens nor closes a block, and what follows it. -/
  | leaf (placed : PlacedPiece) (label : α) (rest : Forest α)
  /-- A block with the two markers that enclose it, and what follows it. -/
  | block (opening : PlacedMarker) (content : Forest α) (closing : PlacedMarker) (rest : Forest α)

namespace Forest

variable {α : Type}

def append : Forest α → Forest α → Forest α
  | nil, other => other
  | leaf placed label rest, other => leaf placed label (rest.append other)
  | block opening content closing rest, other =>
    block opening content closing (rest.append other)

instance : Append (Forest α) := ⟨append⟩

@[simp]
theorem nil_append (other : Forest α) : nil ++ other = other := rfl

@[simp]
theorem leaf_append (placed : PlacedPiece) (label : α) (rest other : Forest α) :
    leaf placed label rest ++ other = leaf placed label (rest ++ other) := rfl

@[simp]
theorem block_append (opening closing : PlacedMarker) (content rest other : Forest α) :
    block opening content closing rest ++ other =
      block opening content closing (rest ++ other) := rfl

theorem append_assoc (first second third : Forest α) :
    first ++ second ++ third = first ++ (second ++ third) := by
  induction first with
  | nil => rfl
  | leaf placed label rest ih => simp only [leaf_append, ih]
  | block opening content closing rest _ ih => simp only [block_append, ih]

/-- The pieces of the forest in their order. -/
def pieces : Forest α → List PlacedPiece
  | nil => []
  | leaf placed _ rest => placed :: rest.pieces
  | block opening content closing rest =>
    Piece.ofMarker opening :: (content.pieces ++ Piece.ofMarker closing :: rest.pieces)

/-- The leaves of the forest with their labels. -/
def leaves : Forest α → List (PlacedPiece × α)
  | nil => []
  | leaf placed label rest => (placed, label) :: rest.leaves
  | block _ content _ rest => content.leaves ++ rest.leaves

/-- The pairs of markers that enclose blocks, each block before those in it. -/
def pairs : Forest α → List BlockPair
  | nil => []
  | leaf _ _ rest => rest.pairs
  | block opening content closing rest => ⟨opening, closing⟩ :: (content.pairs ++ rest.pairs)

/-- `collect` lists a part for each leaf and each block, and then what it collects from the rest. -/
structure CollectsParts {β : Type} (collect : Forest α → List β) : Prop where
  nil : collect nil = []
  leaf (placed : PlacedPiece) (label : α) :
    ∃ part, ∀ rest, collect (leaf placed label rest) = part ++ collect rest
  block (opening : PlacedMarker) (content : Forest α) (closing : PlacedMarker) :
    ∃ part, ∀ rest, collect (block opening content closing rest) = part ++ collect rest

/-- A `collect` with `CollectsParts` turns `++` on forests into `++` on lists. -/
theorem CollectsParts.append {β : Type} {collect : Forest α → List β} (h : CollectsParts collect)
    (first second : Forest α) : collect (first ++ second) = collect first ++ collect second := by
  induction first with
  | nil => rw [nil_append, h.nil, List.nil_append]
  | leaf placed label rest ih =>
    obtain ⟨part, hpart⟩ := h.leaf placed label
    rw [leaf_append, hpart, hpart, ih, List.append_assoc]
  | block opening content closing rest _ ih =>
    obtain ⟨part, hpart⟩ := h.block opening content closing
    rw [block_append, hpart, hpart, ih, List.append_assoc]

theorem collectsParts_pieces : CollectsParts (pieces : Forest α → List PlacedPiece) where
  nil := rfl
  leaf placed _ := ⟨[placed], fun _ => rfl⟩
  block opening content closing :=
    ⟨Piece.ofMarker opening :: (content.pieces ++ [Piece.ofMarker closing]),
      fun _ => by simp [pieces]⟩

theorem collectsParts_leaves : CollectsParts (leaves : Forest α → List (PlacedPiece × α)) where
  nil := rfl
  leaf placed label := ⟨[(placed, label)], fun _ => rfl⟩
  block _ content _ := ⟨content.leaves, fun _ => rfl⟩

theorem collectsParts_pairs : CollectsParts (pairs : Forest α → List BlockPair) where
  nil := rfl
  leaf _ _ := ⟨[], fun _ => rfl⟩
  block opening content closing := ⟨⟨opening, closing⟩ :: content.pairs, fun _ => rfl⟩

@[simp]
theorem pieces_append (first second : Forest α) :
    (first ++ second).pieces = first.pieces ++ second.pieces :=
  collectsParts_pieces.append first second

@[simp]
theorem leaves_append (first second : Forest α) :
    (first ++ second).leaves = first.leaves ++ second.leaves :=
  collectsParts_leaves.append first second

@[simp]
theorem pairs_append (first second : Forest α) :
    (first ++ second).pairs = first.pairs ++ second.pairs :=
  collectsParts_pairs.append first second

/-! ### Nodes -/

/-- The nodes of the forest pushed after `nodes` by `Node.push`. Leaves are their labels. -/
def nodesOnto (nodes : List Node) : Forest Node → List Node
  | nil => nodes
  | leaf _ node rest => nodesOnto (Node.push nodes node) rest
  | block opening content _ rest =>
    nodesOnto (Node.push nodes (.block opening.1.name (nodesOnto [] content))) rest

/-- The nodes of the forest, pushed one after another. -/
def nodes (forest : Forest Node) : List Node :=
  nodesOnto [] forest

theorem nodesOnto_append (nodes : List Node) (first second : Forest Node) :
    nodesOnto nodes (first ++ second) = nodesOnto (nodesOnto nodes first) second := by
  induction first generalizing nodes with
  | nil => rfl
  | leaf placed node rest ih => simp only [leaf_append, nodesOnto, ih]
  | block opening content closing rest _ ih => simp only [block_append, nodesOnto, ih]

/-- `Node.pushAll before` moves inside `nodesOnto`. -/
theorem pushAll_nodesOnto (before nodes : List Node) (forest : Forest Node) :
    Node.pushAll before (nodesOnto nodes forest) =
      nodesOnto (Node.pushAll before nodes) forest := by
  induction forest generalizing nodes with
  | nil => rfl
  | leaf placed node rest ih => rw [nodesOnto, ih, Node.pushAll_push, nodesOnto]
  | block opening content closing rest _ ih =>
    rw [nodesOnto, ih, Node.pushAll_push, nodesOnto]

/-- Pushing `forest.nodes` all at once is pushing them one by one. -/
theorem pushAll_nodes (before : List Node) (forest : Forest Node) :
    Node.pushAll before forest.nodes = nodesOnto before forest :=
  pushAll_nodesOnto before [] forest

section Reading

variable {β : Type} {read : Node → List β}

/-- A `read` that cuts text reads off a leaf and the rest of the forest one after the other. -/
theorem flatMap_nodes_leaf (hread : Node.CutsText read) (placed : PlacedPiece) (node : Node)
    (rest : Forest Node) :
    (leaf placed node rest).nodes.flatMap read = read node ++ rest.nodes.flatMap read := by
  rw [nodes, nodesOnto, ← pushAll_nodes, Node.flatMap_pushAll hread, Node.flatMap_push hread,
    List.flatMap_nil, List.nil_append]

/-- A `read` that cuts text reads off a block and the rest of the forest one after the other. -/
theorem flatMap_nodes_block (hread : Node.CutsText read) (opening closing : PlacedMarker)
    (content rest : Forest Node) :
    (block opening content closing rest).nodes.flatMap read =
      read (.block opening.1.name content.nodes) ++ rest.nodes.flatMap read := by
  rw [nodes, nodesOnto, ← pushAll_nodes, Node.flatMap_pushAll hread, Node.flatMap_push hread,
    List.flatMap_nil, List.nil_append]
  rfl

end Reading

/-- A `read` that gives nothing for `VariableUse.control` is read off the leaves alone. -/
theorem filterMap_uses_nodes {β : Type} {read : VariableUse → Option β}
    (hread : ∀ name, read (.control name) = none) (forest : Forest Node) :
    (Node.uses forest.nodes).filterMap read =
      forest.leaves.flatMap fun leaf => leaf.2.usesIn.filterMap read := by
  induction forest with
  | nil => rfl
  | leaf placed node rest ih =>
    rw [Node.uses_eq_flatMap, flatMap_nodes_leaf Node.cutsText_usesIn, ← Node.uses_eq_flatMap,
      List.filterMap_append, ih, leaves, List.flatMap_cons]
  | block opening content closing rest ihContent ihRest =>
    rw [Node.uses_eq_flatMap, flatMap_nodes_block Node.cutsText_usesIn, ← Node.uses_eq_flatMap,
      List.filterMap_append, ihRest, Node.usesIn, List.filterMap_cons_none (hread opening.1.name),
      ihContent, leaves, List.flatMap_append]

/-- If `keep` holds of no marker around a block, it selects the same markers from `leaves` as from
`pieces`. -/
theorem filter_markers_leaves {keep : PlacedMarker → Bool} {forest : Forest α}
    (hpairs : ∀ pair ∈ forest.pairs, keep pair.opening = false ∧ keep pair.closing = false) :
    (forest.leaves.filterMap fun leaf => Piece.placedMarker? leaf.1).filter keep =
      (forest.pieces.filterMap Piece.placedMarker?).filter keep := by
  induction forest with
  | nil => rfl
  | leaf placed label rest ih =>
    rw [leaves, pieces, List.filterMap_cons, List.filterMap_cons]
    cases Piece.placedMarker? placed with
    | none => exact ih hpairs
    | some found => simp only [List.filter_cons, ih hpairs]
  | block opening content closing rest ihContent ihRest =>
    simp only [pairs, List.forall_mem_cons, List.forall_mem_append] at hpairs
    obtain ⟨⟨hopening, hclosing⟩, hcontent, hrest⟩ := hpairs
    simp [leaves, pieces, hopening, hclosing, ihContent hcontent, ihRest hrest]

/-- The markers in `pieces` are those of `leaves` and the two of each pair in `pairs`. -/
theorem markers_perm (forest : Forest α) :
    (forest.pieces.filterMap Piece.placedMarker?).Perm
      ((forest.leaves.filterMap fun leaf => Piece.placedMarker? leaf.1) ++
        (forest.pairs.map BlockPair.opening ++ forest.pairs.map BlockPair.closing)) := by
  induction forest with
  | nil => exact List.Perm.refl _
  | leaf placed label rest ih =>
    rw [leaves, pieces, pairs, List.filterMap_cons, List.filterMap_cons]
    cases Piece.placedMarker? placed with
    | none => exact ih
    | some found => exact ih.cons found
  | block opening content closing rest ihContent ihRest =>
    -- the closing marker comes after the content, so the two sides are compared by counting
    rw [List.perm_iff_count] at ihContent ihRest ⊢
    intro found
    have hcontent := ihContent found
    have hrest := ihRest found
    simp only [leaves, pieces, pairs, List.filterMap_cons, List.filterMap_append, List.map_cons,
      List.map_append, List.count_append, List.count_cons, Piece.placedMarker?_ofMarker] at *
    omega

/-! ### Places -/

section Places

variable {start stop : Nat}

/-- If the pieces of a block and its rest tile the bytes from `start` to `stop`, then so do the
opening marker, the content, the closing marker and the rest, in this order. -/
theorem tiles_block {opening closing : PlacedMarker} {content rest : Forest α}
    (h : Tiles start (block opening content closing rest).pieces stop) :
    opening.2.start = start ∧ start < opening.2.stop ∧
      Tiles opening.2.stop content.pieces closing.2.start ∧
        closing.2.start < closing.2.stop ∧ Tiles closing.2.stop rest.pieces stop := by
  rw [pieces] at h
  obtain ⟨hstart, hopening⟩ := h.head_bounds
  obtain ⟨middle, hcontent, hafter⟩ := Tiles.append_iff.mp h.tail
  obtain ⟨hmiddle, hclosing⟩ := hafter.head_bounds
  obtain rfl : closing.2.start = middle := hmiddle
  exact ⟨hstart, hopening, hcontent, hclosing, hafter.tail⟩

/-- The two markers of a pair follow one another between `start` and `stop`. -/
theorem pair_bounds {forest : Forest α} (h : Tiles start forest.pieces stop) {pair : BlockPair}
    (hpair : pair ∈ forest.pairs) :
    start ≤ pair.opening.2.start ∧ pair.opening.2.start < pair.opening.2.stop ∧
      pair.opening.2.stop ≤ pair.closing.2.start ∧ pair.closing.2.start < pair.closing.2.stop ∧
        pair.closing.2.stop ≤ stop := by
  induction forest generalizing start stop with
  | nil => exact absurd hpair (by simp [pairs])
  | leaf placed label rest ih =>
    have hbounds := ih h.tail hpair
    have hleaf := h.head_bounds
    omega
  | block opening content closing rest ihContent ihRest =>
    obtain ⟨hstart, hopening, hcontent, hclosing, hrest⟩ := tiles_block h
    have hinner := hcontent.start_le_stop
    have hafter := hrest.start_le_stop
    rw [pairs, List.mem_cons, List.mem_append] at hpair
    -- the pair is that of the block, one in its content, or one in the rest
    rcases hpair with rfl | hpair | hpair
    · simp only
      omega
    · have hbounds := ihContent hcontent hpair
      omega
    · have hbounds := ihRest hrest hpair
      omega

/-- `pairs` is sorted by where the opening markers start. -/
theorem pairs_pairwise {forest : Forest α} (h : Tiles start forest.pieces stop) :
    forest.pairs.Pairwise fun first second =>
      first.opening.2.start < second.opening.2.start := by
  induction forest generalizing start stop with
  | nil => exact List.Pairwise.nil
  | leaf placed label rest ih => exact ih h.tail
  | block opening content closing rest ihContent ihRest =>
    obtain ⟨hstart, hopening, hcontent, hclosing, hrest⟩ := tiles_block h
    rw [pairs, List.pairwise_cons, List.pairwise_append]
    refine ⟨?_, ihContent hcontent, ihRest hrest, ?_⟩
    -- the opening marker of the block stands before all other pairs
    · intro pair hpair
      rcases List.mem_append.mp hpair with hpair | hpair
      · have hbounds := pair_bounds hcontent hpair
        simp only
        omega
      · have hbounds := pair_bounds hrest hpair
        have hinner := hcontent.start_le_stop
        simp only
        omega
    -- the pairs in the block end before those after it start
    · intro first hfirst second hsecond
      have hbefore := pair_bounds hcontent hfirst
      have hafter := pair_bounds hrest hsecond
      omega

end Places

end Forest

end MarkdownTemplate
