import MarkdownTemplate.Proofs.Node.Push

/-!
# Blocks in nodes

Blocks are found in nodes by walking down to them. An address says which way to go: the index of a
node in the list, then of a node in the content of that node, and so on.

* `Node.blocks`: the blocks in nodes with their addresses, each block before those in it;
* `Node.blocksFrom_concat`: the blocks that a node at the end adds;
* `Node.blocksFrom_push`: joining texts does not change them.
-/

namespace MarkdownTemplate

/-- A block with its address in a tree of nodes. -/
structure AddressedBlock where
  /-- The index of each node on the way down to the block, its own index last. -/
  address : List Nat
  /-- The name of its control variable. -/
  control : String

namespace AddressedBlock

/-- The address of `outer` is a proper prefix of that of `inner`. -/
def IsDescendantOf (inner outer : AddressedBlock) : Prop :=
  outer.address <+: inner.address ∧ inner.address ≠ outer.address

end AddressedBlock

mutual

/-- The blocks in a node at `address`, itself included. -/
def Node.blocksAt (address : List Nat) : Node → List AddressedBlock
  | .text _ => []
  | .reference _ _ => []
  | .block control content => ⟨address, control⟩ :: Node.blocksFrom address 0 content
termination_by structural node => node

/-- The blocks in nodes whose indices under `address` start at `index`. -/
def Node.blocksFrom (address : List Nat) (index : Nat) : List Node → List AddressedBlock
  | [] => []
  | node :: nodes =>
    node.blocksAt (address ++ [index]) ++ Node.blocksFrom address (index + 1) nodes
termination_by structural nodes => nodes

end

/-- The blocks in `nodes`, each before those in it. -/
def Node.blocks (nodes : List Node) : List AddressedBlock :=
  Node.blocksFrom [] 0 nodes

namespace Node

variable (address : List Nat) (index : Nat)

theorem blocksFrom_append (first second : List Node) :
    blocksFrom address index (first ++ second) =
      blocksFrom address index first ++ blocksFrom address (index + first.length) second := by
  induction first generalizing index with
  | nil => rfl
  | cons node first ih =>
    rw [List.cons_append, blocksFrom, ih, blocksFrom, List.append_assoc, List.length_cons,
      Nat.add_right_comm, Nat.add_assoc index]

/-- A node at the end adds its blocks to `blocksFrom`, under the index `index + nodes.length`. -/
theorem blocksFrom_concat (nodes : List Node) (node : Node) :
    blocksFrom address index (nodes ++ [node]) =
      blocksFrom address index nodes ++ node.blocksAt (address ++ [index + nodes.length]) := by
  rw [blocksFrom_append, blocksFrom, blocksFrom, List.append_nil]

/-- `node` is no block. -/
def IsFlat (node : Node) : Prop :=
  ∀ control content, node ≠ block control content

theorem IsFlat.blocksAt_eq_nil {node : Node} (hflat : node.IsFlat) :
    node.blocksAt address = [] := by
  cases node with
  | text text => rfl
  | reference target marker => rfl
  | block control content => exact absurd rfl (hflat control content)

/-- Pushing a node with `IsFlat` does not change `blocksFrom`. -/
theorem blocksFrom_push (nodes : List Node) {node : Node} (hflat : node.IsFlat) :
    blocksFrom address index (push nodes node) = blocksFrom address index nodes := by
  rcases push_cases nodes node with ⟨rfl, hpush⟩ | ⟨init, last, added, rfl, rfl, hpush⟩ | hpush
  · rw [hpush]
  · rw [hpush, blocksFrom_concat, blocksFrom_concat, blocksAt, blocksAt]
  · rw [hpush, blocksFrom_concat, hflat.blocksAt_eq_nil, List.append_nil]

end Node

end MarkdownTemplate
