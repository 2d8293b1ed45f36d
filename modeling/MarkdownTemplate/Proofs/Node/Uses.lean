import MarkdownTemplate.Proofs.Node.Push

/-!
# Uses of variables in nodes

Nodes use variables in two ways: a reference stands for the value of one, and a block is controlled
by one. `Node.uses` lists the uses at any depth and `Node.references` those that are references.
`Node.liveNames` lists the names in the order in which the uses are over, blocks last.

* `Node.mem_uses_push` and `Node.mem_uses_pushAll`: the uses in nodes that are appended.
-/

namespace MarkdownTemplate

/-- A use of a variable. -/
inductive VariableUse where
  /-- A reference to a variable, with its marker as it is written. -/
  | reference (target : Variable) (marker : String)
  /-- A block, with the name of its control variable. -/
  | control (name : String)

mutual

/-- The uses of variables in a node. -/
def Node.usesIn : Node → List VariableUse
  | .text _ => []
  | .reference target marker => [.reference target marker]
  | .block control content => .control control :: Node.uses content
termination_by structural node => node

/-- The uses of variables at any depth, in document order. -/
def Node.uses : List Node → List VariableUse
  | [] => []
  | node :: nodes => node.usesIn ++ Node.uses nodes
termination_by structural nodes => nodes

end

/-- The variable and the marker of a reference. -/
def VariableUse.reference? : VariableUse → Option (Variable × String)
  | .reference target marker => some (target, marker)
  | .control _ => none

/-- The references at any depth, in document order. -/
def Node.references (nodes : List Node) : List (Variable × String) :=
  (uses nodes).filterMap VariableUse.reference?

mutual

/-- The names of the variables in use in a node. The name of a control variable comes after those in
its block. -/
def Node.liveNamesIn : Node → List String
  | .text _ => []
  | .reference target _ => [target.name]
  | .block control content => Node.liveNames content ++ [control]
termination_by structural node => node

/-- The names of the variables in use, with repetitions. -/
def Node.liveNames : List Node → List String
  | [] => []
  | node :: nodes => node.liveNamesIn ++ Node.liveNames nodes
termination_by structural nodes => nodes

end

namespace Node

theorem liveNames_eq_flatMap (nodes : List Node) : liveNames nodes = nodes.flatMap liveNamesIn :=
  eq_flatMap_of_cons liveNames rfl (fun _ _ => rfl) nodes

theorem cutsText_liveNamesIn : CutsText liveNamesIn := fun _ _ => rfl

theorem uses_eq_flatMap (nodes : List Node) : uses nodes = nodes.flatMap usesIn :=
  eq_flatMap_of_cons uses rfl (fun _ _ => rfl) nodes

theorem cutsText_usesIn : CutsText usesIn := fun _ _ => rfl

variable {nodes added : List Node} {use : VariableUse}

/-- `push` adds the uses in `node`. -/
@[simp]
theorem mem_uses_push {node : Node} :
    use ∈ uses (push nodes node) ↔ use ∈ uses nodes ∨ use ∈ node.usesIn := by
  rw [uses_eq_flatMap, flatMap_push cutsText_usesIn, List.mem_append, uses_eq_flatMap]

/-- `pushAll` adds the uses in `added`. -/
@[simp]
theorem mem_uses_pushAll :
    use ∈ uses (pushAll nodes added) ↔ use ∈ uses nodes ∨ use ∈ uses added := by
  rw [uses_eq_flatMap, flatMap_pushAll cutsText_usesIn, List.mem_append, uses_eq_flatMap,
    uses_eq_flatMap]

end Node

end MarkdownTemplate
