import Mathlib.Data.List.Basic
import MarkdownTemplate.Proofs.Node.Uses

/-!
# Nodes that rendering visits

Rendering visits nodes one after the other. At a block it looks up the control variable first. The
nodes in the block are visited if there is a value that is not blank, and are passed over otherwise.
So values decide two things: which nodes are visited, and what a visited node is written as.

* `Node.visited` and `Node.reach`: the nodes that are visited, and the names that are looked up;
* `Node.ownUses_visited_sublist`: the uses that are met are among the uses in the nodes;
* `Node.visited_congr`: values that agree on the names that are looked up visit the same nodes;
* `renderAll_eq_join_parts`: the rendered text is what the visited nodes are written as;
* `renderAll_congr`: values that agree on the names that are looked up give the same text.
-/

namespace MarkdownTemplate

/-- The name of the variable that is used. -/
def VariableUse.name : VariableUse → String
  | .reference target _ => target.name
  | .control name => name

/-- The use that the node itself makes, without those inside it. -/
def Node.ownUse? : Node → Option VariableUse
  | .text _ => none
  | .reference target marker => some (.reference target marker)
  | .block control _ => some (.control control)

mutual

/-- The nodes that rendering visits in a node. A block is entered if its control variable has a
value with a character that is not blank. -/
def Node.visitedIn (value? : String → Option String) : Node → List Node
  | .text written => [.text written]
  | .reference target marker => [.reference target marker]
  | .block control content =>
    .block control content ::
      if (value? control).all allBlank then [] else Node.visited value? content
termination_by structural node => node

/-- The nodes that rendering visits. -/
def Node.visited (value? : String → Option String) : List Node → List Node
  | [] => []
  | node :: nodes => node.visitedIn value? ++ Node.visited value? nodes
termination_by structural nodes => nodes

end

/-- The names that rendering looks up: those of the references and control variables among
`visited`. -/
def Node.reach (value? : String → Option String) (nodes : List Node) : List String :=
  ((visited value? nodes).filterMap ownUse?).map VariableUse.name

/-- A part of a rendered text. -/
inductive RenderedPart where
  /-- Text that is kept as it is. -/
  | text (written : String)
  /-- The value of a variable, in place of a reference to it. -/
  | value (target : Variable) (written : String)
  /-- The marker of a reference to a variable without value. -/
  | marker (target : Variable) (written : String)

/-- The text that the part adds to the rendered text. -/
def RenderedPart.written : RenderedPart → String
  | text written => written
  | value _ written => written
  | marker _ written => written

/-- The part that a visited node renders to. A block itself adds no text. -/
def Node.part? (value? : String → Option String) : Node → Option RenderedPart
  | .text written => some (.text written)
  | .reference target marker =>
    match value? target.name with
    | some value => some (.value target value)
    | none => some (.marker target marker)
  | .block _ _ => none

@[simp]
theorem Node.part?_text (value? : String → Option String) (written : String) :
    part? value? (text written) = some (.text written) := rfl

@[simp]
theorem Node.part?_block (value? : String → Option String) (control : String)
    (content : List Node) : part? value? (block control content) = none := rfl

/-- The parts that `nodes` render to, in their order. -/
def Node.parts (value? : String → Option String) (nodes : List Node) : List RenderedPart :=
  (visited value? nodes).filterMap (part? value?)

/-- `first` and `second` give the same values to `names`. -/
def AgreeOn (names : List String) (first second : String → Option String) : Prop :=
  ∀ name ∈ names, first name = second name

theorem AgreeOn.of_subset {names fewer : List String} {first second : String → Option String}
    (h : AgreeOn names first second) (hsubset : fewer ⊆ names) : AgreeOn fewer first second :=
  fun name hname => h name (hsubset hname)

namespace Node

/-! ### Uses that are met -/

mutual

theorem ownUses_visitedIn_sublist (value? : String → Option String) (node : Node) :
    ((node.visitedIn value?).filterMap ownUse?).Sublist node.usesIn := by
  cases node with
  | text written => exact List.Sublist.refl _
  | reference target marker => exact List.Sublist.refl _
  | block control content =>
    rw [visitedIn, usesIn]
    -- the control variable is met in any case, the uses in the block only if it is entered
    apply List.Sublist.cons_cons
    split
    · exact List.nil_sublist _
    · exact ownUses_visited_sublist value? content

/-- The uses of `visited` nodes are a sublist of `uses`. -/
theorem ownUses_visited_sublist (value? : String → Option String) (nodes : List Node) :
    ((visited value? nodes).filterMap ownUse?).Sublist (uses nodes) := by
  cases nodes with
  | nil => exact List.Sublist.refl _
  | cons node nodes =>
    rw [visited, uses, List.filterMap_append]
    exact (ownUses_visitedIn_sublist value? node).append (ownUses_visited_sublist value? nodes)

end

/-- A name in `reach` is that of a use. -/
theorem exists_use_of_mem_reach {value? : String → Option String} {nodes : List Node}
    {name : String} (h : name ∈ reach value? nodes) : ∃ use ∈ uses nodes, use.name = name := by
  obtain ⟨use, hmet, hname⟩ := List.mem_map.mp h
  exact ⟨use, (ownUses_visited_sublist value? nodes).subset hmet, hname⟩

/-- A reference in `visited` is among `uses`. -/
theorem reference_mem_uses_of_mem_visited {value? : String → Option String} {nodes : List Node}
    {target : Variable} {marker : String} (h : reference target marker ∈ visited value? nodes) :
    .reference target marker ∈ uses nodes := by
  apply (ownUses_visited_sublist value? nodes).subset
  exact List.mem_filterMap.mpr ⟨reference target marker, h, rfl⟩

/-- A marker is among `parts` if and only if its reference is among `visited` and has no value. -/
theorem marker_mem_parts_iff {value? : String → Option String} {nodes : List Node}
    {target : Variable} {marker : String} :
    .marker target marker ∈ parts value? nodes ↔
      reference target marker ∈ visited value? nodes ∧ value? target.name = none := by
  rw [parts, List.mem_filterMap]
  constructor
  · rintro ⟨node, hvisited, hpart⟩
    -- only a reference without value renders to a marker
    cases node with
    | text written => exact absurd hpart (by simp)
    | block control content => exact absurd hpart (by simp)
    | reference other written =>
      rw [part?] at hpart
      cases hvalue : value? other.name with
      | some value => simp [hvalue] at hpart
      | none =>
        simp only [hvalue, Option.some.injEq, RenderedPart.marker.injEq] at hpart
        obtain ⟨rfl, rfl⟩ := hpart
        exact ⟨hvisited, hvalue⟩
  · rintro ⟨hvisited, hnone⟩
    exact ⟨reference target marker, hvisited, by rw [part?, hnone]⟩

/-! ### Agreeing values -/

section Congr

variable {first second : String → Option String}

mutual

theorem visitedIn_congr (node : Node)
    (h : AgreeOn (((node.visitedIn first).filterMap ownUse?).map VariableUse.name) first second) :
    node.visitedIn first = node.visitedIn second := by
  cases node with
  | text written => rfl
  | reference target marker => rfl
  | block control content =>
    -- the control variable is looked up whether the block is entered or not
    have hcontrol : first control = second control :=
      h control (by simp [visitedIn, ownUse?, VariableUse.name])
    rw [visitedIn, visitedIn, ← hcontrol]
    split
    · rfl
    · rename_i hkept
      -- the block is entered, so what is looked up in it is looked up in all
      have hcontent : AgreeOn (reach first content) first second := by
        apply h.of_subset
        rw [visitedIn, if_neg hkept]
        exact List.subset_cons_self _ _
      rw [visited_congr content hcontent]

/-- `visited` depends only on the values of the names in `reach`. -/
theorem visited_congr (nodes : List Node) (h : AgreeOn (reach first nodes) first second) :
    visited first nodes = visited second nodes := by
  cases nodes with
  | nil => rfl
  | cons node nodes =>
    rw [reach, visited, List.filterMap_append, List.map_append] at h
    rw [visited, visited, visitedIn_congr node (h.of_subset (List.subset_append_left _ _)),
      visited_congr nodes (h.of_subset (List.subset_append_right _ _))]

end

/-- `part?` depends only on the value of the name in `ownUse?`. -/
theorem part?_congr {node : Node}
    (h : ∀ use, node.ownUse? = some use → first use.name = second use.name) :
    node.part? first = node.part? second := by
  cases node with
  | text written => rfl
  | reference target marker =>
    have htarget : first target.name = second target.name := h _ rfl
    rw [part?, part?, htarget]
  | block control content => rfl

theorem parts_congr {nodes : List Node} (h : AgreeOn (reach first nodes) first second) :
    parts first nodes = parts second nodes := by
  -- the nodes are the same, so only what each of them is written as is left to compare
  rw [parts, parts, ← visited_congr nodes h]
  refine List.filterMap_congr fun node hnode => part?_congr fun use huse => ?_
  apply h
  exact List.mem_map_of_mem (List.mem_filterMap.mpr ⟨node, hnode, huse⟩)

end Congr

end Node

/-! ### Rendered texts -/

section Written

variable (value? : String → Option String)

mutual

theorem renderWith_eq_join_parts (node : Node) :
    node.renderWith value? =
      String.join (((node.visitedIn value?).filterMap (Node.part? value?)).map
        RenderedPart.written) := by
  cases node with
  | text written => simp [Node.renderWith, Node.visitedIn, Node.part?, RenderedPart.written]
  | reference target marker =>
    rw [Node.renderWith, Node.visitedIn]
    cases hvalue : value? target.name with
    | none => simp [Node.part?, hvalue, RenderedPart.written]
    | some value => simp [Node.part?, hvalue, RenderedPart.written]
  | block control content =>
    -- the block is not written itself, only the nodes in it are
    rw [Node.renderWith, Node.visitedIn, isKept_eq,
      List.filterMap_cons_none (Node.part?_block value? control content)]
    cases hblank : (value? control).all allBlank with
    | true => simp
    | false =>
      have hcontent := renderAll_eq_join_parts content
      rw [Node.parts] at hcontent
      simp [hcontent]

/-- `renderAll` joins the texts of `parts`. -/
theorem renderAll_eq_join_parts (nodes : List Node) :
    renderAll value? nodes =
      String.join ((Node.parts value? nodes).map RenderedPart.written) := by
  cases nodes with
  | nil => rfl
  | cons node nodes =>
    rw [renderAll, renderWith_eq_join_parts node, renderAll_eq_join_parts nodes, Node.parts,
      Node.parts, Node.visited, List.filterMap_append, List.map_append, String.join_append]

end

end Written

/-- `renderAll` depends only on the values of the names in `reach`. -/
theorem renderAll_congr {first second : String → Option String} {nodes : List Node}
    (h : AgreeOn (Node.reach first nodes) first second) :
    renderAll first nodes = renderAll second nodes := by
  rw [renderAll_eq_join_parts, renderAll_eq_join_parts, Node.parts_congr h]

end MarkdownTemplate
