import MarkdownTemplate.Proofs.Body.Reading
import MarkdownTemplate.Proofs.Marker.Spelling
import MarkdownTemplate.Proofs.Node.Uses

/-!
# Variables of a body

The variables of a body are those that its nodes use, each once. This holds at every point of a body
for the nodes outside and inside all open blocks, so it does not matter in which order blocks that
stay open are written back.

* `VariablesAgree`: variables are those that are used;
* `VariablesAgree.insert`: one more use, of a variable that is known or of a new one;
* `BodyState.varsAgree_foldl_readPiece`: they agree when a part of a body is read;
* `variablesAgree_ofString` and `variables_ofString`: they agree in a parsed body.
-/

namespace MarkdownTemplate

/-- The use is of `target`: a reference to it with one of `placeholderTexts`, or a block that it
controls. -/
def VariableUse.IsOf (target : Variable) : VariableUse → Prop
  | .reference other marker => other = target ∧ marker ∈ placeholderTexts target.name
  | .control name => name = target.name

/-- `vars` has distinct names and consists of the variables that `uses` are of. -/
structure VariablesAgree (vars : List Variable) (uses : VariableUse → Prop) : Prop where
  /-- No two variables have the same name. -/
  nodup : (vars.map Variable.name).Nodup
  /-- Every use is of one of the variables. -/
  of_use : ∀ use, uses use → ∃ target ∈ vars, use.IsOf target
  /-- Every variable has a use. -/
  exists_use : ∀ target ∈ vars, ∃ use, uses use ∧ use.IsOf target

/-- `new` is `old` with `target`, which is in `old` or is added at the end under a new name. -/
def IsInsertion (target : Variable) (old new : List Variable) : Prop :=
  (target ∈ old ∧ new = old) ∨ ((∀ known ∈ old, known.name ≠ target.name) ∧ new = old ++ [target])

namespace VariablesAgree

variable {vars : List Variable} {uses others : VariableUse → Prop}

theorem congr (h : VariablesAgree vars uses) (hsame : ∀ use, others use ↔ uses use) :
    VariablesAgree vars others := by
  obtain rfl : others = uses := funext fun use => propext (hsame use)
  exact h

/-- `IsInsertion` keeps `VariablesAgree` with one more use of `target`. -/
theorem insert (h : VariablesAgree vars uses) {new : List Variable} {target : Variable}
    (hinsert : IsInsertion target vars new) {use : VariableUse} (huse : use.IsOf target) :
    VariablesAgree new fun other => uses other ∨ other = use := by
  have hmem : ∀ known, known ∈ new ↔ known ∈ vars ∨ known = target := by
    intro known
    rcases hinsert with ⟨hknown, rfl⟩ | ⟨-, rfl⟩
    · constructor
      · exact Or.inl
      · rintro (hmem | rfl)
        · exact hmem
        · exact hknown
    · simp
  constructor
  -- names stay distinct
  · rcases hinsert with ⟨-, rfl⟩ | ⟨hfresh, rfl⟩
    · exact h.nodup
    · rw [List.map_append, List.nodup_append]
      refine ⟨h.nodup, by simp, ?_⟩
      intro name hname other hother
      obtain ⟨known, hknown, rfl⟩ := List.mem_map.mp hname
      rw [List.map_singleton, List.mem_singleton] at hother
      rw [hother]
      exact hfresh known hknown
  -- old uses are of old variables, and the new one is of the variable that is inserted
  · rintro other (hother | rfl)
    · obtain ⟨known, hknown, hof⟩ := h.of_use other hother
      exact ⟨known, (hmem known).mpr (Or.inl hknown), hof⟩
    · exact ⟨target, (hmem target).mpr (Or.inr rfl), huse⟩
  -- and each variable has the use that it had, or the new one
  · intro known hknown
    rcases (hmem known).mp hknown with hknown | rfl
    · obtain ⟨other, hother, hof⟩ := h.exists_use known hknown
      exact ⟨other, Or.inl hother, hof⟩
    · exact ⟨use, Or.inr rfl, huse⟩

end VariablesAgree

namespace BodyState

/-- `use` is in the nodes of `state`, in the root or in a frame. -/
def Uses (state : BodyState) (use : VariableUse) : Prop :=
  use ∈ Node.uses state.root ∨ ∃ frame ∈ state.frames, use ∈ Node.uses frame.content

/-- The invariant of a run: `state.vars` agrees with the uses in its nodes. -/
def VarsAgree (state : BodyState) : Prop :=
  VariablesAgree state.vars state.Uses

variable {state : BodyState} {use : VariableUse}

/-- `addNode` adds the uses in `node`. -/
@[simp]
theorem uses_addNode {node : Node} :
    (state.addNode node).Uses use ↔ state.Uses use ∨ use ∈ node.usesIn := by
  unfold addNode
  split
  · rename_i hframes
    simp [Uses, hframes]
  · rename_i frame frames hframes
    simp only [Uses, hframes, List.exists_mem_cons_iff, Node.mem_uses_push]
    grind

@[simp]
theorem uses_register {target : Variable} :
    (state.register target).Uses use ↔ state.Uses use := by
  rw [Uses, root_register, frames_register, Uses]

@[simp]
theorem vars_addNode (state : BodyState) (node : Node) :
    (state.addNode node).vars = state.vars := by
  unfold addNode
  split <;> rfl

/-- Registering `variableFor` is an `IsInsertion`. -/
theorem isInsertion_register (state : BodyState) (name : String) (entry : Entry)
    (isOptional : Bool) (span : Span) :
    IsInsertion (state.variableFor name entry isOptional span) state.vars
      (state.register (state.variableFor name entry isOptional span)).vars := by
  have hname := state.name_variableFor name entry isOptional span
  unfold register
  rw [hname]
  split
  · rename_i hany
    -- the name is known, so the variable is the one that is found
    refine Or.inl ⟨?_, rfl⟩
    obtain ⟨known, hfind⟩ := Option.isSome_iff_exists.mp (List.find?_isSome.mpr
      (List.any_eq_true.mp hany))
    rw [variableFor, hfind]
    exact List.mem_of_find?_eq_some hfind
  · rename_i hany
    refine Or.inr ⟨?_, rfl⟩
    intro known hknown heq
    rw [hname] at heq
    exact hany (List.any_eq_true.mpr ⟨known, hknown, by simpa using heq⟩)

/-! ### One piece -/

/-- Adding a text preserves `VarsAgree`. -/
theorem VarsAgree.addText (h : state.VarsAgree) (text : String) :
    (state.addNode (.text text)).VarsAgree := by
  rw [VarsAgree, vars_addNode]
  exact VariablesAgree.congr h fun use => by simp [Node.usesIn]

/-- A placeholder adds a reference to the variable that it registers, or adds text. -/
theorem VarsAgree.readPlaceholder (h : state.VarsAgree) {marker : Marker} (span : Span)
    (hkind : marker.kind = .placeholder) : (state.readPlaceholder marker span).VarsAgree := by
  unfold BodyState.readPlaceholder
  split
  · exact h.addText marker.text
  · rename_i entry _
    dsimp only
    have huse : VariableUse.IsOf
        (state.variableFor marker.name entry marker.isQuestion span)
        (.reference (state.variableFor marker.name entry marker.isQuestion span) marker.text) := by
      refine ⟨rfl, ?_⟩
      rw [name_variableFor]
      exact Marker.text_mem_placeholderTexts hkind
    rw [VarsAgree, vars_addNode]
    refine VariablesAgree.congr
      (VariablesAgree.insert h (state.isInsertion_register _ _ _ _) huse) fun use => ?_
    simp [Node.usesIn]

/-- `readOpening` preserves `VarsAgree`, as the block is not yet among the nodes. -/
theorem VarsAgree.readOpening (h : state.VarsAgree) (marker : Marker) (span : Span) :
    (state.readOpening marker span).VarsAgree := by
  unfold BodyState.readOpening
  split
  · exact h.addText marker.text
  · exact VariablesAgree.congr h fun use => by simp [Uses, Node.uses]

/-- `readClosing` preserves `VarsAgree`. A block that is closed uses its control variable. -/
theorem VarsAgree.readClosing (h : state.VarsAgree) (marker : Marker) :
    (state.readClosing marker).VarsAgree := by
  unfold BodyState.readClosing
  split
  · exact h.addText marker.text
  · rename_i frame frames hframes
    dsimp only
    split
    · have huse : VariableUse.IsOf
          (state.variableFor frame.marker.name frame.entry false frame.span)
          (.control frame.marker.name) := by
        rw [VariableUse.IsOf, name_variableFor]
      have hinsert := isInsertion_register { state with frames } frame.marker.name frame.entry
        false frame.span
      rw [VarsAgree, vars_addNode]
      refine VariablesAgree.congr (VariablesAgree.insert h hinsert huse) fun use => ?_
      -- the nodes in the block only move
      rw [uses_addNode, uses_register, Node.usesIn, List.mem_cons, Uses, Uses, hframes,
        List.exists_mem_cons_iff]
      grind
    · exact h.addText marker.text

/-- Reading a piece preserves `VarsAgree`. -/
theorem VarsAgree.readPiece (h : state.VarsAgree) (piece : Piece) :
    (state.readPiece piece).VarsAgree := by
  cases piece with
  | text chars => exact h.addText (String.ofList chars)
  | marker marker =>
    have hmarker : ∀ span, (state.readMarker marker span).VarsAgree := by
      intro span
      unfold BodyState.readMarker
      split
      · rename_i hkind
        exact h.readPlaceholder span hkind
      · exact h.readOpening marker span
      · exact h.readClosing marker
    exact hmarker _

/-! ### Whole bodies -/

theorem varsAgree_empty (header : Header) : VarsAgree { header } := by
  constructor
  · exact List.nodup_nil
  · rintro use (huse | ⟨frame, hframe, -⟩)
    · exact absurd huse (by simp [Node.uses])
    · exact absurd hframe (by simp)
  · exact fun target htarget => absurd htarget (by simp)

/-- A run of `readPiece` preserves `VarsAgree`. -/
theorem varsAgree_foldl_readPiece (h : state.VarsAgree) (pieces : List Piece) :
    (pieces.foldl BodyState.readPiece state).VarsAgree := by
  induction pieces generalizing state with
  | nil => exact h
  | cons piece pieces ih =>
    rw [List.foldl_cons]
    exact ih (h.readPiece piece)

/-- Writing `frames` back adds the uses in their nodes. -/
theorem mem_uses_foldl_pushFrame {nodes : List Node} {frames : List Frame} :
    use ∈ Node.uses (frames.foldl pushFrame nodes) ↔
      use ∈ Node.uses nodes ∨ ∃ frame ∈ frames, use ∈ Node.uses frame.content := by
  induction frames generalizing nodes with
  | nil => simp
  | cons frame frames ih =>
    rw [List.foldl_cons, ih, pushFrame, Node.mem_uses_pushAll, ← Node.push_text,
      Node.mem_uses_push, Node.usesIn, List.exists_mem_cons_iff]
    simp [or_assoc]

/-- `flatten` has the uses of `state`, in either order of recovery. -/
theorem mem_uses_flatten (state : BodyState) (recovery : Recovery) :
    use ∈ Node.uses (state.flatten recovery) ↔ state.Uses use := by
  cases recovery with
  | documentOrder =>
    rw [flatten, mem_uses_foldl_pushFrame]
    simp [Uses]
  | innermostFirst =>
    rw [flatten, Node.mem_uses_pushAll, mem_uses_foldl_pushFrame]
    simp [Uses, Node.uses, or_comm]

end BodyState

/-- `ParsedBody.vars` agrees with the uses in `ParsedBody.nodes`. -/
theorem variablesAgree_ofString (recovery : Recovery) (header : Header) (body : String) :
    VariablesAgree (ParsedBody.ofString recovery header body).vars
      (· ∈ Node.uses (ParsedBody.ofString recovery header body).nodes) := by
  have hstate := BodyState.varsAgree_foldl_readPiece (BodyState.varsAgree_empty header)
    (Piece.ofChars body.toList)
  simp only [ParsedBody.ofString_eq_ofPieces]
  exact VariablesAgree.congr hstate fun use => BodyState.mem_uses_flatten _ recovery

/-- `parsed.vars` has distinct names and consists of the variables used in `parsed.nodes`: every
reference is to one of them and has one of its `placeholderTexts` as its marker, every block is
controlled by one of them, and each of them has a reference or controls a block. -/
theorem variables_ofString (recovery : Recovery) (header : Header) (body : String) :
    let parsed := ParsedBody.ofString recovery header body
    (parsed.vars.map Variable.name).Nodup ∧
    (∀ target marker, .reference target marker ∈ Node.uses parsed.nodes →
      target ∈ parsed.vars ∧ marker ∈ placeholderTexts target.name) ∧
    (∀ control, .control control ∈ Node.uses parsed.nodes →
      ∃ target ∈ parsed.vars, target.name = control) ∧
    ∀ target ∈ parsed.vars,
      (∃ marker, .reference target marker ∈ Node.uses parsed.nodes) ∨
        .control target.name ∈ Node.uses parsed.nodes := by
  intro parsed
  have hagree : VariablesAgree parsed.vars (· ∈ Node.uses parsed.nodes) :=
    variablesAgree_ofString recovery header body
  refine ⟨hagree.nodup, ?_, ?_, ?_⟩
  · intro target marker huse
    obtain ⟨known, hknown, rfl, hmarker⟩ := hagree.of_use _ huse
    exact ⟨hknown, hmarker⟩
  · intro control huse
    obtain ⟨known, hknown, rfl⟩ := hagree.of_use _ huse
    exact ⟨known, hknown, rfl⟩
  · intro target htarget
    obtain ⟨use, huse, hof⟩ := hagree.exists_use target htarget
    cases use with
    | reference other marker =>
      obtain ⟨rfl, -⟩ := hof
      exact Or.inl ⟨marker, huse⟩
    | control name =>
      obtain rfl := hof
      exact Or.inr huse

end MarkdownTemplate
