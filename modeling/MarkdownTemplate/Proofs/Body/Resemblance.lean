import MarkdownTemplate.Proofs.Body.Declarations
import MarkdownTemplate.Proofs.Body.Variables
import MarkdownTemplate.Proofs.Node.Retarget

/-!
# Runs that resemble each other

Two runs over bodies resemble each other if they differ in places only: in where pieces stand, in
how the markers of closed blocks are spelled, and in what was read before one of them began. What
was read before leaves nodes and variables. The variables matter, as the first use of a name fixes
its variable for all later ones.

* `Variable.amid`: a variable as it is where others are in use;
* `BodyState.Resembles`: the relation of two states;
* `BodyState.ReadsAlike`: pieces that do the same when they are read;
* `BodyState.Resembles.readPiece` and `BodyState.Resembles.foldl_readPiece`: states resemble each
  other after such pieces;
* `BodyState.Resembles.flatten`: the nodes at the end.
-/

namespace MarkdownTemplate

namespace Variable

/-- `target` with an empty span in place of its own. -/
def unplaced (target : Variable) : Variable :=
  { target with span := ⟨0, 0⟩ }

/-- The variable used for `target` when `known` are in use: the one of its name in `known`, or else
`target`. Its place is dropped. -/
def amid (known : List Variable) (target : Variable) : Variable :=
  ((known.find? fun other => other.name == target.name).getD target).unplaced

@[simp]
theorem name_unplaced (target : Variable) : target.unplaced.name = target.name := rfl

variable {known : List Variable} {target : Variable}

@[simp]
theorem name_amid (known : List Variable) (target : Variable) :
    (target.amid known).name = target.name := by
  rw [amid, name_unplaced]
  cases hfind : known.find? fun other => other.name == target.name with
  | none => rfl
  | some other => simpa using List.find?_some hfind

/-- `amid` is `unplaced` on a name that is not in `known`. -/
theorem amid_of_not_mem (h : target.name ∉ known.map name) :
    target.amid known = target.unplaced := by
  rw [amid, find?_key_eq_none_iff.mpr h, Option.getD_none]

/-- `amid` depends only on the name if this is in `known`. -/
theorem amid_eq_of_mem {other : Variable} (h : target.name ∈ known.map name)
    (hname : other.name = target.name) : other.amid known = target.amid known := by
  rw [amid, amid, hname]
  cases hfind : known.find? fun known => known.name == target.name with
  | none => exact absurd h (find?_key_eq_none_iff.mp hfind)
  | some found => rfl

end Variable

namespace BodyState

/-- `variableFor` up to places depends on `state.vars` up to places and on `entry`. -/
theorem unplaced_variableFor (state : BodyState) (name : String) (entry : Entry)
    (isOptional : Bool) (span : Span) :
    (state.variableFor name entry isOptional span).unplaced =
      ((state.vars.map Variable.unplaced).find? fun known => known.name == name).getD
        ⟨name, entry.value, isOptional || entry.isOptional, ⟨0, 0⟩⟩ := by
  rw [variableFor, List.find?_map]
  change _ = ((state.vars.find? fun known => known.name == name).map Variable.unplaced).getD _
  cases state.vars.find? fun known => known.name == name <;> rfl

/-- `register` adds `target` to `vars` if its name is new. -/
theorem map_unplaced_register (state : BodyState) (target : Variable) :
    (state.register target).vars.map Variable.unplaced =
      if target.name ∈ state.vars.map Variable.name then state.vars.map Variable.unplaced
      else state.vars.map Variable.unplaced ++ [target.unplaced] := by
  have hany : (state.vars.any fun known => known.name == target.name) = true ↔
      target.name ∈ state.vars.map Variable.name := by
    simp only [List.any_eq_true, beq_iff_eq, List.mem_map]
  rw [register]
  by_cases hname : target.name ∈ state.vars.map Variable.name
  · rw [if_pos (hany.mpr hname), if_pos hname]
  · rw [if_neg (mt hany.mp hname), if_neg hname, List.map_append, List.map_singleton]

end BodyState

/-! ### Resembling states -/

section Resembling

variable (known : List Variable)

/-- The frames have the same name and entry, and the same nodes up to `Variable.amid known`. -/
structure Frame.Resembles (first second : Frame) : Prop where
  /-- The name of the block. -/
  name : first.marker.name = second.marker.name
  /-- The declaration of its control variable. -/
  entry : first.entry = second.entry
  /-- The nodes in it. -/
  content : Node.retarget (.amid known) first.content = Node.retarget (.amid known) second.content

/-- `first` has what `second` has, with the nodes `before` and the variables `known` in front.
Places of variables and spellings of opening markers may differ. -/
structure BodyState.Resembles (before : List Node) (first second : BodyState) : Prop where
  /-- The declared variables are the same. -/
  header : first.header = second.header
  /-- The variables in use are those from before, and then the new ones. -/
  vars : first.vars.map Variable.unplaced = known.map Variable.unplaced ++
    (second.vars.map Variable.unplaced).filter fun target => target.name ∉ known.map Variable.name
  /-- The nodes outside all open blocks come after those from before. -/
  root : Node.retarget (.amid known) first.root =
    Node.pushAll (Node.retarget (.amid known) before) (Node.retarget (.amid known) second.root)
  /-- The open blocks are the same. -/
  frames : List.Forall₂ (Frame.Resembles known) first.frames second.frames

end Resembling

namespace BodyState

/-- The two pieces have the same effect in `state`: they are equal, or open blocks of one name, or
both close the innermost block. -/
inductive ReadsAlike (state : BodyState) : Piece → Piece → Prop
  | same (piece : Piece) : ReadsAlike state piece piece
  | opening (marker other : Marker) (hopens : marker.opensBlock = true)
      (hother : other.opensBlock = true) (hname : marker.name = other.name) :
      ReadsAlike state (.marker marker) (.marker other)
  | closing (marker other : Marker) (frame : Frame) (frames : List Frame)
      (hframes : state.frames = frame :: frames)
      (hcloses : marker.closesBlock frame.marker.name = true)
      (hother : other.closesBlock frame.marker.name = true) :
      ReadsAlike state (.marker marker) (.marker other)

namespace Resembles

variable {known : List Variable} {before : List Node} {first second : BodyState}

/-- `first.vars` has the names in `known` and then the others in `second.vars`. -/
theorem map_name_vars (h : first.Resembles known before second) :
    first.vars.map Variable.name = known.map Variable.name ++
      (second.vars.map Variable.name).filter (· ∉ known.map Variable.name) := by
  have hnames := congrArg (List.map Variable.name) h.vars
  rw [List.map_append, List.filter_map, List.map_map, List.map_map, List.map_map] at hnames
  rw [List.filter_map]
  exact hnames

/-- `declared?` is the same in both states. -/
theorem declared?_eq (h : first.Resembles known before second) (name : String) :
    first.declared? name = second.declared? name := by
  rw [declared?, declared?, h.header]

/-- `variableFor` gives the same variable in both states, up to `Variable.amid known`. -/
theorem amid_variableFor (h : first.Resembles known before second) (name : String) (entry : Entry)
    (isOptional : Bool) (span other : Span) :
    (first.variableFor name entry isOptional span).amid known =
      (second.variableFor name entry isOptional other).amid known := by
  by_cases hname : name ∈ known.map Variable.name
  · exact Variable.amid_eq_of_mem (by rwa [name_variableFor])
      (by rw [name_variableFor, name_variableFor])
  -- the name is new, so it is not found among the variables from before
  · have hknown : ((known.map Variable.unplaced).find? fun target => target.name == name) =
        none := by
      rw [find?_key_eq_none_iff, List.map_map]
      exact hname
    have hnew : ((second.vars.map Variable.unplaced).filter fun target =>
          target.name ∉ known.map Variable.name).find? (fun target => target.name == name) =
        (second.vars.map Variable.unplaced).find? fun target => target.name == name := by
      rw [List.find?_filter]
      congr 1
      funext target
      by_cases htarget : target.name = name
      · simp [htarget, hname]
      · simp [htarget]
    rw [Variable.amid_of_not_mem (by rwa [name_variableFor]),
      Variable.amid_of_not_mem (by rwa [name_variableFor]), unplaced_variableFor,
      unplaced_variableFor, h.vars, List.find?_append, hknown, Option.none_or, hnew]

theorem frames_eq_nil (h : first.Resembles known before second) (hframes : second.frames = []) :
    first.frames = [] := by
  have hall := h.frames
  rwa [hframes, List.forall₂_nil_right_iff] at hall

/-- If `second` has an innermost frame, then so has `first`, and the two resemble each other. -/
theorem exists_frames_eq_cons (h : first.Resembles known before second) {frame : Frame}
    {frames : List Frame} (hframes : second.frames = frame :: frames) :
    ∃ frame' frames', first.frames = frame' :: frames' ∧ frame'.Resembles known frame ∧
      List.Forall₂ (Frame.Resembles known) frames' frames := by
  have hall := h.frames
  rw [hframes] at hall
  obtain ⟨frame', frames', hframe, hrest, hfirst⟩ := List.forall₂_cons_right_iff.mp hall
  exact ⟨frame', frames', hfirst, hframe, hrest⟩

/-- Nodes that are equal up to `Variable.amid known` may be added. -/
theorem addNode (h : first.Resembles known before second) {node other : Node}
    (hnode : node.retargetIn (.amid known) = other.retargetIn (.amid known)) :
    (first.addNode node).Resembles known before (second.addNode other) := by
  cases hframes : second.frames with
  | nil =>
    simp only [BodyState.addNode, hframes, h.frames_eq_nil hframes]
    refine ⟨h.header, h.vars, ?_, List.Forall₂.nil⟩
    rw [Node.retarget_push, h.root, hnode, Node.retarget_push, Node.pushAll_push]
  | cons frame frames =>
    obtain ⟨frame', frames', hfirst, hframe, hrest⟩ := h.exists_frames_eq_cons hframes
    simp only [BodyState.addNode, hfirst, hframes]
    refine ⟨h.header, h.vars, h.root, List.Forall₂.cons ⟨hframe.name, hframe.entry, ?_⟩ hrest⟩
    rw [Node.retarget_push, hframe.content, hnode, Node.retarget_push]

/-- Variables that are equal up to `Variable.amid known` may be registered. -/
theorem register (h : first.Resembles known before second) {target other : Variable}
    (htarget : target.amid known = other.amid known) :
    (first.register target).Resembles known before (second.register other) := by
  have hname : target.name = other.name := by
    rw [← target.name_amid known, htarget, Variable.name_amid]
  refine ⟨by rw [header_register, header_register, h.header], ?_,
    by rw [root_register, root_register, h.root],
    by rw [frames_register, frames_register]; exact h.frames⟩
  have hfirst : other.name ∈ first.vars.map Variable.name ↔
      other.name ∈ known.map Variable.name ∨ other.name ∈ second.vars.map Variable.name := by
    rw [h.map_name_vars, List.mem_append, List.mem_filter]
    by_cases hknown : other.name ∈ known.map Variable.name
    · simp only [hknown, true_or]
    · simp [hknown]
  rw [map_unplaced_register, map_unplaced_register, hname, h.vars]
  by_cases hknown : other.name ∈ known.map Variable.name
  -- a name from before is in use in the first state, and does not count as new in the second
  · have hdropped : ([other.unplaced].filter fun target =>
        target.name ∉ known.map Variable.name) = [] :=
      List.filter_cons_of_neg (by simpa using hknown)
    rw [if_pos (hfirst.mpr (Or.inl hknown))]
    split
    · rfl
    · rw [List.filter_append, hdropped, List.append_nil]
  · have hkept : ([other.unplaced].filter fun target =>
        target.name ∉ known.map Variable.name) = [target.unplaced] := by
      rw [Variable.amid_of_not_mem (by rwa [hname]), Variable.amid_of_not_mem hknown] at htarget
      rw [htarget]
      exact List.filter_cons_of_pos (by simpa using hknown)
    by_cases hsecond : other.name ∈ second.vars.map Variable.name
    · rw [if_pos (hfirst.mpr (Or.inr hsecond)), if_pos hsecond]
    · rw [if_neg (by rw [hfirst]; exact not_or.mpr ⟨hknown, hsecond⟩), if_neg hsecond,
        List.filter_append, hkept, List.append_assoc]

/-- Both states may keep one marker as text. -/
theorem keepAsText (h : first.Resembles known before second) (marker : Marker) :
    (first.keepAsText marker).Resembles known before (second.keepAsText marker) :=
  h.addNode rfl

theorem readPlaceholder (h : first.Resembles known before second) (marker : Marker)
    (span other : Span) :
    (first.readPlaceholder marker span).Resembles known before
      (second.readPlaceholder marker other) := by
  rw [BodyState.readPlaceholder, BodyState.readPlaceholder, h.declared?_eq]
  cases second.declared? marker.name with
  | none => exact h.keepAsText marker
  | some entry =>
    have htarget := h.amid_variableFor marker.name entry marker.isQuestion span other
    refine (h.register htarget).addNode ?_
    rw [Node.retargetIn, Node.retargetIn, htarget]

/-- Both states may read opening markers of one name. -/
theorem readOpening (h : first.Resembles known before second) {marker other : Marker}
    (hname : marker.name = other.name) (hnonempty : other.name ≠ "") (span place : Span) :
    (first.readOpening marker span).Resembles known before (second.readOpening other place) := by
  rw [BodyState.readOpening, BodyState.readOpening, hname, if_neg hnonempty, if_neg hnonempty,
    h.header]
  exact ⟨rfl, h.vars, h.root, List.Forall₂.cons ⟨hname, rfl, rfl⟩ h.frames⟩

/-- Both states may close their innermost frames. -/
theorem closeBlock (h : first.Resembles known before second) {marker other : Marker}
    {frame : Frame} {frames : List Frame} (hframes : second.frames = frame :: frames)
    (hmarker : marker.name = "" ∨ marker.name = frame.marker.name)
    (hother : other.name = "" ∨ other.name = frame.marker.name) :
    (first.readClosing marker).Resembles known before (second.readClosing other) := by
  obtain ⟨frame', frames', hfirst, hframe, hrest⟩ := h.exists_frames_eq_cons hframes
  have hclosed : BodyState.Resembles known before { first with frames := frames' }
      { second with frames } := ⟨h.header, h.vars, h.root, hrest⟩
  have htarget := hclosed.amid_variableFor frame.marker.name frame.entry false frame'.span
    frame.span
  simp only [BodyState.readClosing, hfirst, hframes, hframe.name, hframe.entry, if_pos hmarker,
    if_pos hother]
  refine (hclosed.register htarget).addNode ?_
  rw [Node.retargetIn, Node.retargetIn, hframe.content]

/-- Both states may read one closing marker. -/
theorem readClosing (h : first.Resembles known before second) (marker : Marker) :
    (first.readClosing marker).Resembles known before (second.readClosing marker) := by
  cases hframes : second.frames with
  | nil =>
    rw [BodyState.readClosing, h.frames_eq_nil hframes, BodyState.readClosing, hframes]
    exact h.keepAsText marker
  | cons frame frames =>
    by_cases hmatch : marker.name = "" ∨ marker.name = frame.marker.name
    · exact h.closeBlock hframes hmatch hmatch
    · obtain ⟨frame', frames', hfirst, hframe, -⟩ := h.exists_frames_eq_cons hframes
      simp only [BodyState.readClosing, hfirst, hframes, hframe.name, if_neg hmatch]
      exact h.keepAsText marker

/-- Both states may read one marker, in any places. -/
theorem readMarker (h : first.Resembles known before second) (marker : Marker)
    (span other : Span) :
    (first.readMarker marker span).Resembles known before (second.readMarker marker other) := by
  rw [BodyState.readMarker, BodyState.readMarker]
  cases marker.kind with
  | placeholder => exact h.readPlaceholder marker span other
  | opening =>
    by_cases hname : marker.name = ""
    · simp only [BodyState.readOpening, if_pos hname]
      exact h.keepAsText marker
    · exact h.readOpening rfl hname span other
  | closing => exact h.readClosing marker

/-- `Resembles` does not depend on `offset`. -/
theorem withOffset (h : first.Resembles known before second) (offset other : Nat) :
    BodyState.Resembles known before { first with offset } { second with offset := other } :=
  ⟨h.header, h.vars, h.root, h.frames⟩

/-- `Resembles` is preserved by pieces that satisfy `ReadsAlike`. -/
theorem readPiece (h : first.Resembles known before second) {piece other : Piece}
    (hreads : second.ReadsAlike piece other) :
    (first.readPiece piece).Resembles known before (second.readPiece other) := by
  cases hreads with
  | same =>
    cases piece with
    | text chars => exact (h.addNode rfl).withOffset _ _
    | marker marker => exact (h.readMarker marker _ _).withOffset _ _
  -- what is kept of an opening marker is its name
  | opening marker marker' hopens hother hname =>
    obtain ⟨hkind, -⟩ := Marker.opensBlock_iff.mp hopens
    obtain ⟨hkind', hnonempty⟩ := Marker.opensBlock_iff.mp hother
    simp only [BodyState.readPiece, BodyState.readMarker, hkind, hkind']
    exact (h.readOpening hname hnonempty _ _).withOffset _ _
  | closing marker marker' frame frames hframes hcloses hother =>
    obtain ⟨hkind, hmatch⟩ := Marker.closesBlock_iff.mp hcloses
    obtain ⟨hkind', hmatch'⟩ := Marker.closesBlock_iff.mp hother
    simp only [BodyState.readPiece, BodyState.readMarker, hkind, hkind']
    exact (h.closeBlock hframes hmatch hmatch').withOffset _ _

/-- `Resembles` is preserved by a run over the same pieces. -/
theorem foldl_readPiece (h : first.Resembles known before second) (pieces : List Piece) :
    (pieces.foldl BodyState.readPiece first).Resembles known before
      (pieces.foldl BodyState.readPiece second) := by
  induction pieces generalizing first second with
  | nil => exact h
  | cons piece pieces ih => exact ih (h.readPiece (.same piece))

/-- At the end, `first` has the nodes of `second` with `before` in front, if the open frames have
the same markers. -/
theorem flatten (h : first.Resembles known before second)
    (hmarkers : first.frames.map Frame.marker = second.frames.map Frame.marker) :
    Node.retarget (.amid known) (first.flatten .documentOrder) =
      Node.pushAll (Node.retarget (.amid known) before)
        (Node.retarget (.amid known) (second.flatten .documentOrder)) := by
  rw [BodyState.flatten, BodyState.flatten, List.foldl_reverse, List.foldl_reverse]
  -- by induction on the open blocks from the outermost to the innermost
  have hframes := h.frames
  generalize first.frames = frames at hframes hmarkers
  generalize second.frames = others at hframes hmarkers
  induction hframes with
  | nil => exact h.root
  | @cons frame other frames others hframe _ ih =>
    obtain ⟨hmarker, hmarkers⟩ := List.cons.inj hmarkers
    rw [List.foldr_cons, List.foldr_cons, pushFrame, pushFrame, Node.retarget_pushAll,
      Node.retarget_pushText, ih hmarkers, hframe.content, Node.retarget_pushAll,
      Node.retarget_pushText, hmarker, Node.pushAll_pushAll, ← Node.push_text, ← Node.push_text,
      Node.pushAll_push]

end Resembles

end BodyState

end MarkdownTemplate
