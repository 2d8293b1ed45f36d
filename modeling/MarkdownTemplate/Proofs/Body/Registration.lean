import MarkdownTemplate.Proofs.Body.Liveness
import MarkdownTemplate.Proofs.Body.Variables

/-!
# Registration of variables

The first registration of a name fixes its variable. A placeholder that stands for a variable
registers it with its own place. A block registers its control variable late, when its closing
marker is read, but with the place of its opening marker. So the variables of a body are in the
order of these two kinds of markers, which in document order is that in which the nodes are
completed.

* `registrations`: the registrations of a body, in the order of the markers that trigger them;
* `RegisteredAs`: variables that are those of the first registrations;
* `BodyState.registers_foldl_readPiece`: they are when a part of a body is read;
* `registrations_forestOf`: the registrations of the forest of a body are those of its markers;
* `registrations_ofString`: the variables of a parsed body.
-/

namespace MarkdownTemplate

/-- What is recorded of a variable when it is put to use. -/
structure Registration where
  /-- The name. -/
  name : String
  /-- Whether a question mark makes it optional. -/
  isQuestion : Bool
  /-- The place of the marker that names it. -/
  span : Span

namespace Registration

/-- The registration of a placeholder. -/
def ofPlaceholder (found : PlacedMarker) : Registration :=
  ⟨found.1.name, found.1.isQuestion, found.2⟩

/-- The registration of a block, which has the place of its opening marker and no question mark. -/
def ofBlock (opening : PlacedMarker) : Registration :=
  ⟨opening.1.name, false, opening.2⟩

end Registration

/-- The registration that `marker` triggers: a placeholder that stands for a variable triggers its
own, and a closing marker that of its block. -/
def registration? (declares : String → Bool) (found : List PlacedMarker) (marker : PlacedMarker) :
    Option Registration :=
  if standsForVariable declares found marker then some (.ofPlaceholder marker)
  else
    ((blockPairs found).find? fun pair => pair.closing == marker).map fun pair =>
      .ofBlock pair.opening

/-- The registrations in the order of the markers that trigger them. -/
def registrations (declares : String → Bool) (found : List PlacedMarker) : List Registration :=
  found.filterMap (registration? declares found)

/-! ### Registrations of a forest -/

/-- The registration of a leaf whose label is a reference. -/
def leafRegistration? : PlacedPiece × Node → Option Registration
  | (placed, .reference _ _) => (Piece.placedMarker? placed).map .ofPlaceholder
  | _ => none

@[simp]
theorem leafRegistration?_text (placed : PlacedPiece) (written : String) :
    leafRegistration? (placed, .text written) = none := rfl

namespace Forest

/-- The registrations of a forest. A block comes after what is in it. -/
def registrations : Forest Node → List Registration
  | nil => []
  | leaf placed node rest => (leafRegistration? (placed, node)).toList ++ rest.registrations
  | block opening content _ rest =>
    content.registrations ++ .ofBlock opening :: rest.registrations

theorem collectsParts_registrations : CollectsParts registrations where
  nil := rfl
  leaf placed node := ⟨(leafRegistration? (placed, node)).toList, fun _ => rfl⟩
  block opening content _ :=
    ⟨content.registrations ++ [.ofBlock opening], fun _ => by simp [registrations]⟩

@[simp]
theorem registrations_append (first second : Forest Node) :
    (first ++ second).registrations = first.registrations ++ second.registrations :=
  collectsParts_registrations.append first second

end Forest

/-- A marker that becomes a leaf adds its `leafRegistration?`. -/
theorem Outline.registrations_read_of_isLoose {outline : Outline Node} {marker : Marker}
    {span : Span} (hloose : outline.IsLoose (marker, span)) (node : Node) :
    (outline.read ((.marker marker, span), node)).forest.registrations =
      outline.forest.registrations ++
        (leafRegistration? ((.marker marker, span), node)).toList := by
  have hread := Outline.read_of_isLoose hloose node
  rw [Piece.ofMarker] at hread
  rw [hread, forest_add, Forest.registrations_append, Forest.registrations, Forest.registrations,
    List.append_nil]

/-! ### First registrations -/

/-- `eraseDups` keeps a name at the end if it occurs nowhere before. -/
theorem eraseDups_concat (names : List String) (name : String) :
    (names ++ [name]).eraseDups =
      if name ∈ names then names.eraseDups else names.eraseDups ++ [name] := by
  rw [List.eraseDups_append, List.removeAll, List.filter_cons, List.filter_nil]
  by_cases hname : name ∈ names
  · simp [hname]
  · simp [hname, List.eraseDups_cons]

/-- `target` is built from the first of `events` with its name and from its entry in `header`. -/
def Variable.IsFixedBy (target : Variable) (events : List Registration) (header : Header) : Prop :=
  ∃ event entry, events.find? (fun event => event.name == target.name) = some event ∧
    header.find? target.name = some entry ∧
    target = ⟨event.name, entry.value, event.isQuestion || entry.isOptional, event.span⟩

/-- `vars` has one variable for each name of `events`, in the order of the first events. -/
structure RegisteredAs (vars : List Variable) (events : List Registration) (header : Header) :
    Prop where
  /-- The names are those of the registrations, each once. -/
  names : vars.map Variable.name = (events.map Registration.name).eraseDups
  /-- The first registration of a name fixes its variable. -/
  fixed : ∀ target ∈ vars, target.IsFixedBy events header

namespace RegisteredAs

variable {vars : List Variable} {events : List Registration} {header : Header}

theorem nil (header : Header) : RegisteredAs [] [] header :=
  ⟨rfl, fun target htarget => absurd htarget (by simp)⟩

/-- `RegisteredAs` is kept by a header with more declarations. -/
theorem mono (h : RegisteredAs vars events header) {other : Header}
    (hkept : ∀ name entry, header.find? name = some entry → other.find? name = some entry) :
    RegisteredAs vars events other := by
  refine ⟨h.names, fun target htarget => ?_⟩
  obtain ⟨event, entry, hfirst, hentry, htarget⟩ := h.fixed target htarget
  exact ⟨event, entry, hfirst, hkept _ _ hentry, htarget⟩

/-- Later registrations keep `Variable.IsFixedBy`. -/
theorem fixed_append (h : RegisteredAs vars events header) (more : List Registration) :
    ∀ target ∈ vars, target.IsFixedBy (events ++ more) header := by
  intro target htarget
  obtain ⟨event, entry, hfirst, hentry, htarget⟩ := h.fixed target htarget
  exact ⟨event, entry, by rw [List.find?_append, hfirst, Option.some_or], hentry, htarget⟩

/-- Inserting the variable of a new event keeps `RegisteredAs`. -/
theorem insert (h : RegisteredAs vars events header) {target : Variable} {new : List Variable}
    (hinsert : IsInsertion target vars new) {event : Registration}
    (hname : event.name = target.name)
    (hfresh : target.name ∉ vars.map Variable.name → target.IsFixedBy [event] header) :
    RegisteredAs new (events ++ [event]) header := by
  have hknown : target.name ∈ vars.map Variable.name ↔
      target.name ∈ events.map Registration.name := by
    rw [h.names, List.mem_eraseDups]
  rcases hinsert with ⟨hmem, rfl⟩ | ⟨hnew, rfl⟩
  -- the name is in use, so it is registered already
  · have hevents := hknown.mp (List.mem_map_of_mem hmem)
    refine ⟨?_, h.fixed_append [event]⟩
    rw [List.map_append, List.map_singleton, eraseDups_concat, hname, if_pos hevents, h.names]
  · have hvars : target.name ∉ vars.map Variable.name := by
      intro hmem
      obtain ⟨known, hmem, hsame⟩ := List.mem_map.mp hmem
      exact hnew known hmem hsame
    have hevents : target.name ∉ events.map Registration.name :=
      fun hmem => hvars (hknown.mpr hmem)
    constructor
    · rw [List.map_append, List.map_append, List.map_singleton, List.map_singleton,
        eraseDups_concat, hname, if_neg hevents, h.names]
    · rw [List.forall_mem_append, List.forall_mem_singleton]
      refine ⟨h.fixed_append [event], ?_⟩
      -- no earlier registration has this name, so the new one is the first
      obtain ⟨first, entry, hfirst, hentry, htarget⟩ := hfresh hvars
      refine ⟨first, entry, ?_, hentry, htarget⟩
      rw [List.find?_append, find?_key_eq_none_iff.mpr hevents, Option.none_or, hfirst]

end RegisteredAs

namespace BodyState

variable {state : BodyState} {events : List Registration}

/-- A name that is not in use gets its variable from `entry` and the marker. -/
theorem variableFor_of_not_mem {name : String} (hname : name ∉ state.vars.map Variable.name)
    (entry : Entry) (isOptional : Bool) (span : Span) :
    state.variableFor name entry isOptional span =
      ⟨name, entry.value, isOptional || entry.isOptional, span⟩ := by
  rw [variableFor, find?_key_eq_none_iff.mpr hname]
  rfl

/-- `BodyState.register` keeps `RegisteredAs` if the name is declared. -/
theorem registeredAs_register (state : BodyState)
    (h : RegisteredAs state.vars events state.header) (event : Registration) {entry : Entry}
    (hentry : state.header.find? event.name = some entry) :
    RegisteredAs
      (state.register (state.variableFor event.name entry event.isQuestion event.span)).vars
      (events ++ [event]) state.header := by
  refine h.insert (state.isInsertion_register _ _ _ _) (state.name_variableFor _ _ _ _).symm ?_
  rw [name_variableFor]
  intro hnew
  rw [variableFor_of_not_mem hnew]
  exact ⟨event, entry, by simp, hentry, rfl⟩

/-- The invariant of a run: `state.vars` comes from `events`, and every frame holds the declaration
of its name. -/
structure Registers (state : BodyState) (events : List Registration) : Prop where
  /-- The variables. -/
  vars : RegisteredAs state.vars events state.header
  /-- The open blocks. -/
  frames : ∀ frame ∈ state.frames, state.header.find? frame.marker.name = some frame.entry

theorem find?_of_declared? {name : String} {entry : Entry}
    (h : state.declared? name = some entry) : state.header.find? name = some entry := by
  unfold declared? at h
  split at h
  · exact absurd h (by simp)
  · exact h

namespace Registers

variable {outline : Outline Node} {marker : Marker}

/-- `addNode` registers nothing. -/
theorem addNode (h : state.Registers events) (node : Node) :
    (state.addNode node).Registers events := by
  refine ⟨by simpa using h.vars, ?_⟩
  have hframes := h.frames
  rw [header_addNode]
  unfold BodyState.addNode
  split
  · exact hframes
  · rename_i frame frames hcons
    rw [hcons, List.forall_mem_cons] at hframes
    exact List.forall_mem_cons.mpr hframes

/-- `keepAsText` registers nothing. -/
theorem keepAsText (h : state.Registers outline.forest.registrations) {span : Span}
    (hloose : outline.IsLoose (marker, span)) :
    (state.keepAsText marker).Registers
      (outline.read ((.marker marker, span), .text marker.text)).forest.registrations := by
  rw [Outline.registrations_read_of_isLoose hloose, leafRegistration?_text, Option.toList_none,
    List.append_nil]
  exact h.addNode (.text marker.text)

/-- `readPlaceholder` registers what its leaf does. -/
theorem readPlaceholder (h : state.Registers outline.forest.registrations)
    (hkind : marker.kind = .placeholder) :
    (state.readPlaceholder marker (state.nextSpan (.marker marker))).Registers
      (outline.read ((.marker marker, state.nextSpan (.marker marker)),
        state.leafNode (.marker marker))).forest.registrations := by
  have hloose : outline.IsLoose (marker, state.nextSpan (.marker marker)) :=
    Outline.isLoose_of_placeholder hkind
  unfold BodyState.readPlaceholder
  split
  · rename_i hnone
    rw [show state.leafNode (.marker marker) = .text marker.text by simp [leafNode, hkind, hnone]]
    exact h.keepAsText hloose
  · rename_i entry hsome
    -- the marker becomes a reference, and its registration comes last
    let event := Registration.ofPlaceholder (marker, state.nextSpan (.marker marker))
    have hentry : state.header.find? event.name = some entry := find?_of_declared? hsome
    have hevents : (outline.read ((.marker marker, state.nextSpan (.marker marker)),
        state.leafNode (.marker marker))).forest.registrations =
        outline.forest.registrations ++ [event] := by
      rw [Outline.registrations_read_of_isLoose hloose]
      simp [leafNode, hkind, hsome, leafRegistration?, event]
    rw [hevents]
    refine Registers.addNode ⟨?_, ?_⟩ _
    · rw [header_register]
      exact registeredAs_register state h.vars event hentry
    · rw [header_register, frames_register]
      exact h.frames

/-- `readOpening` registers nothing. -/
theorem readOpening (h : state.Registers outline.forest.registrations)
    (hkind : marker.kind = .opening) :
    (state.readOpening marker (state.nextSpan (.marker marker))).Registers
      (outline.read ((.marker marker, state.nextSpan (.marker marker)),
        state.leafNode (.marker marker))).forest.registrations := by
  rw [leafNode_of_kind_ne (by simp [hkind])]
  unfold BodyState.readOpening
  split
  · rename_i hname
    exact h.keepAsText (Outline.isLoose_of_opening hkind hname)
  · rename_i hname
    have hopens : marker.opensBlock = true := Marker.opensBlock_iff.mpr ⟨hkind, hname⟩
    rw [Outline.read_of_opensBlock hopens, Outline.forest_openBlock, Forest.registrations_append,
      Forest.registrations, leafRegistration?_text, Forest.registrations, Option.toList_none,
      List.append_nil, List.append_nil]
    refine ⟨h.vars.mono fun _ _ hfind => Header.find?_insertIfNew_of_eq_some hfind,
      List.forall_mem_cons.mpr ⟨?_, fun frame hframe => ?_⟩⟩
    -- the block has the declaration that its name has from now on, whether it had one before or not
    · rw [Header.find?_insertIfNew, if_pos rfl]
      cases state.header.find? marker.name <;> rfl
    · exact Header.find?_insertIfNew_of_eq_some (h.frames frame hframe)

/-- `readClosing` registers the control variable of the block. -/
theorem readClosing (h : state.Registers outline.forest.registrations)
    (houtline : state.IsOutlinedBy outline) (hkind : marker.kind = .closing) :
    (state.readClosing marker).Registers
      (outline.read ((.marker marker, state.nextSpan (.marker marker)),
        state.leafNode (.marker marker))).forest.registrations := by
  rw [leafNode_of_kind_ne (by simp [hkind])]
  rcases houtline.readClosing_cases hkind (state.nextSpan (.marker marker)) with ⟨hloose, hread⟩ |
    ⟨frame, frames, innermost, outer, hstate, hopened, hframe, hrest, hcloses, hread⟩
  · rw [hread]
    exact h.keepAsText hloose
  · have hframes := h.frames
    rw [hstate, List.forall_mem_cons] at hframes
    let event := Registration.ofBlock (frame.marker, frame.span)
    have hentry : state.header.find? event.name = some frame.entry := hframes.1
    -- what was registered in the block stays before it, and its opening marker registered nothing
    have hevents : (outline.read ((.marker marker, state.nextSpan (.marker marker)),
        .text marker.text)).forest.registrations = outline.forest.registrations ++ [event] := by
      rw [Outline.read_of_closesBlock hopened hcloses, Outline.forest_closeBlock,
        Outline.forest_of_opened_eq_cons hopened]
      simp [Forest.registrations, hframe.label, hframe.opening, event]
    rw [hread, hevents]
    -- the entry was looked up when the block was opened, and no declaration changed since then
    refine Registers.addNode ⟨?_, ?_⟩ _
    · rw [header_register]
      exact registeredAs_register { state with frames } h.vars event hentry
    · rw [header_register, frames_register]
      exact hframes.2

/-- Reading a piece registers what reading it adds to the outline. -/
theorem readPiece (h : state.Registers outline.forest.registrations)
    (houtline : state.IsOutlinedBy outline) (piece : Piece) :
    (state.readPiece piece).Registers
      (outline.read
        ((piece, state.nextSpan piece), state.leafNode piece)).forest.registrations := by
  cases piece with
  | text chars =>
    have hadd := h.addNode (.text (String.ofList chars))
    have hread : (outline.read ((.text chars, state.nextSpan (.text chars)),
        state.leafNode (.text chars))).forest.registrations = outline.forest.registrations := by
      rw [Outline.read, Outline.forest_add, Forest.registrations_append]
      simp [Forest.registrations, leafNode]
    rw [hread]
    exact ⟨hadd.vars, hadd.frames⟩
  | marker marker =>
    have hmarker : (state.readMarker marker (state.nextSpan (.marker marker))).Registers
        (outline.read ((.marker marker, state.nextSpan (.marker marker)),
          state.leafNode (.marker marker))).forest.registrations := by
      unfold BodyState.readMarker
      split
      · rename_i hkind
        exact h.readPlaceholder hkind
      · rename_i hkind
        exact h.readOpening hkind
      · rename_i hkind
        exact h.readClosing houtline hkind
    exact ⟨hmarker.vars, hmarker.frames⟩

end Registers

theorem registers_empty (header : Header) : Registers { header } [] :=
  ⟨RegisteredAs.nil header, fun frame hframe => absurd hframe (by simp)⟩

/-- Reading pieces registers what reading them adds to the outline. -/
theorem registers_foldl_readPiece {outline : Outline Node} (houtline : state.IsOutlinedBy outline)
    (h : state.Registers outline.forest.registrations) (pieces : List Piece) :
    (pieces.foldl BodyState.readPiece state).Registers
      ((state.entries pieces).foldl Outline.read outline).forest.registrations := by
  induction pieces generalizing state outline with
  | nil => exact h
  | cons piece pieces ih =>
    rw [entries, List.foldl_cons, List.foldl_cons]
    exact ih (houtline.readPiece piece) (h.readPiece houtline piece)

end BodyState

/-! ### Forests and markers -/

section Forests

variable {declares : String → Bool} {found : List PlacedMarker} {forest : Forest Node}

/-- A marker that neither stands for a variable nor closes a block triggers no registration. -/
theorem registration?_eq_none {marker : PlacedMarker}
    (hlive : standsForVariable declares found marker = false)
    (hclosing : marker ∉ (blockPairs found).map BlockPair.closing) :
    registration? declares found marker = none := by
  rw [registration?, hlive, if_neg (by simp), find?_key_eq_none_iff.mpr hclosing, Option.map_none]

/-- The closing marker of a pair triggers the registration of its opening marker. -/
theorem registration?_closing (hclosings : ((blockPairs found).map BlockPair.closing).Nodup)
    {pair : BlockPair} (hpair : pair ∈ blockPairs found) :
    registration? declares found pair.closing = some (.ofBlock pair.opening) := by
  have hkind := (Marker.closesBlock_iff.mp (mem_of_mem_blockPairs hpair).2.2.2).1
  rw [registration?, standsForVariable_eq_false (by simp [hkind]), if_neg (by simp),
    (find?_key_eq_some_iff hclosings).mpr ⟨hpair, rfl⟩, Option.map_some]

/-- A leaf that closes no block has the `registration?` of its marker. -/
theorem leafRegistration?_of_isLeafOf {placed : PlacedPiece} {node : Node}
    (hleaf : IsLeafOf declares found placed node)
    (hclosing : ∀ marker, Piece.placedMarker? placed = some marker →
      marker ∉ (blockPairs found).map BlockPair.closing) :
    leafRegistration? (placed, node) =
      (Piece.placedMarker? placed).bind (registration? declares found) := by
  cases hleaf with
  | text placed hlive =>
    cases hmarker : Piece.placedMarker? placed with
    | none => rfl
    | some marker =>
      exact (registration?_eq_none (hlive marker hmarker) (hclosing marker hmarker)).symm
  | reference marker target hlive hname => simp [leafRegistration?, registration?, hlive]

/-- The registrations of a forest are those that its markers trigger, if this holds of each leaf and
each pair. -/
theorem Forest.registrations_eq_filterMap
    (hleaves : ∀ leaf ∈ forest.leaves,
      leafRegistration? leaf = (Piece.placedMarker? leaf.1).bind (registration? declares found))
    (hpairs : ∀ pair ∈ forest.pairs, registration? declares found pair.opening = none ∧
      registration? declares found pair.closing = some (.ofBlock pair.opening)) :
    forest.registrations =
      (forest.pieces.filterMap Piece.placedMarker?).filterMap (registration? declares found) := by
  induction forest with
  | nil => rfl
  | leaf placed node rest ih =>
    rw [leaves, List.forall_mem_cons] at hleaves
    rw [registrations, hleaves.1, ih hleaves.2 hpairs, pieces, List.filterMap_cons]
    cases Piece.placedMarker? placed with
    | none => rfl
    | some marker =>
      rw [Option.bind_some, List.filterMap_cons]
      cases registration? declares found marker <;> rfl
  | block opening content closing rest ihContent ihRest =>
    simp only [leaves, List.forall_mem_append] at hleaves
    simp only [pairs, List.forall_mem_cons, List.forall_mem_append] at hpairs
    -- the closing marker comes right after the content, as the registration of the block does
    obtain ⟨⟨hopening, hclosing⟩, hcontent, hrest⟩ := hpairs
    rw [registrations, ihContent hleaves.1 hcontent, ihRest hleaves.2 hrest, pieces]
    simp [hopening, hclosing]

/-- `Node.liveNames` lists the names of the registrations in their order. -/
theorem liveNames_nodes
    (hleaves : ∀ leaf ∈ forest.leaves, IsLeafOf declares found leaf.1 leaf.2) :
    Node.liveNames forest.nodes = forest.registrations.map Registration.name := by
  -- `liveNames` cuts text, so it does not see where pushed nodes are joined
  induction forest with
  | nil => rfl
  | leaf placed node rest ih =>
    rw [Forest.leaves, List.forall_mem_cons] at hleaves
    have hleaf : IsLeafOf declares found placed node := hleaves.1
    have hname : node.liveNamesIn =
        (leafRegistration? (placed, node)).toList.map Registration.name := by
      cases hleaf with
      | text placed hlive => rfl
      | reference marker target hlive hname =>
        simp [Node.liveNamesIn, leafRegistration?, Registration.ofPlaceholder, hname]
    rw [Node.liveNames_eq_flatMap, Forest.flatMap_nodes_leaf Node.cutsText_liveNamesIn,
      ← Node.liveNames_eq_flatMap, ih hleaves.2, Forest.registrations, List.map_append, hname]
  | block opening content closing rest ihContent ihRest =>
    simp only [Forest.leaves, List.forall_mem_append] at hleaves
    rw [Node.liveNames_eq_flatMap, Forest.flatMap_nodes_block Node.cutsText_liveNamesIn,
      ← Node.liveNames_eq_flatMap, ihRest hleaves.2, Node.liveNamesIn, ihContent hleaves.1,
      Forest.registrations, List.map_append, List.append_assoc]
    rfl

end Forests

/-! ### Bodies -/

section Bodies

variable (header : Header) (body : String)

/-- The registrations of `forestOf` are those that the markers of the body trigger. -/
theorem registrations_forestOf :
    (forestOf header body).registrations = registrations header.declares (markers body) := by
  have hmarkers : (forestOf header body).pieces.filterMap Piece.placedMarker? = markers body := by
    rw [pieces_forestOf, markers_eq_filterMap]
  have hnodup : (markers body).Nodup := by
    rw [List.nodup_iff_pairwise_ne]
    refine (markers_pairwise body).imp ?_
    rintro first _ hlt rfl
    exact Nat.lt_irrefl _ hlt
  -- no marker is both that of a leaf and around a block, or at both ends of blocks
  have hperm := (forestOf header body).markers_perm
  rw [hmarkers, pairs_forestOf] at hperm
  obtain ⟨-, hends, hleaf⟩ := List.nodup_append.mp (hperm.nodup_iff.mp hnodup)
  obtain ⟨-, hclosings, hopening⟩ := List.nodup_append.mp hends
  rw [registrations, ← hmarkers]
  apply Forest.registrations_eq_filterMap
  · intro leaf hmem
    rw [hmarkers]
    refine leafRegistration?_of_isLeafOf (isLeafOf_of_mem_leaves header body leaf hmem) ?_
    intro marker hmarker hclosing
    exact hleaf marker (List.mem_filterMap.mpr ⟨leaf, hmem, hmarker⟩) marker
      (List.mem_append_right _ hclosing) rfl
  · intro pair hpair
    rw [pairs_forestOf] at hpair
    rw [hmarkers]
    refine ⟨registration?_eq_none ?_ ?_, registration?_closing hclosings hpair⟩
    · have hkind := (Marker.opensBlock_iff.mp (mem_of_mem_blockPairs hpair).2.2.1).1
      exact standsForVariable_eq_false (by simp [hkind])
    · exact fun hclosing => hopening _ (List.mem_map_of_mem hpair) _ hclosing rfl

end Bodies

/-- `parsed.vars` is determined by `registrations`, the uses of variables in the order of the
markers that complete them (a placeholder, or the closing marker of a block). It has one variable
for each name, in the order of the first uses. The first use of a name fixes `span`, the final
header fixes `description`, and either makes it optional. Every reference in `parsed.nodes` is to a
variable in `parsed.vars`. In `Recovery.documentOrder`, `events` has the names of `Node.liveNames`
in the same order. -/
theorem registrations_ofString (recovery : Recovery) (header : Header) (body : String) :
    let parsed := ParsedBody.ofString recovery header body
    let events := registrations header.declares (markers body)
    parsed.vars.map Variable.name = (events.map Registration.name).eraseDups ∧
    (∀ target ∈ parsed.vars, ∃ event entry,
      events.find? (fun event => event.name == target.name) = some event ∧
      parsed.header.find? target.name = some entry ∧
      target = ⟨event.name, entry.value, event.isQuestion || entry.isOptional, event.span⟩) ∧
    (∀ target marker, .reference target marker ∈ Node.uses parsed.nodes →
      target ∈ parsed.vars) ∧
    (recovery = .documentOrder →
      Node.liveNames parsed.nodes = events.map Registration.name ∧
        parsed.vars.map Variable.name = (Node.liveNames parsed.nodes).eraseDups) := by
  intro parsed events
  have hparsed : parsed = ParsedBody.ofPieces recovery header (Piece.ofChars body.toList) :=
    ParsedBody.ofString_eq_ofPieces recovery header body
  -- the run registers the events of the forest, and these are the events of the markers
  have hregisters : RegisteredAs parsed.vars events parsed.header := by
    have hstate := BodyState.registers_foldl_readPiece (BodyState.isOutlinedBy_empty header)
      (BodyState.registers_empty header) (Piece.ofChars body.toList)
    rw [← outlineOf, ← forestOf, registrations_forestOf] at hstate
    rw [hparsed]
    exact hstate.vars
  refine ⟨hregisters.names, hregisters.fixed, ?_, ?_⟩
  · intro target marker huse
    obtain ⟨known, hknown, rfl, -⟩ :=
      (variablesAgree_ofString recovery header body).of_use _ huse
    exact hknown
  · rintro rfl
    have hnames : Node.liveNames parsed.nodes = events.map Registration.name := by
      have hnodes : parsed.nodes = (forestOf header body).nodes := nodes_ofString header body
      rw [hnodes, liveNames_nodes (isLeafOf_of_mem_leaves header body), registrations_forestOf]
    exact ⟨hnames, by rw [hnames, hregisters.names]⟩

/-- A block registers after what is in it, but with the place of its opening marker. -/
example : (ParsedBody.ofString .documentOrder .empty
    "#{?b}#{?a}#{b}#{/a}#{/b}").vars.map
      (fun target => (target.name, target.span)) = [("b", ⟨10, 14⟩), ("a", ⟨5, 10⟩)] := by
  cbv

end MarkdownTemplate
