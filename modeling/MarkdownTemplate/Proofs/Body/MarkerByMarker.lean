import MarkdownTemplate.Proofs.Body.Declarations

/-!
# Reading a body marker by marker

A body can be read along the list of its markers: what stands between two markers is cut out of the
body by its position, the body itself and the blocks that are open in it are on one stack, and the
declaration of a control variable is looked up when its block is closed. Each of these steps is one
that could fail, and a failure is a `ReadingFault`. None of them fails as long as the cursor is on a
character boundary and the open blocks are declared, and each of them keeps it so.

* `BodyScan`: the state of such a reading;
* `BodyScan.readMarker` and `BodyScan.finish`: its steps and its end;
* `ParsedBody.ofMarkers`: the whole reading;
* `BodyScan.IsSound`: what keeps its steps from failing;
* `BodyScan.IsSound.readMarker` and `BodyScan.IsSound.foldlM_readMarker`: one marker, and many;
* `BodyScan.IsSound.exists_finish`: the end.
-/

namespace MarkdownTemplate

/-- Why reading a body marker by marker could fail. -/
inductive ReadingFault where
  /-- The span covers no text of the body. -/
  | noText (span : Span)
  /-- Nothing is open, not even the body. -/
  | nothingOpen
  /-- No block is there to be closed. -/
  | noBlock
  /-- What is open besides the body has no name. -/
  | unnamedBlock
  /-- A name is not declared. -/
  | undeclared (name : String)
deriving DecidableEq

/-- The text that `span` covers, if `span.start ≤ span.stop`. -/
def Span.cut? (span : Span) (text : String) : Option String :=
  if span.start ≤ span.stop then span.slice? text else none

/-- `position` lies between two characters of `body`, or at one of its ends. -/
def IsBoundary (body : String) (position : Nat) : Prop :=
  ∃ before after, body.toList = before ++ after ∧ byteLength before = position

/-- `span` can be read next: it starts at `cursor` or later and ends in `body`, and both its ends
are boundaries. -/
structure Span.IsAhead (span : Span) (body : String) (cursor : Nat) : Prop where
  /-- It does not start before the cursor. -/
  cursor_le : cursor ≤ span.start
  /-- It does not end before it starts. -/
  start_le : span.start ≤ span.stop
  /-- It ends in the body. -/
  stop_le : span.stop ≤ byteLength body.toList
  /-- It starts between characters. -/
  start_boundary : IsBoundary body span.start
  /-- It ends between characters. -/
  stop_boundary : IsBoundary body span.stop

/-- A scope of the stack: the body, or a block that is open in it. -/
structure Scope where
  /-- The marker that opens it. The body has none. -/
  opening? : Option PlacedMarker
  /-- The nodes in it so far. -/
  content : List Node

namespace Scope

/-- The name of the block that its marker opens. -/
def name? (scope : Scope) : Option String :=
  scope.opening?.bind fun opening =>
    if opening.1.kind = .opening then some opening.1.name else none

/-- `nodes` with a block written back after them: its marker as text, then its nodes. -/
def pushOnto (nodes : List Node) (scope : Scope) : List Node :=
  let before :=
    match scope.opening? with
    | some opening => Node.pushText nodes opening.1.text
    | none => nodes
  Node.pushAll before scope.content

/-- The diagnostic about a block that is never closed. -/
def unclosed? (scope : Scope) : Option Diagnostic :=
  scope.opening?.map fun opening => .unclosedBlock opening.1.text opening.2

/-- The scope is a block whose name `header` declares. -/
def IsDeclaredBlock (scope : Scope) (header : Header) : Prop :=
  ∃ opening, scope.opening? = some opening ∧ opening.1.kind = .opening ∧ opening.1.name ≠ "" ∧
    header.declares opening.1.name = true

end Scope

/-- The state between two markers of a body. -/
structure BodyScan where
  /-- The declared variables. -/
  header : Header
  /-- Where the last marker ends. -/
  cursor : Nat := 0
  /-- What is open, the innermost first. -/
  scopes : List Scope := [⟨none, []⟩]
  /-- The variables in use, in the order of their first use. -/
  vars : List Variable := []

namespace BodyScan

section Steps

variable (scan : BodyScan)

/-- Adds `node` to the innermost scope. -/
def addNode (node : Node) : Except ReadingFault BodyScan :=
  match scan.scopes with
  | [] => .error .nothingOpen
  | scope :: outer =>
    .ok { scan with scopes := { scope with content := Node.push scope.content node } :: outer }

/-- Adds the text from the cursor up to `stop`, and moves the cursor there. -/
def readTo (body : String) (stop : Nat) : Except ReadingFault BodyScan :=
  match Span.cut? ⟨scan.cursor, stop⟩ body with
  | none => .error (.noText ⟨scan.cursor, stop⟩)
  | some text => do
    let after ← scan.addNode (.text text)
    return { after with cursor := stop }

/-- The variable in use of this name. Without one, the declaration gives a new variable, which is in
use from then on. -/
def variableOf (name : String) (isOptional : Bool) (span : Span) :
    Except ReadingFault (Variable × BodyScan) :=
  match scan.vars.find? fun known => known.name == name with
  | some known => .ok (known, scan)
  | none =>
    match scan.header.find? name with
    | none => .error (.undeclared name)
    | some entry =>
      let fresh : Variable := ⟨name, entry.value, isOptional || entry.isOptional, span⟩
      .ok (fresh, { scan with vars := scan.vars ++ [fresh] })

/-- Keeps a marker as text. -/
def keepAsText (marker : Marker) : Except ReadingFault BodyScan :=
  scan.addNode (.text marker.text)

/-- Reads a placeholder. -/
def readPlaceholder (found : PlacedMarker) : Except ReadingFault BodyScan :=
  if found.1.name = "" ∨ scan.header.declares found.1.name = false then scan.keepAsText found.1
  else do
    let (target, known) ← scan.variableOf found.1.name found.1.isQuestion found.2
    known.addNode (.reference target found.1.text)

/-- Reads an opening marker. -/
def readOpening (found : PlacedMarker) : Except ReadingFault BodyScan :=
  if found.1.name = "" then scan.keepAsText found.1
  else
    .ok { scan with
      header := scan.header.insertIfNew found.1.name (.ofBlock found.1.name)
      scopes := ⟨some found, []⟩ :: scan.scopes }

/-- Closes what is open innermost, as a block of the given name. -/
def closeBlock (name : String) (found : PlacedMarker) : Except ReadingFault BodyScan :=
  match scan.scopes with
  | [] => .error .noBlock
  | scope :: outer => do
    let span := (scope.opening?.map Prod.snd).getD found.2
    let (_, known) ← BodyScan.variableOf { scan with scopes := outer } name false span
    known.addNode (.block name scope.content)

/-- Reads a closing marker. -/
def readClosing (found : PlacedMarker) : Except ReadingFault BodyScan :=
  if scan.scopes.length = 1 then scan.keepAsText found.1
  else
    match scan.scopes.head?.bind Scope.name? with
    | none => .error .unnamedBlock
    | some name =>
      if found.1.name = "" ∨ found.1.name = name then scan.closeBlock name found
      else scan.keepAsText found.1

/-- Reads a marker whose text before it is read. -/
def applyMarker (found : PlacedMarker) : Except ReadingFault BodyScan :=
  match found.1.kind with
  | .placeholder => scan.readPlaceholder found
  | .opening => scan.readOpening found
  | .closing => scan.readClosing found

/-- Reads the text before a marker and the marker. -/
def readMarker (body : String) (found : PlacedMarker) : Except ReadingFault BodyScan := do
  let before ← scan.readTo body found.2.start
  let after ← before.applyMarker found
  return { after with cursor := found.2.stop }

/-- The nodes of `root` and of `blocks`, the outermost first, with the opening markers of `blocks`
as text. Without `blocks` they are `root.content` as it is. -/
def writtenBack (root : Scope) (blocks : List Scope) : Recovery → List Node
  | .documentOrder => blocks.foldl Scope.pushOnto root.content
  | .innermostFirst =>
    if blocks.isEmpty then root.content
    else Node.pushAll (blocks.reverse.foldl Scope.pushOnto []) root.content

/-- The parsed body in the state at the end. -/
def finish (recovery : Recovery) : Except ReadingFault ParsedBody :=
  match scan.scopes.reverse with
  | [] => .error .nothingOpen
  | root :: blocks =>
    .ok ⟨writtenBack root blocks recovery, scan.vars, blocks.filterMap Scope.unclosed?, scan.header⟩

end Steps

/-- Reads the markers in `found` one after another, from the start of `body`. -/
def ofMarkers (header : Header) (body : String) (found : List PlacedMarker) :
    Except ReadingFault BodyScan :=
  found.foldlM (fun scan => scan.readMarker body) { header }

/-- The invariant of the scan: the cursor is on a boundary, and the stack is the body with declared
blocks above it. -/
structure IsSound (scan : BodyScan) (body : String) : Prop where
  /-- The cursor. -/
  boundary : IsBoundary body scan.cursor
  /-- What is open. -/
  scopes : ∃ blocks root, scan.scopes = blocks ++ [root] ∧ root.opening? = none ∧
    ∀ block ∈ blocks, block.IsDeclaredBlock scan.header

end BodyScan

/-- Parses a body marker by marker, with `Except` for the steps that could fail. -/
def ParsedBody.ofMarkers (recovery : Recovery) (header : Header) (body : String) :
    Except ReadingFault ParsedBody := do
  let scan ← BodyScan.ofMarkers header body (markers body)
  let scan ← scan.readTo body (byteLength body.toList)
  scan.finish recovery

/-! ### Sound states -/

/-- Of two prefixes of one list, the one with fewer bytes is a prefix of the other. -/
theorem exists_eq_append_of_byteLength_le {left right first second : List Char}
    (h : left ++ right = first ++ second) (hle : byteLength left ≤ byteLength first) :
    ∃ middle, first = left ++ middle ∧ right = middle ++ second := by
  rcases List.append_eq_append_iff.mp h with ⟨middle, hfirst, hright⟩ | ⟨middle, hleft, hsecond⟩
  · exact ⟨middle, hfirst, hright⟩
  · have hmiddle : middle = [] := by
      by_contra hne
      have hpos := byteLength_pos hne
      rw [hleft, byteLength_append] at hle
      omega
    subst hmiddle
    exact ⟨[], by rw [hleft, List.append_nil, List.append_nil], hsecond.symm⟩

/-- `Span.cut?` gives a text between two boundaries. -/
theorem IsBoundary.exists_cut? {body : String} {start stop : Nat} (hstart : IsBoundary body start)
    (hstop : IsBoundary body stop) (hle : start ≤ stop) :
    ∃ text, Span.cut? ⟨start, stop⟩ body = some text := by
  obtain ⟨left, right, hbody, rfl⟩ := hstart
  obtain ⟨first, second, hsame, rfl⟩ := hstop
  obtain ⟨middle, rfl, rfl⟩ := exists_eq_append_of_byteLength_le (hbody.symm.trans hsame) hle
  have hslice := Span.slice?_append left middle second
  rw [← hbody, String.ofList_toList, ← byteLength_append] at hslice
  exact ⟨_, (if_pos hle).trans hslice⟩

theorem Scope.IsDeclaredBlock.mono {scope : Scope} {header other : Header}
    (h : scope.IsDeclaredBlock header)
    (hkept : ∀ name, header.declares name = true → other.declares name = true) :
    scope.IsDeclaredBlock other := by
  obtain ⟨opening, hopening, hkind, hname, hdeclared⟩ := h
  exact ⟨opening, hopening, hkind, hname, hkept _ hdeclared⟩

namespace BodyScan

/-- `variableOf` does not fail for a declared name, and changes no field but `vars`. -/
theorem exists_variableOf (scan : BodyScan) {name : String}
    (hname : scan.header.declares name = true) (isOptional : Bool) (span : Span) :
    ∃ target vars, scan.variableOf name isOptional span = .ok (target, { scan with vars }) := by
  obtain ⟨entry, hentry⟩ := Option.isSome_iff_exists.mp hname
  rw [variableOf, hentry]
  split
  · exact ⟨_, scan.vars, rfl⟩
  · exact ⟨_, _, rfl⟩

/-- `result` is a sound state with the cursor at `cursor`. -/
def LeadsTo (result : Except ReadingFault BodyScan) (body : String) (cursor : Nat) : Prop :=
  ∃ next, result = .ok next ∧ next.IsSound body ∧ next.cursor = cursor

namespace IsSound

variable {scan : BodyScan} {body : String}

/-- A node can be added, as something is open. -/
theorem addNode (h : scan.IsSound body) (node : Node) :
    LeadsTo (scan.addNode node) body scan.cursor := by
  obtain ⟨hboundary, blocks, root, hscopes, hroot, hblocks⟩ := h
  rw [BodyScan.addNode, hscopes]
  cases blocks with
  | nil => exact ⟨_, rfl, ⟨hboundary, [], _, rfl, hroot, by simp⟩, rfl⟩
  | cons block blocks =>
    rw [List.forall_mem_cons] at hblocks
    obtain ⟨hblock, hblocks⟩ := hblocks
    let filled : Scope := { block with content := Node.push block.content node }
    have hfilled : ∀ inside ∈ filled :: blocks, inside.IsDeclaredBlock scan.header :=
      List.forall_mem_cons.mpr ⟨hblock, hblocks⟩
    exact ⟨_, rfl, ⟨hboundary, filled :: blocks, root, rfl, hroot, hfilled⟩, rfl⟩

theorem withCursor (h : scan.IsSound body) {cursor : Nat} (hcursor : IsBoundary body cursor) :
    IsSound { scan with cursor } body :=
  ⟨hcursor, h.scopes⟩

/-- The text up to a later boundary can be read. -/
theorem readTo (h : scan.IsSound body) {stop : Nat} (hle : scan.cursor ≤ stop)
    (hstop : IsBoundary body stop) : LeadsTo (scan.readTo body stop) body stop := by
  obtain ⟨text, hcut⟩ := h.boundary.exists_cut? hstop hle
  obtain ⟨next, hadd, hnext, -⟩ := h.addNode (.text text)
  refine ⟨{ next with cursor := stop }, ?_, hnext.withCursor hstop, rfl⟩
  rw [BodyScan.readTo, hcut]
  simp only [hadd]
  rfl

theorem withVars (h : scan.IsSound body) (vars : List Variable) :
    IsSound { scan with vars } body :=
  ⟨h.boundary, h.scopes⟩

theorem readPlaceholder (h : scan.IsSound body) (found : PlacedMarker) :
    LeadsTo (scan.readPlaceholder found) body scan.cursor := by
  rw [BodyScan.readPlaceholder]
  split
  · exact h.addNode _
  · rename_i hlive
    rw [not_or, Bool.not_eq_false] at hlive
    obtain ⟨target, vars, hvariable⟩ := scan.exists_variableOf hlive.2 found.1.isQuestion found.2
    rw [hvariable]
    exact (h.withVars vars).addNode _

/-- A block that is opened is declared, and all others stay so. -/
theorem readOpening (h : scan.IsSound body) {found : PlacedMarker}
    (hkind : found.1.kind = .opening) : LeadsTo (scan.readOpening found) body scan.cursor := by
  rw [BodyScan.readOpening]
  split
  · exact h.addNode _
  · rename_i hname
    obtain ⟨hboundary, blocks, root, hscopes, hroot, hblocks⟩ := h
    refine ⟨_, rfl, ⟨hboundary, ⟨some found, []⟩ :: blocks, root, by rw [hscopes]; rfl, hroot, ?_⟩,
      rfl⟩
    rw [List.forall_mem_cons]
    constructor
    · exact ⟨found, rfl, hkind, hname, by simp⟩
    · intro block hblock
      exact (hblocks block hblock).mono (by simp +contextual)

/-- A block that is closed is there, and has a name that is declared. -/
theorem readClosing (h : scan.IsSound body) (found : PlacedMarker) :
    LeadsTo (scan.readClosing found) body scan.cursor := by
  obtain ⟨blocks, root, hscopes, hroot, hblocks⟩ := h.scopes
  rw [BodyScan.readClosing]
  cases blocks with
  | nil =>
    rw [if_pos (by simp [hscopes])]
    exact h.addNode _
  | cons block blocks =>
    rw [List.forall_mem_cons] at hblocks
    obtain ⟨⟨opening, hopening, hkind, -, hdeclared⟩, hblocks⟩ := hblocks
    have hname : block.name? = some opening.1.name := by simp [Scope.name?, hopening, hkind]
    rw [if_neg (by simp [hscopes]), hscopes, List.cons_append, List.head?_cons, Option.bind_some,
      hname]
    dsimp only
    split
    -- the name looked up is that of the opening marker, whether the closing one names it or not
    · have houter : IsSound { scan with scopes := blocks ++ [root] } body :=
        ⟨h.boundary, blocks, root, rfl, hroot, hblocks⟩
      obtain ⟨target, vars, hvariable⟩ :=
        exists_variableOf { scan with scopes := blocks ++ [root] } hdeclared false
          ((block.opening?.map Prod.snd).getD found.2)
      rw [BodyScan.closeBlock, hscopes]
      simp only [List.cons_append, hvariable]
      exact (houter.withVars vars).addNode _
    · exact h.addNode _

/-- Without a declaration, the block of a name cannot be closed. -/
example :
    BodyScan.closeBlock { header := .empty, scopes := [⟨none, []⟩, ⟨none, []⟩] } "x"
      (⟨.closing, "", false⟩, ⟨0, 4⟩) = .error (.undeclared "x") := by
  rfl

theorem applyMarker (h : scan.IsSound body) (found : PlacedMarker) :
    LeadsTo (scan.applyMarker found) body scan.cursor := by
  unfold BodyScan.applyMarker
  split
  · exact h.readPlaceholder found
  · rename_i hkind
    exact h.readOpening hkind
  · exact h.readClosing found

/-- A marker that is ahead can be read with the text before it. -/
theorem readMarker (h : scan.IsSound body) {found : PlacedMarker}
    (hahead : found.2.IsAhead body scan.cursor) :
    LeadsTo (scan.readMarker body found) body found.2.stop := by
  obtain ⟨before, hbefore, hsound, -⟩ := h.readTo hahead.cursor_le hahead.start_boundary
  obtain ⟨after, hafter, hsound, -⟩ := hsound.applyMarker found
  refine ⟨{ after with cursor := found.2.stop }, ?_, hsound.withCursor hahead.stop_boundary, rfl⟩
  rw [BodyScan.readMarker, hbefore]
  simp only [bind, Except.bind, hafter]
  rfl

/-- Of markers that are ahead and follow one another, any number can be read one after another, and
the others are ahead then. -/
theorem foldlM_readMarker (h : scan.IsSound body) {earlier later : List PlacedMarker}
    (hahead : ∀ found ∈ earlier ++ later, found.2.IsAhead body scan.cursor)
    (hapart : (earlier ++ later).Pairwise fun first second => first.2.stop ≤ second.2.start) :
    ∃ next, earlier.foldlM (fun scan => scan.readMarker body) scan = Except.ok next ∧
      next.IsSound body ∧ ∀ found ∈ later, found.2.IsAhead body next.cursor := by
  induction earlier generalizing scan with
  | nil => exact ⟨scan, rfl, h, hahead⟩
  | cons first earlier ih =>
    rw [List.cons_append, List.forall_mem_cons] at hahead
    rw [List.cons_append, List.pairwise_cons] at hapart
    obtain ⟨middle, hread, hmiddle, hcursor⟩ := h.readMarker hahead.1
    -- the markers that are left were ahead before, and do not start before the first of them ends
    have hrest : ∀ found ∈ earlier ++ later, found.2.IsAhead body middle.cursor := by
      intro found hfound
      refine { hahead.2 found hfound with cursor_le := ?_ }
      rw [hcursor]
      exact hapart.1 found hfound
    obtain ⟨next, hrun, hnext, hlater⟩ := ih hmiddle hrest hapart.2
    refine ⟨next, ?_, hnext, hlater⟩
    rw [List.foldlM_cons, hread]
    exact hrun

/-- The rest of the body can be read, and the reading can be ended. -/
theorem exists_finish (h : scan.IsSound body) (recovery : Recovery) :
    ∃ rest parsed, scan.readTo body (byteLength body.toList) = .ok rest ∧
      rest.finish recovery = .ok parsed := by
  obtain ⟨before, after, hbody, hbefore⟩ := h.boundary
  have hle : scan.cursor ≤ byteLength body.toList := by
    rw [hbody, byteLength_append, hbefore]
    exact Nat.le_add_right ..
  obtain ⟨rest, hread, hrest, -⟩ := h.readTo hle ⟨body.toList, [], by simp, rfl⟩
  obtain ⟨blocks, root, hscopes, -, -⟩ := hrest.scopes
  have hreverse : rest.scopes.reverse = root :: blocks.reverse := by simp [hscopes]
  have hfinish : ∃ parsed, rest.finish recovery = .ok parsed := by
    rw [BodyScan.finish, hreverse]
    exact ⟨_, rfl⟩
  obtain ⟨parsed, hparsed⟩ := hfinish
  exact ⟨rest, parsed, hread, hparsed⟩

end IsSound

theorem isSound_empty (header : Header) (body : String) : IsSound { header } body :=
  ⟨⟨[], body.toList, rfl, rfl⟩, [], ⟨none, []⟩, rfl, rfl, by simp⟩

end BodyScan

end MarkdownTemplate
