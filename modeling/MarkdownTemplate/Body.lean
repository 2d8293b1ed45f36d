import MarkdownTemplate.Diagnostic
import MarkdownTemplate.Header
import MarkdownTemplate.Marker
import MarkdownTemplate.Node
import MarkdownTemplate.Options

/-!
# Parsing a body

A body is read from left to right, piece by piece. A placeholder becomes a reference if its name is
declared, an opening marker opens a block and declares its name, and a closing marker closes the
innermost open block if it names that block or no block. Every other marker is text. At the end,
blocks that are still open are written back as text in one of two orders.
-/

namespace MarkdownTemplate

/-- A block that is open. -/
structure Frame where
  /-- The marker that opens it. -/
  marker : Marker
  /-- Where that marker stands. -/
  span : Span
  /-- The declaration of its control variable. -/
  entry : Entry
  /-- The nodes in it so far. -/
  content : List Node

/-- What is known when a part of a body is read. -/
structure BodyState where
  /-- The declared variables. -/
  header : Header
  /-- How many bytes are read. -/
  offset : Nat := 0
  /-- The nodes outside all open blocks. -/
  root : List Node := []
  /-- The open blocks, innermost first. -/
  frames : List Frame := []
  /-- The variables that are referred to or control a closed block, in the order of their first use.
  -/
  vars : List Variable := []

/-- The result of parsing a body. -/
structure ParsedBody where
  /-- The nodes. -/
  nodes : List Node
  /-- The variables in use, in the order of their first use. -/
  vars : List Variable
  /-- What was recovered from. -/
  diagnostics : List Diagnostic
  /-- The declared variables, those of blocks included. -/
  header : Header

/-- The declaration of a block's control variable that has no other. -/
def Entry.ofBlock (name : String) : Entry :=
  ⟨"Include the `" ++ name ++ "` section", true⟩

namespace BodyState

/-- Adds a node to the innermost open block. -/
def addNode (state : BodyState) (node : Node) : BodyState :=
  match state.frames with
  | [] => { state with root := Node.push state.root node }
  | frame :: frames =>
    { state with frames := { frame with content := Node.push frame.content node } :: frames }

/-- The declaration of a name, if it can be referred to. The empty name cannot. -/
def declared? (state : BodyState) (name : String) : Option Entry :=
  if name = "" then none else state.header.find? name

/-- The variable of a name: the one in use, or else a new one from the declaration and the marker of
its first use. -/
def variableFor (state : BodyState) (name : String) (entry : Entry) (isOptional : Bool)
    (span : Span) : Variable :=
  let fresh : Variable := ⟨name, entry.value, isOptional || entry.isOptional, span⟩
  (state.vars.find? fun known => known.name == name).getD fresh

/-- Adds a variable to those in use, unless its name is in use. -/
def register (state : BodyState) (target : Variable) : BodyState :=
  if state.vars.any fun known => known.name == target.name then state
  else { state with vars := state.vars ++ [target] }

/-- Keeps a marker as text. -/
def keepAsText (state : BodyState) (marker : Marker) : BodyState :=
  state.addNode (.text marker.text)

/-- Reads a placeholder. -/
def readPlaceholder (state : BodyState) (marker : Marker) (span : Span) : BodyState :=
  match state.declared? marker.name with
  | none => state.keepAsText marker
  | some entry =>
    let target := state.variableFor marker.name entry marker.isQuestion span
    (state.register target).addNode (.reference target marker.text)

/-- Reads an opening marker. -/
def readOpening (state : BodyState) (marker : Marker) (span : Span) : BodyState :=
  if marker.name = "" then state.keepAsText marker
  else
    let entry := (state.header.find? marker.name).getD (.ofBlock marker.name)
    { state with
      header := state.header.insertIfNew marker.name entry
      frames := ⟨marker, span, entry, []⟩ :: state.frames }

/-- Reads a closing marker. -/
def readClosing (state : BodyState) (marker : Marker) : BodyState :=
  match state.frames with
  | [] => state.keepAsText marker
  | frame :: frames =>
    let name := frame.marker.name
    if marker.name = "" ∨ marker.name = name then
      let target := state.variableFor name frame.entry false frame.span
      ({ state with frames }.register target).addNode (.block name frame.content)
    else state.keepAsText marker

/-- Reads a marker at its place. -/
def readMarker (state : BodyState) (marker : Marker) (span : Span) : BodyState :=
  match marker.kind with
  | .placeholder => state.readPlaceholder marker span
  | .opening => state.readOpening marker span
  | .closing => state.readClosing marker

/-- Reads a piece. -/
def readPiece (state : BodyState) (piece : Piece) : BodyState :=
  let stop := state.offset + byteLength piece.chars
  let state :=
    match piece with
    | .text chars => state.addNode (.text (String.ofList chars))
    | .marker marker => state.readMarker marker ⟨state.offset, stop⟩
  { state with offset := stop }

/-- The nodes of an unclosed block as they are written back: its marker as text, then its nodes. -/
def pushFrame (nodes : List Node) (frame : Frame) : List Node :=
  Node.pushAll (Node.pushText nodes frame.marker.text) frame.content

/-- The nodes when the blocks that are still open are written back. -/
def flatten (state : BodyState) : Recovery → List Node
  | .documentOrder => state.frames.reverse.foldl pushFrame state.root
  | .innermostFirst => Node.pushAll (state.frames.foldl pushFrame []) state.root

/-- The diagnostics about the blocks that are still open, in the order of their markers. -/
def unclosed (state : BodyState) : List Diagnostic :=
  state.frames.reverse.map fun frame => .unclosedBlock frame.marker.text frame.span

/-- The result at the end of a body. -/
def finish (state : BodyState) (recovery : Recovery) : ParsedBody :=
  ⟨state.flatten recovery, state.vars, state.unclosed, state.header⟩

end BodyState

namespace ParsedBody

/-- Parses a body of which the pieces are given. -/
def ofPieces (recovery : Recovery) (header : Header) (pieces : List Piece) : ParsedBody :=
  (pieces.foldl BodyState.readPiece { header }).finish recovery

/-- Parses a body. One in which no marker can occur is a single text. -/
def ofString (recovery : Recovery) (header : Header) (body : String) : ParsedBody :=
  if mayContainMarkers body.toList then ofPieces recovery header (Piece.ofChars body.toList)
  else ⟨Node.pushText [] body, [], [], header⟩

end ParsedBody

end MarkdownTemplate
