import MarkdownTemplate.Yaml.TokenStream

/-!
# Events of a YAML document

Tokens are put together to events: the start and end of documents and collections, scalars and
aliases. What may come next is a stack of `Expectation`s, and each step takes the one on top, reads
some tokens, and gives one event. Nodes that are left out show as empty plain scalars.
-/

namespace MarkdownTemplate

namespace Yaml

/-- An event of a document. -/
inductive EventKind where
  | documentStart
  | documentEnd
  | streamEnd
  -- nodes, with their anchors and tags
  | aliasOf (name : String)
  | scalar (anchor : Option String) (tag : Option (List UInt8)) (text : String)
    (style : ScalarStyle)
  | sequenceStart (anchor : Option String) (tag : Option (List UInt8))
  | sequenceEnd
  | mappingStart (anchor : Option String) (tag : Option (List UInt8))
  | mappingEnd

/-- An event and where it starts. -/
structure Event where
  /-- What happens. -/
  kind : EventKind
  /-- Where it starts. -/
  mark : Mark

/-- What is expected next. For collections, the mark says where the collection starts. -/
inductive Expectation where
  /-- The first document, which needs no mark. -/
  | firstDocument
  /-- A further document or the end of the text. -/
  | document
  /-- The root of a document after its mark. -/
  | documentContent
  /-- The root of a document without a mark. -/
  | root
  /-- The end of a document. -/
  | documentEnd
  /-- An item of a block sequence or its end. -/
  | blockItem (start : Mark)
  /-- An item of a block sequence that is not indented, or its end. -/
  | indentlessItem
  /-- A key of a block mapping or its end. -/
  | blockKey (start : Mark)
  /-- A value of a block mapping. -/
  | blockValue (start : Mark)
  /-- An item of a flow sequence or its end. -/
  | flowItem (first : Bool) (start : Mark)
  /-- The key of a mapping of one entry in a flow sequence. -/
  | flowPairKey (start : Mark)
  /-- The value of a mapping of one entry in a flow sequence. -/
  | flowPairValue (start : Mark)
  /-- The end of a mapping of one entry in a flow sequence. -/
  | flowPairEnd (start : Mark)
  /-- A key of a flow mapping or its end. -/
  | flowKey (first : Bool) (start : Mark)
  /-- A value of a flow mapping. -/
  | flowValue (start : Mark)
  /-- A value of a flow mapping that is left out. -/
  | flowNoValue (start : Mark)

/-- The state of putting tokens together. -/
structure Assembler where
  /-- The tokens that are left. -/
  tokens : List Token
  /-- What is wrong after them. -/
  failure : Option Failure
  /-- What is expected, the next first. -/
  expected : List Expectation
  /-- The tag handles that are defined, with what they stand for. -/
  handles : List (String × List UInt8)

namespace Assembler

/-- A step that may fail. -/
abbrev Step := Except Failure (Event × Assembler)

/-- The next token. After the last one comes the failure of the text. -/
def peek (state : Assembler) : Except Failure Token :=
  match state.tokens, state.failure with
  | token :: _, _ => .ok token
  | [], some failure => .error failure
  | [], none => .ok ⟨.streamEnd, ⟨0, 0, 0⟩, ⟨0, 0, 0⟩⟩

/-- Passes over a token. -/
def skip (state : Assembler) : Assembler :=
  { state with tokens := state.tokens.drop 1 }

/-- Expects something first. -/
def expect (state : Assembler) (expectation : Expectation) : Assembler :=
  { state with expected := expectation :: state.expected }

/-- Gives an event. -/
def give (state : Assembler) (kind : EventKind) (mark : Mark) : Step :=
  .ok (⟨kind, mark⟩, state)

/-- Gives the empty scalar that stands for a node that is left out. -/
def giveEmpty (state : Assembler) (mark : Mark) : Step :=
  state.give (.scalar none none "" .plain) mark

/-- Fails while a collection that starts at `start` is read. -/
def failIn (activity : Activity) (start : Mark) (cause : Cause) (mark : Mark) : Step :=
  .error { cause, mark, activity := some (activity, start) }

/-- The handles that are defined without a directive. -/
def defaultHandles : List (String × List UInt8) :=
  [("!", octetsOf ['!']), ("!!", octetsOf "tag:yaml.org,2002:".toList)]

/-- The anchor and the tag before a node. -/
structure Properties where
  /-- The anchor. -/
  anchor : Option String := none
  /-- The tag, as handle and octets. -/
  tag : Option (String × List UInt8) := none
  /-- Where the tag starts. -/
  tagMark : Mark := ⟨0, 0, 0⟩

/-- Reads an anchor and a tag in any order. -/
def properties (state : Assembler) : Except Failure (Properties × Assembler) := do
  let token ← state.peek
  match token.kind with
  | .anchor anchor =>
    let state := state.skip
    let next ← state.peek
    match next.kind with
    | .tag handle octets =>
      return ({ anchor := some anchor, tag := some (handle, octets), tagMark := next.start },
        state.skip)
    | _ => return ({ anchor := some anchor }, state)
  | .tag handle octets =>
    let tagged : Properties := { tag := some (handle, octets), tagMark := token.start }
    let state := state.skip
    let next ← state.peek
    match next.kind with
    | .anchor anchor => return ({ tagged with anchor := some anchor }, state.skip)
    | _ => return (tagged, state)
  | _ => return ({}, state)

/-- The octets of a tag, with its handle replaced by what it stands for. A zero octet ends a tag. -/
def resolveTag (state : Assembler) (properties : Properties) (start : Mark) :
    Except Failure (Option (List UInt8)) :=
  match properties.tag with
  | none => .ok none
  | some (handle, octets) =>
    let whole? :=
      if handle.isEmpty then some octets
      else (state.handles.lookup handle).map fun expansion =>
        expansion.takeWhile (· != 0) ++ octets.takeWhile (· != 0)
    match whole? with
    | some whole => .ok (some (whole.takeWhile (· != 0)))
    | none =>
      .error {
        cause := .undefinedHandle
        mark := properties.tagMark
        activity := some (.node, start) }

/-- Reads the start of a node. `inBlock` says that a block collection may start here, and
`indentless` that a dash starts a block sequence here. -/
def node (state : Assembler) (inBlock indentless : Bool) : Step := do
  let token ← state.peek
  match token.kind with
  | .aliasOf name => state.skip.give (.aliasOf name) token.start
  | _ =>
    let start := token.start
    let (properties, state) ← state.properties
    let tag ← state.resolveTag properties start
    let anchor := properties.anchor
    let token ← state.peek
    match token.kind with
    | .scalar text style =>
      -- The tag that is only its mark says nothing about a scalar.
      let tag := if tag == some (octetsOf ['!']) then none else tag
      state.skip.give (.scalar anchor tag text style) start
    | .flowSequenceStart =>
      (state.skip.expect (.flowItem true token.start)).give (.sequenceStart anchor tag) start
    | .flowMappingStart =>
      (state.skip.expect (.flowKey true token.start)).give (.mappingStart anchor tag) start
    | kind =>
      if indentless && kind == .blockEntry then
        -- the dash is left to the item
        (state.expect .indentlessItem).give (.sequenceStart anchor tag) start
      else if inBlock && kind == .blockSequenceStart then
        (state.skip.expect (.blockItem token.start)).give (.sequenceStart anchor tag) start
      else if inBlock && kind == .blockMappingStart then
        (state.skip.expect (.blockKey token.start)).give (.mappingStart anchor tag) start
      -- an anchor or a tag makes up for a node that is left out
      else if anchor.isSome || tag.isSome then state.give (.scalar anchor tag "" .plain) start
      else failIn (if inBlock then .blockNode else .flowNode) start .nodeContent token.start

/-- Defines a tag handle. -/
def define (state : Assembler) (handle : String) (expansion : List UInt8) : Assembler :=
  { state with handles := state.handles ++ [(handle, expansion)] }

/-- Reads the directives before a document. -/
def directives (state : Assembler) (versioned : Bool) : Nat → Except Failure Assembler
  | 0 => .ok state
  | fuel + 1 => do
    let token ← state.peek
    match token.kind with
    | .versionDirective major minor =>
      if versioned then .error { cause := .repeatedVersion, mark := token.start }
      else if major != 1 || (minor != 1 && minor != 2) then
        .error { cause := .incompatibleVersion, mark := token.start }
      else state.skip.directives true fuel
    | .tagDirective handle expansion =>
      if (state.handles.lookup handle).isSome then
        .error { cause := .repeatedHandle, mark := token.start }
      else (state.skip.define handle expansion).directives versioned fuel
    | _ =>
      -- A directive takes precedence over the handles that are defined without one.
      return { state with handles := state.handles ++ defaultHandles }

/-- Passes over the marks that end documents. -/
def skipDocumentEnds (state : Assembler) : Assembler :=
  { state with tokens := state.tokens.dropWhile fun token => token.kind == .documentEnd }

/-- Reads the start of a document; `first` says that it is the first one, which needs no mark. -/
def startDocument (state : Assembler) (first : Bool) : Step := do
  let state := if first then state else state.skipDocumentEnds
  let token ← state.peek
  let marked :=
    match token.kind with
    | .versionDirective .. => true
    | .tagDirective .. => true
    | .documentStart => true
    | _ => !first
  if token.kind == .streamEnd then state.skip.give .streamEnd token.start
  else if !marked then
    let state := { state with handles := defaultHandles }
    ((state.expect .documentEnd).expect .root).give .documentStart token.start
  else
    let state ← state.directives false state.tokens.length.succ
    let next ← state.peek
    if next.kind != .documentStart then .error { cause := .documentStart, mark := next.start }
    else ((state.skip.expect .documentEnd).expect .documentContent).give .documentStart token.start

/-- Reads the rest of a flow sequence after a comma, or after its start. -/
def flowItem (state : Assembler) (start : Mark) (token : Token) : Step :=
  match token.kind with
  | .flowSequenceEnd => state.skip.give .sequenceEnd token.start
  | .key =>
    (state.skip.expect (.flowPairKey start)).give (.mappingStart none none) token.start
  | _ => (state.expect (.flowItem false start)).node false false

/-- Reads the rest of a flow mapping after a comma, or after its start. -/
def flowKey (state : Assembler) (start : Mark) (token : Token) : Step :=
  match token.kind with
  | .flowMappingEnd => state.skip.give .mappingEnd token.start
  | .key => do
    let state := state.skip
    let next ← state.peek
    let state := state.expect (.flowValue start)
    if next.kind == .value || next.kind == .flowEntry || next.kind == .flowMappingEnd then
      state.giveEmpty next.start
    else state.node false false
  | _ => (state.expect (.flowNoValue start)).node false false

/-- Takes a step: meets the next expectation. -/
def meet (state : Assembler) (expectation : Expectation) : Step := do
  match expectation with
  | .firstDocument => state.startDocument true
  | .document => state.startDocument false
  | .root => state.node true false
  | .documentContent =>
    let token ← state.peek
    match token.kind with
    | .versionDirective .. => state.giveEmpty token.start
    | .tagDirective .. => state.giveEmpty token.start
    | .documentStart => state.giveEmpty token.start
    | .documentEnd => state.giveEmpty token.start
    | .streamEnd => state.giveEmpty token.start
    | _ => state.node true false
  | .documentEnd =>
    let token ← state.peek
    -- handles are defined for one document
    let state := { state.expect .document with handles := [] }
    let state := if token.kind == .documentEnd then state.skip else state
    state.give .documentEnd token.start
  | .blockItem start =>
    let token ← state.peek
    match token.kind with
    | .blockEntry =>
      let state := state.skip.expect expectation
      let next ← state.peek
      if next.kind == .blockEntry || next.kind == .blockEnd then state.giveEmpty token.stop
      else state.node true false
    | .blockEnd => state.skip.give .sequenceEnd token.start
    | _ => failIn .blockCollection start .itemMark token.start
  | .indentlessItem =>
    let token ← state.peek
    match token.kind with
    | .blockEntry =>
      let state := state.skip.expect expectation
      let next ← state.peek
      if next.kind == .blockEntry || next.kind == .key || next.kind == .value ||
          next.kind == .blockEnd then state.giveEmpty token.stop
      else state.node true false
    | _ => state.give .sequenceEnd token.start
  | .blockKey start =>
    let token ← state.peek
    match token.kind with
    | .key =>
      -- a key that is left out is an empty scalar
      let state := state.skip.expect (.blockValue start)
      let next ← state.peek
      if next.kind == .key || next.kind == .value || next.kind == .blockEnd then
        state.giveEmpty token.stop
      else state.node true true
    | .blockEnd => state.skip.give .mappingEnd token.start
    | _ => failIn .blockMapping start .key token.start
  | .blockValue start =>
    let token ← state.peek
    let after := state.expect (.blockKey start)
    match token.kind with
    | .value =>
      let state := after.skip
      let next ← state.peek
      if next.kind == .key || next.kind == .value || next.kind == .blockEnd then
        state.giveEmpty token.stop
      else state.node true true
    | _ => after.giveEmpty token.start
  | .flowItem first start =>
    let token ← state.peek
    if first || token.kind == .flowSequenceEnd then state.flowItem start token
    else if token.kind == .flowEntry then
      let state := state.skip
      state.flowItem start (← state.peek)
    else failIn .flowSequence start .itemEnd token.start
  | .flowPairKey start =>
    let token ← state.peek
    let after := state.expect (.flowPairValue start)
    if token.kind == .value || token.kind == .flowEntry || token.kind == .flowSequenceEnd then
      -- the token is passed over even if it is not the colon
      after.skip.giveEmpty token.stop
    else after.node false false
  | .flowPairValue start =>
    let token ← state.peek
    let after := state.expect (.flowPairEnd start)
    if token.kind == .value then
      let state := after.skip
      let next ← state.peek
      if next.kind == .flowEntry || next.kind == .flowSequenceEnd then state.giveEmpty next.start
      else state.node false false
    else after.giveEmpty token.start
  | .flowPairEnd start =>
    let token ← state.peek
    (state.expect (.flowItem false start)).give .mappingEnd token.start
  | .flowKey first start =>
    let token ← state.peek
    if first || token.kind == .flowMappingEnd then state.flowKey start token
    else if token.kind == .flowEntry then
      let state := state.skip
      state.flowKey start (← state.peek)
    else failIn .flowMapping start .entryEnd token.start
  | .flowValue start =>
    let token ← state.peek
    let after := state.expect (.flowKey false start)
    if token.kind == .value then
      let state := after.skip
      let next ← state.peek
      if next.kind == .flowEntry || next.kind == .flowMappingEnd then state.giveEmpty next.start
      else state.node false false
    else after.giveEmpty token.start
  | .flowNoValue start =>
    let token ← state.peek
    (state.expect (.flowKey false start)).giveEmpty token.start

end Assembler

/-- The events of a text, and the failure that comes after them, if there is one. -/
structure EventStream where
  /-- The events in order. -/
  events : List Event
  /-- What is wrong after them. -/
  failure : Option Failure

namespace EventStream

/-- Gives events until nothing is expected or a failure comes, at most `fuel` many. -/
def run (state : Assembler) : Nat → EventStream
  | 0 => ⟨[], none⟩
  | fuel + 1 =>
    match state.expected with
    | [] => ⟨[], none⟩
    | expectation :: expected =>
      match { state with expected }.meet expectation with
      | .error failure => ⟨[], some failure⟩
      | .ok (event, state) =>
        let rest := run state fuel
        { rest with events := event :: rest.events }

/-- The events of a stream of tokens. A token leads to at most four events. -/
def ofTokens (stream : TokenStream) : EventStream :=
  let state : Assembler :=
    { tokens := stream.tokens.drop 1, failure := stream.failure, expected := [.firstDocument]
      handles := [] }
  run state (4 * stream.tokens.length + 8)

end EventStream

end Yaml

end MarkdownTemplate
