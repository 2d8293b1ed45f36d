import MarkdownTemplate.Yaml.Event

/-!
# Nodes of a YAML document

The events of a document are put together to a tree of nodes. Aliases stay references to anchors,
since a node may refer to a collection that it is part of. A text that fails in the middle still
gives the tree of its events, with `Node.missing` at the place of the failure.
-/

namespace MarkdownTemplate

namespace Yaml

/-- The tag of a node, as far as it matters for its meaning. -/
inductive NodeTag where
  /-- A tag of the document's own, without its mark. -/
  | named (name : String)
  /-- A tag of the document's own that is no text. -/
  | illegible
  -- tags of the YAML schema
  | bool
  | integer
  | float
  | null
  /-- Any other tag; a scalar that carries it is a string. -/
  | other
deriving DecidableEq

/-- The text without one leading mark, unless it is nothing but the mark. -/
def dropMark (text : String) : String :=
  match text.toList with
  | '!' :: c :: rest => String.ofList (c :: rest)
  | _ => text

/-- The tag that octets spell. A tag of the document's own starts with a mark; a second mark is
dropped as well. -/
def NodeTag.ofOctets (octets : List UInt8) : NodeTag :=
  let text? := String.fromUTF8? ⟨octets.toArray⟩
  if octets.head? == some 33 then
    match text? with
    | some text => .named (dropMark (dropMark text))
    | none => .illegible
  else if text? == some "tag:yaml.org,2002:bool" then .bool
  else if text? == some "tag:yaml.org,2002:int" then .integer
  else if text? == some "tag:yaml.org,2002:float" then .float
  else if text? == some "tag:yaml.org,2002:null" then .null
  else .other

/-- A node of a document. -/
inductive Node where
  /-- The place at which the text fails. -/
  | missing
  /-- A reference to the anchor with this number. -/
  | aliasOf (anchor : Nat) (mark : Mark)
  /-- A scalar. -/
  | scalar (tag : Option NodeTag) (text : String) (style : ScalarStyle) (mark : Mark)
  /-- A sequence. -/
  | sequence (tag : Option NodeTag) (items : List Node) (mark : Mark)
  /-- A mapping. -/
  | mapping (tag : Option NodeTag) (entries : List (Node × Node)) (mark : Mark)

/-- Why the events of a document end too early. -/
inductive Interruption where
  /-- The text is not well formed. -/
  | malformed (failure : Failure)
  /-- An alias refers to no anchor. -/
  | unknownAnchor (mark : Mark)
deriving DecidableEq

/-- A collection whose end is not reached. -/
structure OpenCollection where
  /-- Whether it is a mapping. -/
  isMapping : Bool
  /-- The number of its anchor, if it has one. -/
  anchor : Option Nat
  /-- How many events come before it. -/
  position : Nat
  /-- Its tag. -/
  tag : Option NodeTag
  /-- Where it starts. -/
  mark : Mark
  /-- Its nodes so far, keys and values alike, last first. -/
  nodes : List Node

/-- An anchored node. -/
structure Anchored where
  /-- The number of the anchor. -/
  anchor : Nat
  /-- How many events come before the node. -/
  position : Nat
  /-- The node. -/
  node : Node

/-- The first document of a text. -/
structure Document where
  /-- The root node, unless there is no document. -/
  root : Option Node
  /-- The anchored nodes. -/
  anchored : List Anchored
  /-- How many events the document has. -/
  eventCount : Nat
  /-- What is wrong at the missing node, if there is one. -/
  interruption : Option Interruption
  /-- Whether more documents follow. -/
  hasMore : Bool

/-- The node that the anchor with this number refers to: of several, the one that starts last. -/
def Document.anchoredNode (document : Document) (anchor : Nat) : Node :=
  let candidates := document.anchored.filter (·.anchor == anchor)
  let latest := candidates.foldl
    (fun best next =>
      match best with
      | none => some next
      | some (best : Anchored) => if best.position < next.position then some next else some best)
    none
  match latest with
  | some anchored => anchored.node
  | none => .missing

/-- Nodes taken two by two; a key without a value goes with a missing one. -/
def pairUp : List Node → List (Node × Node)
  | key :: value :: rest => (key, value) :: pairUp rest
  | [key] => [(key, .missing)]
  | [] => []

/-- The node of a collection whose end is reached. -/
def OpenCollection.close (collection : OpenCollection) : Node :=
  let nodes := collection.nodes.reverse
  if collection.isMapping then .mapping collection.tag (pairUp nodes) collection.mark
  else .sequence collection.tag nodes collection.mark

/-- The state of putting events together. -/
structure TreeBuilder where
  /-- The collections that are not closed, innermost first. -/
  unclosed : List OpenCollection := []
  /-- The root, once it is complete. -/
  root : Option Node := none
  /-- The anchors that have a name, with their numbers. -/
  names : List (String × Nat) := []
  /-- The anchored nodes that are complete. -/
  anchored : List Anchored := []
  /-- How many events have been taken. -/
  count : Nat := 0

namespace TreeBuilder

/-- Names an anchor. Its number is how many names there are, so a name that is used again does not
make the next number any larger. -/
def nameAnchor (builder : TreeBuilder) (name : Option String) : Option Nat × TreeBuilder :=
  match name with
  | none => (none, builder)
  | some name =>
    let number := builder.names.length
    -- the last anchor of a name is the one that aliases find
    let others := builder.names.filter fun entry => entry.1 != name
    (some number, { builder with names := (name, number) :: others })

/-- Adds a complete node to the innermost open collection. -/
def addNode (builder : TreeBuilder) (node : Node) : TreeBuilder :=
  match builder.unclosed with
  | [] => { builder with root := some (builder.root.getD node) }
  | collection :: outer =>
    { builder with unclosed := { collection with nodes := node :: collection.nodes } :: outer }

/-- Adds a complete node that may be anchored. -/
def addAnchored (builder : TreeBuilder) (anchor : Option Nat) (position : Nat) (node : Node) :
    TreeBuilder :=
  let builder :=
    match anchor with
    | none => builder
    | some anchor => { builder with anchored := ⟨anchor, position, node⟩ :: builder.anchored }
  builder.addNode node

/-- Opens a collection. -/
def openCollection (builder : TreeBuilder) (isMapping : Bool) (anchor : Option String)
    (tag : Option (List UInt8)) (mark : Mark) : TreeBuilder :=
  let (anchor, builder) := builder.nameAnchor anchor
  { builder with
    unclosed :=
      ⟨isMapping, anchor, builder.count, tag.map NodeTag.ofOctets, mark, []⟩ :: builder.unclosed
    count := builder.count + 1 }

/-- Closes the innermost collection. -/
def closeCollection (builder : TreeBuilder) : TreeBuilder :=
  match builder.unclosed with
  | [] => builder
  | collection :: outer =>
    { builder with unclosed := outer }.addAnchored collection.anchor collection.position
      collection.close

/-- Closes all collections, with a missing node at the end of the innermost one. -/
def interrupt (builder : TreeBuilder) : TreeBuilder :=
  let builder := builder.addNode .missing
  builder.unclosed.foldl (fun builder _ => builder.closeCollection) builder

end TreeBuilder

/-- Finishes a document that ends too early. -/
def Document.interrupted (builder : TreeBuilder) (interruption : Interruption) : Document :=
  let complete := builder.interrupt
  ⟨complete.root, complete.anchored, builder.count, some interruption, false⟩

/-- Whether events are the end of the text and nothing else. -/
def isStreamEnd : List Event → Bool
  | [event] =>
    match event.kind with
    | .streamEnd => true
    | _ => false
  | _ => false

/-- The first document of the events that are left; `failure` comes after them. -/
def Document.ofEvents (failure : Option Failure) (builder : TreeBuilder) : List Event → Document
  | [] =>
    match failure with
    | some failure => Document.interrupted builder (.malformed failure)
    | none => ⟨builder.root, builder.anchored, builder.count, none, false⟩
  | event :: events =>
    match event.kind with
    | .documentStart => ofEvents failure builder events
    | .streamEnd => ⟨builder.root, builder.anchored, builder.count, none, false⟩
    | .documentEnd =>
      -- a failure behind the document counts as more text
      let hasMore := !isStreamEnd events || failure.isSome
      ⟨builder.root, builder.anchored, builder.count, none, hasMore⟩
    | .aliasOf name =>
      match builder.names.lookup name with
      | some anchor =>
        let builder := builder.addNode (.aliasOf anchor event.mark)
        ofEvents failure { builder with count := builder.count + 1 } events
      | none => Document.interrupted builder (.unknownAnchor event.mark)
    | .scalar anchor tag text style =>
      let (anchor, builder) := builder.nameAnchor anchor
      let node := Node.scalar (tag.map NodeTag.ofOctets) text style event.mark
      let builder := builder.addAnchored anchor builder.count node
      ofEvents failure { builder with count := builder.count + 1 } events
    | .sequenceStart anchor tag =>
      ofEvents failure (builder.openCollection false anchor tag event.mark) events
    | .mappingStart anchor tag =>
      ofEvents failure (builder.openCollection true anchor tag event.mark) events
    | .sequenceEnd =>
      ofEvents failure { builder.closeCollection with count := builder.count + 1 } events
    | .mappingEnd =>
      ofEvents failure { builder.closeCollection with count := builder.count + 1 } events

/-- The first document of a text. -/
def Document.ofText (text : String) : Document :=
  let stream := EventStream.ofTokens (TokenStream.ofText text)
  Document.ofEvents stream.failure {} stream.events

end Yaml

end MarkdownTemplate
