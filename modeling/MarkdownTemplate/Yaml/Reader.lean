import MarkdownTemplate.Text.Quoted
import MarkdownTemplate.Value.Basic
import MarkdownTemplate.Yaml.Node
import MarkdownTemplate.Yaml.Scalar

/-!
# Values of YAML documents

`Yaml.read` gives the value of a text that holds one document. Each node becomes a value: a scalar
by its tag or, if it is plain, by its spelling; an alias by the node it refers to. A mapping may not
have equal keys. How deep nodes are nested and how often aliases are followed is limited.
-/

namespace MarkdownTemplate

namespace Yaml

/-- The way from the root of a document to a node. -/
inductive Path where
  | root
  | item (parent : Path) (index : Nat)
  /-- The value of a key that is a scalar. -/
  | entry (parent : Path) (key : String)
  /-- The value of another key. -/
  | unknown (parent : Path)

namespace Path

/-- How messages name a path. -/
def display : Path → String
  | root => "."
  | item parent index => s!"{parent.display}[{index}]"
  | entry root key => key
  | entry parent key => s!"{parent.display}.{key}"
  | unknown root => "?"
  | unknown parent => s!"{parent.display}.?"

/-- What a message starts with that is about the node at a path. The root is not named. -/
def lead (path : Path) : String :=
  let text := path.display
  if text == "." then "" else text ++ ": "

end Path

/-- A node in messages: its path and its mark. -/
structure Place where
  /-- The way to the node. -/
  path : Path
  /-- Where the node starts. -/
  mark : Mark

/-- What a tagged scalar has to be. -/
inductive Expected where
  | bool
  | integer
  | float
  | null

/-- The wording of what is expected. -/
def Expected.message : Expected → String
  | bool => "a boolean"
  | integer => "an integer"
  | float => "a float"
  | null => "null"

/-- Why a text has no value. -/
inductive Error where
  /-- The text is not well formed. -/
  | malformed (failure : Failure)
  /-- An alias refers to no anchor. -/
  | unknownAnchor (mark : Mark)
  /-- The text holds more than one document. -/
  | severalDocuments
  /-- Nodes are nested too deeply. -/
  | tooDeep (mark : Mark)
  /-- Aliases are followed too often. -/
  | tooManyAliases
  /-- A mapping has two equal keys. -/
  | duplicateKey (key : Value) (place : Place)
  /-- An integer needs more than 64 bits. -/
  | wideInteger (value : Int) (place : Place)
  /-- A scalar is not what its tag says. -/
  | unsuitable (text : String) (expected : Expected) (place : Place)

/-- How a message names a key that occurs twice. -/
def keyMessage : Value → String
  | .null => "with null key"
  | .bool value => s!"with key `{value}`"
  | .number value => s!"with key {value.headerText}"
  | .string value => s!"with key {quoted value}"
  | _ => "in YAML map"

/-- The wording of an error. -/
def Error.message : Error → String
  | malformed failure => failure.message
  | unknownAnchor mark => "unknown anchor" ++ mark.suffix
  | severalDocuments =>
    "deserializing from YAML containing more than one document is not supported"
  | tooDeep mark => "recursion limit exceeded" ++ mark.suffix
  | tooManyAliases => "repetition limit exceeded"
  | duplicateKey key place =>
    place.path.lead ++ "duplicate entry " ++ keyMessage key ++ place.mark.suffix
  | wideInteger value place =>
    let type := if value < 0 then "i128" else "u128"
    place.path.lead ++ s!"invalid type: integer `{value}` as {type}, expected any YAML value" ++
      place.mark.suffix
  | unsuitable text expected place =>
    place.path.lead ++ "invalid value: string " ++ quoted text ++ ", expected " ++
      expected.message ++ place.mark.suffix

/-- How deep nodes may be nested. -/
def depthLimit : Nat := 128

/-- How often aliases may be followed for each event of a document. -/
def aliasLimit : Nat := 100

/-- A computation that counts the aliases it follows and may fail. -/
abbrev Reading (α : Type) := StateT Nat (Except Error) α

/-- The value of a scalar's meaning. -/
def meaningValue (text : String) (place : Place) : Meaning → Except Error Value
  | .null => .ok .null
  | .bool value => .ok (.bool value)
  | .integer value => .ok (.number (.integer value))
  | .wideInteger value => .error (.wideInteger value place)
  | .float value => .ok (.number (.float value))
  | .string => .ok (.string text)

/-- The value of a scalar. -/
def scalarValue (tag : Option NodeTag) (text : String) (style : ScalarStyle) (place : Place) :
    Except Error Value :=
  let unsuitable (expected : Expected) : Except Error Value :=
    .error (.unsuitable text expected place)
  let bySpelling : Except Error Value :=
    if style == .plain then meaningValue text place (plainMeaning text) else .ok (.string text)
  match tag with
  | some .bool =>
    match readBool? text with
    | some value => .ok (.bool value)
    | none => unsuitable .bool
  | some .integer =>
    match readIntegerMeaning? text with
    | some meaning => meaningValue text place meaning
    | none => unsuitable .integer
  | some .float =>
    match readFloat? text.toList with
    | some value => .ok (.number (.float value))
    | none => unsuitable .float
  | some .null => if isNullWord text then .ok .null else unsuitable .null
  -- a tag that says nothing about the value leaves the text as it is
  | some .other => .ok (.string text)
  | _ => bySpelling

/-- How values are found for the nodes in a collection: whether tags are to be ignored, and where.
-/
abbrev Child := Bool → Path → Node → Reading Value

/-- The values of the items of a sequence from the given index on. -/
def itemValues (child : Child) (path : Path) (index : Nat) : List Node → Reading (List Value)
  | [] => return []
  | item :: items => do
    let value ← child false (.item path index) item
    let values ← itemValues child path (index + 1) items
    return value :: values

/-- The path to the value of a key. -/
def Path.valueOf (path : Path) : Node → Path
  | .scalar _ text _ _ => .entry path text
  | _ => .unknown path

/-- The entries of a mapping, where `seen` are those before, last first. In a mapping that is read
for its tag, the tags of keys are ignored. -/
def entryValues (child : Child) (tagged : Bool) (place : Place) (seen : List (Value × Value)) :
    List (Node × Node) → Reading (List (Value × Value))
  | [] => return seen.reverse
  | (key, value) :: entries => do
    let keyValue ← child tagged place.path key
    if Value.hasKey seen keyValue then throw (.duplicateKey keyValue place)
    let valueValue ← child false (place.path.valueOf key) value
    entryValues child tagged place ((keyValue, valueValue) :: seen) entries

/-- The name of the tag that makes a tagged value. -/
def Node.tagName? : Node → Option String
  | .scalar (some (.named name)) .. => some name
  | .sequence (some (.named name)) .. => some name
  | .mapping (some (.named name)) .. => some name
  | _ => none

/-- The error of a document that ends too early. -/
def Document.interruptionError? (document : Document) : Option Error :=
  document.interruption.map fun
    | .malformed failure => .malformed failure
    | .unknownAnchor mark => .unknownAnchor mark

/-- The value of a node that is no alias, apart from a tag that makes a tagged value. There is no
`child` where nodes are nested as deep as they may be. -/
def contentValue (document : Document) (child : Option Child) (tagged : Bool) (path : Path) :
    Node → Reading Value
  | .scalar tag text style mark =>
    liftM (scalarValue (if tagged then none else tag) text style ⟨path, mark⟩)
  | .sequence _ items mark =>
    match child with
    | none => throw (.tooDeep mark)
    | some child => return .sequence (← itemValues child path 0 items)
  | .mapping _ entries mark =>
    match child with
    | none => throw (.tooDeep mark)
    | some child => return .mapping (← entryValues child tagged ⟨path, mark⟩ [] entries)
  | _ => throw (document.interruptionError?.getD .severalDocuments)

/-- The value of a node that is no alias. -/
def taggedValue (document : Document) (child : Option Child) (tagged : Bool) (path : Path)
    (node : Node) : Reading Value :=
  match if tagged then none else node.tagName? with
  | some name => return .tagged name (← contentValue document child true path node)
  | none => contentValue document child tagged path node

/-- The value of a node. An alias counts, and the node that it refers to is read in its place. -/
def resolvedValue (document : Document) (child : Option Child) (tagged : Bool) (path : Path) :
    Node → Reading Value
  | .aliasOf anchor _ => do
    let count ← get
    if count + 1 > document.eventCount * aliasLimit then throw .tooManyAliases
    set (count + 1)
    -- the tag of the node that is referred to counts again
    taggedValue document child false path (document.anchoredNode anchor)
  | node => taggedValue document child tagged path node

/-- The value of a node below which nodes may be nested `depth` deep. -/
def nodeValue (document : Document) : Nat → Child
  | 0 => resolvedValue document none
  | depth + 1 => resolvedValue document (some (nodeValue document depth))

/-- The value of a text that holds at most one document; no document is the null value. -/
def read (text : String) : Except Error Value :=
  let document := Document.ofText text
  match document.root with
  | none => .ok .null
  | some root => do
    let (value, _) ← nodeValue document depthLimit false .root root 0
    match document.interruptionError? with
    | some error => .error error
    | none => if document.hasMore then .error .severalDocuments else .ok value

end Yaml

end MarkdownTemplate
