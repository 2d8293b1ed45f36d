import MarkdownTemplate.Toml.StringText

/-!
# Keys in TOML text

A key is bare or stands in quotes, and dots lead through tables. `Key.text` is how messages about
tables spell a key.
-/

namespace MarkdownTemplate

namespace Toml

open Reading

/-- One part of a key. -/
structure Key where
  /-- The name that it spells. -/
  name : String
  /-- Where it stands. -/
  span : Span
deriving DecidableEq

/-- Whether `c` may stand in a bare key. -/
def isBareChar (c : Char) : Bool :=
  c.isAlphanum || c == '-' || c == '_'

/-- Whether `c` has to be escaped in any quotes. -/
def isControl (c : Char) : Bool :=
  (c.toNat < 0x20 && c != '\t') || c.toNat == 0x7f

/-- One character between quotes. -/
def escapedChar (c : Char) : List Char :=
  match c with
  | '\x08' => ['\\', 'b']
  | '\t' => ['\\', 't']
  | '\n' => ['\\', 'n']
  | '\x0c' => ['\\', 'f']
  | '\r' => ['\\', 'r']
  | '"' => ['\\', '"']
  | '\\' => ['\\', '\\']
  | c =>
    if isControl c then '\\' :: 'u' :: hexText 4 true c.toNat else [c]

/-- A key as it can be written: bare if possible, else in the quotes that need no escapes, and else
between quotes with escapes. -/
def Key.text (key : Key) : String :=
  let chars := key.name.toList
  let basic := '"' :: chars.flatMap escapedChar ++ ['"']
  String.ofList <|
    if !chars.isEmpty && chars.all isBareChar then chars
    else if !chars.any fun c => isControl c || c == '\\' || c == '"' then basic
    else if !chars.any fun c => isControl c || c == '\'' then '\'' :: chars ++ ['\'']
    else basic

/-- Reads the name of one part of a key. -/
def keyName : Reading (List Char) := do
  match ← next? with
  | none => fail
  | some '"' => basicString
  | some '\'' => literalString
  | some _ => takeSome isBareChar

/-- Reads one part of a key with the blanks around it. -/
def keyPart : Reading Key := do
  blanks
  let (name, span) ← spanned keyName
  blanks
  return ⟨String.ofList name, span⟩

/-- A key has to have fewer parts. -/
def keyLimit : Nat := 80

/-- Reads a key with all its parts. -/
def dottedKey : Reading (List Key) :=
  converted false (named .key (separatedSome keyPart '.')) fun parts =>
    if parts.length < keyLimit then .ok parts else .error (some .tooDeep)

end Toml

end MarkdownTemplate
