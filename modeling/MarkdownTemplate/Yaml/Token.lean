import MarkdownTemplate.Yaml.Mark

/-!
# Tokens of a YAML text

The tokens that a YAML text is cut into, with the marks of their two ends. Indentation shows as
tokens that open and close block collections.
-/

namespace MarkdownTemplate

namespace Yaml

/-- How a scalar is written in the text. -/
inductive ScalarStyle where
  /-- Without quotes. -/
  | plain
  /-- Between quotes of either kind. -/
  | quoted
  /-- As a block, literal or folded. -/
  | block
deriving DecidableEq

/-- The kind of a token, with what it says. -/
inductive TokenKind where
  -- the text and its documents
  | streamStart
  | streamEnd
  | versionDirective (major minor : Nat)
  /-- A tag directive: a handle and the octets it stands for. -/
  | tagDirective (handle : String) (expansion : List UInt8)
  | documentStart
  | documentEnd
  -- collections by indentation
  | blockSequenceStart
  | blockMappingStart
  | blockEnd
  -- brackets
  | flowSequenceStart
  | flowSequenceEnd
  | flowMappingStart
  | flowMappingEnd
  -- dashes, commas, question marks and colons
  | blockEntry
  | flowEntry
  /-- The start of a key, marked or not. -/
  | key
  | value
  -- what nodes are made of
  | aliasOf (name : String)
  | anchor (name : String)
  /-- A tag: a handle, which may be empty, and the octets after it. -/
  | tag (handle : String) (octets : List UInt8)
  | scalar (text : String) (style : ScalarStyle)
deriving DecidableEq

/-- A token. -/
structure Token where
  /-- What the token is. -/
  kind : TokenKind
  /-- Where it starts. -/
  start : Mark
  /-- Where it ends. -/
  stop : Mark

end Yaml

end MarkdownTemplate
