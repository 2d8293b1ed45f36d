import MarkdownTemplate.Json.Value

/-!
# Compiler options

The options say in which order unclosed blocks are written back as text and whether TOML headers are
recognised.
-/

namespace MarkdownTemplate

/-- The order in which the parts of a body with unclosed blocks follow one another. -/
inductive Recovery where
  /-- The text outside the blocks, then each unclosed block from the outermost inwards. -/
  | documentOrder
  /-- Each unclosed block from the innermost outwards, then the text outside the blocks. -/
  | innermostFirst
deriving DecidableEq

namespace Recovery

/-- The name of an order. -/
def name : Recovery → String
  | documentOrder => "document-order"
  | innermostFirst => "innermost-first"

/-- The order of a name. -/
def ofName? (name : String) : Option Recovery :=
  if name = documentOrder.name then some documentOrder
  else if name = innermostFirst.name then some innermostFirst
  else none

/-- The message about a name that no order has. -/
def unknownName (name : String) : String :=
  s!"unknown variant `{name}`, expected `{documentOrder.name}` or `{innermostFirst.name}`"

end Recovery

/-- How documents are compiled. -/
structure Options where
  /-- The order in which unclosed blocks are written back. -/
  recovery : Recovery := .documentOrder
  /-- Whether TOML headers are recognised. -/
  tomlHeaders : Bool := true
deriving DecidableEq

namespace Options

/-- The options as a JSON value. -/
def toJson (options : Options) : Json :=
  .object [("recovery", .string options.recovery.name), ("toml_headers", .bool options.tomlHeaders)]

/-- The options as a TOML text. -/
def toToml (options : Options) : String :=
  s!"recovery = \"{options.recovery.name}\"\ntoml_headers = {options.tomlHeaders}\n"

end Options

end MarkdownTemplate
