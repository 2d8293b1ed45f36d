import MarkdownTemplate.Text.Span

/-!
# Nodes of a template

A body becomes a list of nodes: text, references to variables, and blocks, which hold nodes
themselves. `Node.push` appends a node so that there is never empty text and never text next to
text.
-/

namespace MarkdownTemplate

/-- A variable as the first reference to it fixes it. -/
structure Variable where
  /-- The name. -/
  name : String
  /-- The description, which may be empty. -/
  description : String
  /-- Whether a value may be missing. -/
  isOptional : Bool
  /-- The marker of the first reference. -/
  span : Span
deriving DecidableEq

/-- A part of a template. -/
inductive Node where
  /-- Text that is kept as it is. -/
  | text (text : String)
  /-- A reference to a variable, with its marker as it is written. -/
  | reference (target : Variable) (marker : String)
  /-- Nodes that are kept if the control variable has a value that is not blank. -/
  | block (control : String) (content : List Node)
deriving Inhabited

namespace Node

/-- Appends text to nodes. It joins text at their end, and empty text adds nothing. -/
def pushText (nodes : List Node) (added : String) : List Node :=
  if added = "" then nodes
  else
    match nodes with
    | [] => [text added]
    | [text last] => [text (last ++ added)]
    | node :: nodes => node :: pushText nodes added

/-- Appends a node to nodes, text as `pushText` does. -/
def push (nodes : List Node) : Node → List Node
  | text added => pushText nodes added
  | node => nodes ++ [node]

/-- Appends nodes one by one. -/
def pushAll (nodes added : List Node) : List Node :=
  added.foldl push nodes

end Node

end MarkdownTemplate
