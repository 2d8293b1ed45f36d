import MarkdownTemplate.Node
import MarkdownTemplate.Text.Blank
import MarkdownTemplate.Values

/-!
# Rendering

A reference becomes its value, or its marker if there is no value. A block becomes the text of its
nodes if its control variable has a value that is not blank, and nothing otherwise.
-/

namespace MarkdownTemplate

/-- Whether a block with this value of its control variable is kept. -/
def isKept : Option String → Bool
  | some value => !allBlank value
  | none => false

/-- Only a missing or blank value drops a block. -/
theorem isKept_eq (value : Option String) : isKept value = !value.all allBlank := by
  cases value <;> rfl

mutual

/-- The text of a node with values found by `value?`. -/
def Node.renderWith (value? : String → Option String) : Node → String
  | .text text => text
  | .reference target marker => (value? target.name).getD marker
  | .block control content => if isKept (value? control) then renderAll value? content else ""
termination_by structural node => node

/-- The text of nodes with values found by `value?`. -/
def renderAll (value? : String → Option String) : List Node → String
  | [] => ""
  | node :: nodes => node.renderWith value? ++ renderAll value? nodes
termination_by structural nodes => nodes

end

/-- The text of nodes with values from a source. -/
def render {α : Type} [ValueSource α] (nodes : List Node) (values : α) : String :=
  renderAll (ValueSource.value? values) nodes

end MarkdownTemplate
