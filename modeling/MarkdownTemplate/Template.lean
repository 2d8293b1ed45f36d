import MarkdownTemplate.Body
import MarkdownTemplate.Render
import MarkdownTemplate.Schema

/-!
# Templates

`Document.ofString` cuts a document into header and body, and `Template.compile` makes a template of
it. A header that is not well formed is no header, and a document without header is all text.
Templates are rendered with values from any source, and checked for values that are missing.
-/

namespace MarkdownTemplate

/-- A document cut into its header and its body. -/
structure Document where
  /-- The declared variables, if the document has a header. -/
  header : Option Header
  /-- The text after the header; all of it if there is no header. -/
  body : String
  /-- What was recovered from. -/
  diagnostics : List Diagnostic

/-- Cuts a document into its header and its body. A header region that is not well formed is
reported and belongs to the body. -/
def Document.ofString (options : Options) (raw : String) : Document :=
  match FrontMatter.split options.tomlHeaders raw with
  | none => ⟨none, raw, []⟩
  | some parts =>
    match Header.parse parts.format parts.header with
    | .ok header => ⟨some header, parts.body, []⟩
    | .error error =>
      let start := byteLength parts.fence.toList
      let span : Span := ⟨start, start + byteLength parts.header.toList⟩
      ⟨none, raw, [.malformedHeader error span]⟩

/-- A compiled document. -/
structure Template where
  /-- The label of the document. -/
  id : Option String
  /-- The text of the document. -/
  raw : String
  /-- The text after the header. -/
  body : String
  /-- Whether the document has a header. -/
  hasHeader : Bool
  /-- The declared variables, those of blocks included. -/
  header : Header
  /-- The nodes of the body. -/
  nodes : List Node
  /-- The variables in use, in the order of their first use. -/
  vars : List Variable
  /-- What was recovered from, with places in the document. -/
  diagnostics : List Diagnostic

namespace Template

/-- Compiles a document. -/
def compile (options : Options) (id : Option String) (raw : String) : Template :=
  let document := Document.ofString options raw
  match document.header with
  | none =>
    let nodes := Node.pushText [] document.body
    ⟨id, raw, document.body, false, .empty, nodes, [], document.diagnostics⟩
  | some header =>
    let parsed := ParsedBody.ofString options.recovery header document.body
    let start := byteLength raw.toList - byteLength document.body.toList
    let diagnostics := document.diagnostics ++ parsed.diagnostics.map (·.shift start)
    ⟨id, raw, document.body, true, parsed.header, parsed.nodes, parsed.vars, diagnostics⟩

/-- Compiles documents one by one. -/
def compileAll (options : Options) (documents : List String) : List Template :=
  documents.map (compile options none)

/-- How many bytes come before the body. -/
def bodyStart (template : Template) : Nat :=
  byteLength template.raw.toList - byteLength template.body.toList

/-- The name of the template in messages. -/
def label (template : Template) : String :=
  template.id.getD "<anonymous>"

/-- The variable in use of a name. -/
def findVariable? (template : Template) (name : String) : Option Variable :=
  template.vars.find? fun target => target.name == name

/-- The values that the template expects. -/
def schema (template : Template) : Schema :=
  .ofVariables template.vars

/-- The text of the template with values from a source. -/
def render {α : Type} [ValueSource α] (template : Template) (values : α) : String :=
  MarkdownTemplate.render template.nodes values

/-- The names of required values that a source has not. -/
def missing {α : Type} [ValueSource α] (template : Template) (values : α) : List String :=
  template.schema.required.filter fun name => !ValueSource.contains values name

/-- Fails if a source lacks a required value. -/
def check {α : Type} [ValueSource α] (template : Template) (values : α) : Except Error Unit :=
  match template.missing values with
  | [] => .ok ()
  | missing =>
    .error ⟨⟨"missing required template values",
      [(some "template", template.label), (some "missing", ", ".intercalate missing)]⟩, []⟩

/-- How grave a line of the log is. -/
inductive LogLevel where
  /-- Something was recovered from. -/
  | warn
  /-- A report of what was done. -/
  | debug
deriving DecidableEq

/-- The name of a level. -/
def LogLevel.name : LogLevel → String
  | warn => "WARN"
  | debug => "DEBUG"

/-- What compiling the template logs: each diagnostic, then how many variables there are. -/
def log (template : Template) : List (LogLevel × String) :=
  let warnings := template.diagnostics.map fun diagnostic =>
    (LogLevel.warn, template.label ++ ": " ++ diagnostic.display)
  let summary := s!"{template.label}: compiled {template.vars.length} variable(s), " ++
    s!"{template.schema.required.length} required"
  warnings ++ [(.debug, summary)]

end Template

end MarkdownTemplate
