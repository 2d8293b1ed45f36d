import MarkdownTemplate.Error
import MarkdownTemplate.Json.Value
import MarkdownTemplate.Text.Blank
import MarkdownTemplate.Text.Span

/-!
# Diagnostics

Compiling never fails. What is recovered from is recorded as a `Diagnostic` with the place it is
about.
-/

namespace MarkdownTemplate

/-- What a diagnostic is about. -/
inductive DiagnosticKind where
  /-- A header region that is not well formed and is kept as text. -/
  | malformedHeader
  /-- A block that is never closed and is kept as text. -/
  | unclosedBlock
deriving DecidableEq

/-- The name of a kind in JSON. -/
def DiagnosticKind.name : DiagnosticKind → String
  | malformedHeader => "malformed-header"
  | unclosedBlock => "unclosed-block"

/-- Something that was recovered from. -/
structure Diagnostic where
  /-- What it is about. -/
  kind : DiagnosticKind
  /-- The message. -/
  message : String
  /-- The place it is about. -/
  span : Option Span
deriving DecidableEq

namespace Diagnostic

/-- The lines of a text that are not blank, trimmed, on one line. -/
def joinedLines (text : String) : String :=
  let lines := (splitLines text.toList).map fun line => trim (String.ofList line)
  "; ".intercalate (lines.filter (· ≠ ""))

/-- The diagnostic for a header region that has the given error. -/
def malformedHeader (error : Error) (span : Span) : Diagnostic :=
  ⟨.malformedHeader, "header ignored: " ++ joinedLines error.display, some span⟩

/-- The diagnostic for a block whose opening marker has no closing marker. -/
def unclosedBlock (marker : String) (span : Span) : Diagnostic :=
  ⟨.unclosedBlock, "block `" ++ marker ++ "` is never closed and was kept as text", some span⟩

/-- The diagnostic with its place moved by `offset` bytes. -/
def shift (diagnostic : Diagnostic) (offset : Nat) : Diagnostic :=
  { diagnostic with span := diagnostic.span.map (·.shift offset) }

/-- The diagnostic as text, its place after its message. -/
def display (diagnostic : Diagnostic) : String :=
  match diagnostic.span with
  | some span => diagnostic.message ++ s!" (at {span.start}..{span.stop})"
  | none => diagnostic.message

/-- A span as a JSON value. -/
def spanJson (span : Span) : Json :=
  .object [("start", .number (.integer span.start)), ("end", .number (.integer span.stop))]

/-- The diagnostic as a JSON value. -/
def toJson (diagnostic : Diagnostic) : Json :=
  .object [("kind", .string diagnostic.kind.name), ("message", .string diagnostic.message),
    ("span", (diagnostic.span.map spanJson).getD .null)]

end Diagnostic

end MarkdownTemplate
