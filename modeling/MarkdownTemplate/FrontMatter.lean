import MarkdownTemplate.Text.Blank

/-!
# Front matter

A document may open with a header region, fenced by two lines that hold the delimiter of the
region's format and nothing else. `FrontMatter.split` finds the region and the body after it.
-/

namespace MarkdownTemplate

/-- The format of a header region. -/
inductive Format where
  /-- YAML. -/
  | yaml
  /-- TOML. -/
  | toml
deriving DecidableEq

/-- The line that fences a header region of the format. -/
def Format.delimiter : Format → String
  | yaml => "---"
  | toml => "+++"

/-- The text without a given character at its end. -/
def dropEnd (c : Char) (chars : List Char) : List Char :=
  if chars.getLast? = some c then chars.dropLast else chars

/-- The text without the line feed at its end and a carriage return before it. -/
def dropLineBreak (chars : List Char) : List Char :=
  dropEnd '\r' (dropEnd '\n' chars)

/-- A document cut into its header region and its body. -/
structure FrontMatter where
  /-- The format of the region. -/
  format : Format
  /-- The line before the region, with its line break. -/
  fence : String
  /-- The text between the fencing lines, without its last line break. -/
  header : String
  /-- The text after the second fencing line. -/
  body : String
deriving DecidableEq

namespace FrontMatter

/-- Whether a line holds the delimiter of the format and nothing else. -/
def isFence (format : Format) (line : List Char) : Bool :=
  dropLineBreak line == format.delimiter.toList

/-- The format of the region that a line opens. The line has to end in a line feed; the delimiter of
TOML counts only if `toml` says so. -/
def opened? (toml : Bool) (line : List Char) : Option Format :=
  if line.getLast? ≠ some '\n' then none
  else if isFence .yaml line then some .yaml
  else if toml && isFence .toml line then some .toml
  else none

/-- The lines before the first fencing line, and those after it, if there is one. -/
def closeAt? (format : Format) : List (List Char) → Option (List (List Char) × List (List Char))
  | [] => none
  | line :: lines =>
    if isFence format line then some ([], lines)
    else (closeAt? format lines).map fun parts => (line :: parts.1, parts.2)

/-- Cuts a document that opens with a header region. -/
def split (toml : Bool) (text : String) : Option FrontMatter :=
  match cutLines text.toList with
  | [] => none
  | fence :: lines => do
    let format ← opened? toml fence
    let (region, body) ← closeAt? format lines
    return {
      format
      fence := String.ofList fence
      header := String.ofList (dropLineBreak region.flatten)
      body := String.ofList body.flatten }

end FrontMatter

end MarkdownTemplate
