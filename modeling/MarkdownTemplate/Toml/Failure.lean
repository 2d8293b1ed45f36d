import MarkdownTemplate.Text.Blank
import MarkdownTemplate.Text.Span

/-!
# What can be wrong with a TOML text

A `Failure` says where a text goes wrong, what was being read, what was expected, and which rule was
broken. `Failure.report` shows it below the line of the text on which it is, and `reportAt` does so
for any message and span.
-/

namespace MarkdownTemplate

namespace Toml

/-- What was being read. -/
inductive Subject where
  | key
  /-- Any value that is none of the others. -/
  | string
  | basicString
  | literalString
  | multilineBasicString
  | multilineLiteralString
  | escape
  /-- A code of the given number of digits in an escape. -/
  | code (digits : Nat)
  | integer
  | hexadecimal
  | octal
  | binary
  | float
  | dateTime
  | time
  | timeOffset
  | array
  | inlineTable
  | tableHeader
deriving DecidableEq

/-- The wording of a subject. -/
def Subject.message : Subject → String
  | key => "key"
  | string => "string"
  | basicString => "basic string"
  | literalString => "literal string"
  | multilineBasicString => "multiline basic string"
  | multilineLiteralString => "multiline literal string"
  | escape => "escape sequence"
  | code digits => s!"unicode {digits}-digit hex code"
  | integer => "integer"
  | hexadecimal => "hexadecimal integer"
  | octal => "octal integer"
  | binary => "binary integer"
  | float => "floating-point number"
  | dateTime => "date-time"
  | time => "time"
  | timeOffset => "time offset"
  | array => "array"
  | inlineTable => "inline table"
  | tableHeader => "table header"

/-- What could have stood where a text goes wrong. -/
inductive Expectation where
  /-- These very characters. -/
  | spelled (text : String)
  /-- A digit. -/
  | digit
  /-- A digit at the start of a number. -/
  | leadingDigit
  /-- A line break. -/
  | newline
deriving DecidableEq

/-- The wording of an expectation. -/
def Expectation.message : Expectation → String
  | spelled text => "`" ++ text ++ "`"
  | digit => "digit"
  | leadingDigit => "leading digit"
  | newline => "newline"

/-- A rule that a well-formed part of a text breaks. -/
inductive Cause where
  /-- A key occurs twice, in the table of the given path if it is known. -/
  | duplicateKey (key : String) (table : Option (List String))
  /-- A dotted key leads through a value that is no table. -/
  | notATable (path : List String) (type : String)
  /-- A part of a date or time, or a code, has no such value. -/
  | outOfRange
  /-- Values are nested too deeply, or a key has too many parts. -/
  | tooDeep
  /-- An integer is above the largest of 64 bits. -/
  | tooLarge
  /-- An integer is below the smallest of 64 bits. -/
  | tooSmall
deriving DecidableEq

/-- The wording of a cause. -/
def Cause.message : Cause → String
  | duplicateKey key none => s!"duplicate key `{key}`"
  | duplicateKey key (some []) => s!"duplicate key `{key}` in document root"
  | duplicateKey key (some table) =>
    s!"duplicate key `{key}` in table `" ++ ".".intercalate table ++ "`"
  | notATable path type =>
    "dotted key `" ++ ".".intercalate path ++ s!"` attempted to extend non-table type ({type})"
  | outOfRange => "value is out of range"
  | tooDeep => "recursion limit exceeded"
  | tooLarge => "number too large to fit in target type"
  | tooSmall => "number too small to fit in target type"

/-- Where and how a text goes wrong. -/
structure Failure where
  /-- How many bytes come before the place. -/
  offset : Nat
  /-- What was being read. -/
  subject : Option Subject := none
  /-- What could have stood there. -/
  expected : List Expectation := []
  /-- The rule that is broken. -/
  cause : Option Cause := none
  /-- Whether the text fits nothing else, so that no alternative is tried. -/
  settled : Bool := false
deriving DecidableEq

/-- The wording of a failure, one line for each thing that is known about it. -/
def Failure.message (failure : Failure) : String :=
  let subject := failure.subject.toList.map fun subject => "invalid " ++ subject.message
  let expected :=
    if failure.expected.isEmpty then []
    else ["expected " ++ ", ".intercalate (failure.expected.map Expectation.message)]
  "\n".intercalate (subject ++ expected ++ failure.cause.toList.map Cause.message)

/-- The line and column of the byte with the given index, both from zero. A column counts
characters, and bytes if the index is not the last byte of its character. `line`, `column` and
`bytes` are those before `chars`. -/
def locate (line column bytes index : Nat) : List Char → Nat × Nat
  | [] => (line, column)
  | c :: chars =>
    if index < c.utf8Size then
      (line, if index + 1 == c.utf8Size then column else bytes + index)
    else if c == '\n' then locate (line + 1) 0 0 (index - 1) chars
    else locate line (column + 1) (bytes + c.utf8Size) (index - c.utf8Size) chars

/-- Shows `message` below the line of `text` on which `span` starts, with the span marked. The end
of the text counts as a place behind its last character. -/
def reportAt (text : String) (span : Span) (message : String) : String :=
  let chars := text.toList
  let last := byteLength chars - 1
  let (line, column) := locate 0 0 0 (min span.start last) chars
  let column := column + (span.start - min span.start last)
  let content := ((splitLines chars)[line]?).getD []
  let number := toString (line + 1)
  let margin := String.ofList (List.replicate (number.length + 1) ' ')
  let marked := min (span.stop - span.start) (byteLength content - column)
  let marks := List.replicate (column + 1) ' ' ++ List.replicate (max marked 1) '^'
  s!"TOML parse error at line {number}, column {column + 1}\n" ++
    s!"{margin}|\n{number} | {String.ofList content}\n{margin}|{String.ofList marks}\n{message}\n"

/-- Shows the failure in its text. -/
def Failure.report (failure : Failure) (text : String) : String :=
  let size :=
    match dropBytes? failure.offset text.toList with
    | some (c :: _) => c.utf8Size
    | _ => 0
  reportAt text ⟨failure.offset, failure.offset + size⟩ failure.message

end Toml

end MarkdownTemplate
