import MarkdownTemplate.Text.Blank

/-!
# Marks in a YAML text

A `Mark` is a place in a text, and a `Cursor` is the text that is left to read with the mark of its
first character. Lines and columns are counted from zero in characters and shown from one.
-/

namespace MarkdownTemplate

namespace Yaml

/-- A place in a text. -/
structure Mark where
  /-- How many characters come before it. -/
  index : Nat := 0
  /-- How many line breaks come before it. -/
  line : Nat := 0
  /-- How many characters come before it on its line. -/
  column : Nat := 0
deriving DecidableEq

namespace Mark

/-- Whether the place is the first of its text. -/
def isStart (mark : Mark) : Bool :=
  mark.line == 0 && mark.column == 0

/-- The place after `count` characters that are no line breaks. -/
def advance (mark : Mark) (count : Nat) : Mark :=
  { mark with index := mark.index + count, column := mark.column + count }

/-- The place after a line break of `count` characters. -/
def nextLine (mark : Mark) (count : Nat) : Mark :=
  ⟨mark.index + count, mark.line + 1, 0⟩

/-- How a message names the place. -/
def display (mark : Mark) : String :=
  s!"line {mark.line + 1} column {mark.column + 1}"

/-- How a message ends that names the place; the first place of a text is not named. -/
def suffix (mark : Mark) : String :=
  if mark.isStart then "" else " at " ++ mark.display

end Mark

/-- Whether the text ends here or goes on with a blank or a line break. -/
def atBlankOrEnd : List Char → Bool
  | [] => true
  | c :: _ => isSpaceOrTab c || isLineBreak c

/-- Whether the text ends here or goes on with a line break. -/
def atBreakOrEnd : List Char → Bool
  | [] => true
  | c :: _ => isLineBreak c

/-- Whether `c` may stand in a name: a letter, a digit, an underscore or a dash. -/
def isNameChar (c : Char) : Bool :=
  c.isAlphanum || c == '_' || c == '-'

/-- Whether the text starts with a mark of three equal characters that stands alone. -/
def startsWithMark (c : Char) : List Char → Bool
  | a :: b :: d :: rest => a == c && b == c && d == c && atBlankOrEnd rest
  | _ => false

/-- Whether a line that starts here is a document mark, at which every scalar ends. -/
def atDocumentMark (mark : Mark) (chars : List Char) : Bool :=
  mark.column == 0 && (startsWithMark '-' chars || startsWithMark '.' chars)

/-- What a line break becomes in a scalar: a line feed, except that the two Unicode separators stay.
-/
def foldedBreak (c : Char) : Char :=
  if c == '\u2028' || c == '\u2029' then c else '\n'

/-- The text that is left to read. -/
structure Cursor where
  /-- The text that is left. -/
  rest : List Char
  /-- The place of its first character. -/
  mark : Mark := ⟨0, 0, 0⟩

namespace Cursor

/-- The cursor after `count` characters that are no line breaks. -/
def skip (cursor : Cursor) (count : Nat := 1) : Cursor :=
  ⟨cursor.rest.drop count, cursor.mark.advance count⟩

/-- The cursor after the line break at its start, if there is one. -/
def skipBreak (cursor : Cursor) : Cursor :=
  match cursor.rest with
  | '\r' :: '\n' :: rest => ⟨rest, cursor.mark.nextLine 2⟩
  | c :: rest => if isLineBreak c then ⟨rest, cursor.mark.nextLine 1⟩ else cursor
  | [] => cursor

/-- The longest leading run of characters that satisfy `p`, none of them a line break, and the
cursor after it. -/
def takeWhile (p : Char → Bool) (cursor : Cursor) : List Char × Cursor :=
  let run := cursor.rest.takeWhile p
  (run, ⟨cursor.rest.dropWhile p, cursor.mark.advance run.length⟩)

/-- The cursor after the leading characters that satisfy `p`, none of them a line break. -/
def skipWhile (p : Char → Bool) (cursor : Cursor) : Cursor :=
  (cursor.takeWhile p).2

/-- The cursor at the end of its line if a comment starts here. -/
def skipComment (cursor : Cursor) : Cursor :=
  if cursor.rest.head? == some '#' then cursor.skipWhile fun c => !isLineBreak c else cursor

end Cursor

end Yaml

end MarkdownTemplate
