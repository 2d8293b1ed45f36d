import MarkdownTemplate.Decimal.Numeral
import MarkdownTemplate.Yaml.Failure

/-!
# Text of YAML scalars

The three ways to write a scalar: plain, between quotes, and as a block. Each reader takes the
cursor at which the scalar starts and gives the text that the scalar stands for, with line breaks
folded and escapes decoded, and the cursor after it.
-/

namespace MarkdownTemplate

namespace Yaml

/-- The white space between two words of a plain or quoted scalar. -/
inductive Gap where
  /-- Blanks on one line, last first. -/
  | blanks (chars : List Char)
  /-- Line breaks, with the blanks around them dropped: the first one, unless it is escaped, and
  those after it, last first. -/
  | breaks (first : Option Char) (more : List Char)

namespace Gap

/-- No white space. -/
def none : Gap := blanks []

/-- Whether the gap holds a line break. -/
def isBroken : Gap → Bool
  | blanks _ => false
  | breaks .. => true

/-- The gap with one more blank. -/
def addBlank (c : Char) : Gap → Gap
  | blanks chars => blanks (c :: chars)
  | gap => gap

/-- The gap with one more line break. -/
def addBreak (c : Char) : Gap → Gap
  | blanks _ => breaks (some (foldedBreak c)) []
  | breaks first more => breaks first (foldedBreak c :: more)

/-- The text, last character first, with the gap after it. A single line feed becomes a space;
before more breaks it is dropped. -/
def join (text : List Char) : Gap → List Char
  | blanks chars => chars ++ text
  | breaks (some '\n') [] => ' ' :: text
  | breaks (some '\n') more => more ++ text
  | breaks (some c) more => more ++ c :: text
  | breaks Option.none more => more ++ text

end Gap

/-- A scalar that has been read. -/
structure ScalarText where
  /-- What the scalar stands for. -/
  text : String
  /-- Where reading goes on. -/
  cursor : Cursor
  /-- Whether the white space that was passed after it holds a line break. -/
  brokeLine : Bool := false

/-- The plain scalar whose text is given last character first, with the white space after it. -/
def ScalarText.ofPlain (text : List Char) (gap : Gap) (cursor : Cursor) : ScalarText :=
  ⟨String.ofList text.reverse, cursor, gap.isBroken⟩

/-- Whether `c` is a bracket or a comma, which end plain scalars in flow collections. -/
def isFlowIndicator (c : Char) : Bool :=
  c == ',' || c == '[' || c == ']' || c == '{' || c == '}'

/-- Whether a line break of two characters starts here; its first character is then passed over. -/
def startsPair (c : Char) (rest : List Char) : Bool :=
  c == '\r' && rest.head? == some '\n'

/-- Where a plain scalar stands. -/
structure PlainPlace where
  /-- Whether it stands in a flow collection. -/
  inFlow : Bool
  /-- The first column at which its continuation lines may start. -/
  column : Nat
  /-- Where it starts. -/
  start : Mark

/-- Reads on in a plain scalar. `fresh` says that a word may start here, `gap` is the white space
since the last word, and `text` is what is read so far, last character first. -/
def plainFrom (place : PlainPlace) (fresh : Bool) (gap : Gap) (text : List Char) (mark : Mark) :
    List Char → Except Failure ScalarText
  | [] => .ok (.ofPlain text gap ⟨[], mark⟩)
  | c :: rest =>
    if startsPair c rest then
      plainFrom place true gap text { mark with index := mark.index + 1 } rest
    else if isLineBreak c then
      plainFrom place true (gap.addBreak c) text (mark.nextLine 1) rest
    else if isSpaceOrTab c then
      if gap.isBroken && mark.column < place.column && c == '\t' then
        .error { cause := .tabBeforeText, mark, activity := some (.plainScalar, place.start) }
      else plainFrom place true (gap.addBlank c) text (mark.advance 1) rest
    -- a line that is not indented enough belongs to something else
    else if fresh && !text.isEmpty && !place.inFlow && mark.column < place.column then
      .ok (.ofPlain text gap ⟨c :: rest, mark⟩)
    -- a comment or a document mark ends the scalar as well
    else if fresh && (c == '#' || atDocumentMark mark (c :: rest)) then
      .ok (.ofPlain text gap ⟨c :: rest, mark⟩)
    else if place.inFlow && c == ':' && rest.head?.any (fun d => d == '?' || isFlowIndicator d) then
      .error { cause := .unexpectedColon, mark, activity := some (.plainScalar, place.start) }
    else if (c == ':' && atBlankOrEnd rest) || (place.inFlow && isFlowIndicator c) then
      .ok (.ofPlain text gap ⟨c :: rest, mark⟩)
    else plainFrom place false .none (c :: gap.join text) (mark.advance 1) rest

/-- Reads a plain scalar that starts at the cursor. -/
def readPlain (inFlow : Bool) (column : Nat) (cursor : Cursor) : Except Failure ScalarText :=
  plainFrom ⟨inFlow, column, cursor.mark⟩ true .none [] cursor.mark cursor.rest

/-- The character that an escape of one letter stands for. -/
def shortEscape? : Char → Option Char
  | '0' => some '\x00'
  | 'a' => some '\x07'
  | 'b' => some '\x08'
  | 't' => some '\t'
  | '\t' => some '\t'
  | 'n' => some '\n'
  | 'v' => some '\x0b'
  | 'f' => some '\x0c'
  | 'r' => some '\r'
  | 'e' => some '\x1b'
  | ' ' => some ' '
  | '"' => some '"'
  | '/' => some '/'
  | '\\' => some '\\'
  | 'N' => some '\u0085'
  | '_' => some '\u00a0'
  | 'L' => some '\u2028'
  | 'P' => some '\u2029'
  | _ => none

/-- How many digits follow an escape letter that takes a code. -/
def escapeDigits? : Char → Option Nat
  | 'x' => some 2
  | 'u' => some 4
  | 'U' => some 8
  | _ => none

/-- Decodes the escape whose backslash stands at `mark`, before `rest`. The result is the character
and how many characters follow the backslash. -/
def readEscape (start mark : Mark) (rest : List Char) : Except Failure (Char × Nat) :=
  let fail (cause : Cause) (mark : Mark) : Except Failure (Char × Nat) :=
    .error { cause, mark, activity := some (.escape, start) }
  match rest with
  | [] => fail .unknownEscape mark
  | letter :: digits =>
    match shortEscape? letter, escapeDigits? letter with
    | some c, _ => .ok (c, 1)
    | none, none => fail .unknownEscape mark
    | none, some count =>
      match readPlaces? 16 count digits with
      | none => fail .hexDigit (mark.advance 2)
      | some code =>
        if (0xd800 ≤ code && code ≤ 0xdfff) || 0x10ffff < code then
          fail .invalidCode (mark.advance 2)
        else .ok (Char.ofNat code, count + 1)

/-- Reads on in a quoted scalar. The first `skipped` characters belong to an escape that is decoded
already; `escapedBreak` says that the next line break is escaped; `fresh` says that a line may start
here; `gap` and `text` are as for plain scalars. -/
def quotedFrom (quote : Char) (start : Mark) (skipped : Nat) (escapedBreak fresh : Bool) (gap : Gap)
    (text : List Char) (mark : Mark) : List Char → Except Failure ScalarText
  | [] => .error { cause := .unexpectedEnd, mark, activity := some (.quotedScalar, start) }
  | c :: rest =>
    match skipped with
    | skipped + 1 => quotedFrom quote start skipped false false gap text (mark.advance 1) rest
    | 0 =>
      if startsPair c rest then
        let next := { mark with index := mark.index + 1 }
        quotedFrom quote start 0 escapedBreak fresh gap text next rest
      else if isLineBreak c then
        -- an escaped break is dropped, the breaks after it are not
        let gap := if escapedBreak then gap else gap.addBreak c
        quotedFrom quote start 0 false true gap text (mark.nextLine 1) rest
      else if isSpaceOrTab c then
        quotedFrom quote start 0 false true (gap.addBlank c) text (mark.advance 1) rest
      else if fresh && atDocumentMark mark (c :: rest) then
        .error { cause := .documentMark, mark, activity := some (.quotedScalar, start) }
      else
        let text := gap.join text
        if c == quote then
          -- an apostrophe is written twice between apostrophes
          if quote == '\'' && rest.head? == some '\'' then
            quotedFrom quote start 1 false false .none ('\'' :: text) (mark.advance 1) rest
          else .ok ⟨String.ofList text.reverse, ⟨rest, mark.advance 1⟩, false⟩
        else if quote == '"' && c == '\\' then
          if rest.head?.any isLineBreak then
            quotedFrom quote start 0 true true (.breaks none []) text (mark.advance 1) rest
          else
            match readEscape start mark rest with
            | .error failure => .error failure
            | .ok (decoded, count) =>
              quotedFrom quote start count false false .none (decoded :: text) (mark.advance 1) rest
        else quotedFrom quote start 0 false false .none (c :: text) (mark.advance 1) rest

/-- Reads a quoted scalar whose opening quote is at the cursor. -/
def readQuoted (quote : Char) (cursor : Cursor) : Except Failure ScalarText :=
  let body := cursor.skip
  quotedFrom quote cursor.mark 0 false true .none [] body.mark body.rest

/-- What happens to the line breaks at the end of a block scalar. -/
inductive Chomping where
  /-- All are dropped. -/
  | strip
  /-- One is kept. -/
  | clip
  /-- All are kept. -/
  | keep
deriving DecidableEq

/-- How a block scalar is to be read. -/
structure BlockPlace where
  /-- Whether its line breaks stay. -/
  literal : Bool
  /-- What happens to the line breaks at its end. -/
  chomping : Chomping
  /-- The least indentation of its lines. -/
  least : Nat
  /-- Where it starts. -/
  start : Mark

/-- A block scalar that is being read. -/
structure BlockText where
  /-- The text so far, last character first. -/
  text : List Char := []
  /-- The break that ended the last line of text. -/
  lineEnd : List Char := []
  /-- The breaks of the empty lines after it, last first. -/
  emptyLines : List Char := []
  /-- Whether the last line of text starts with a blank. -/
  startsBlank : Bool := false

namespace BlockText

/-- The block before a line of text that starts with `c`. Between two lines that start with no
blank, a folded block turns a single line feed into a space and drops it before empty lines. -/
def startLine (place : BlockPlace) (block : BlockText) (c : Char) : BlockText :=
  let folds :=
    !place.literal && block.lineEnd == ['\n'] && !block.startsBlank && !isSpaceOrTab c
  let text :=
    if !folds then block.lineEnd ++ block.text
    else if block.emptyLines.isEmpty then ' ' :: block.text
    else block.text
  ⟨block.emptyLines ++ text, [], [], isSpaceOrTab c⟩

/-- The text of the whole block. -/
def finish (place : BlockPlace) (block : BlockText) : String :=
  let text := if place.chomping == .strip then block.text else block.lineEnd ++ block.text
  let text := if place.chomping == .keep then block.emptyLines ++ text else text
  String.ofList text.reverse

end BlockText

/-- Reads on in a block scalar. `inLine` says that a line of text goes on here; otherwise
indentation or an empty line does. `indent` is the indentation of the block, zero while it is not
known, and `deepest` the deepest one of the empty lines so far. -/
def blockFrom (place : BlockPlace) (inLine : Bool) (indent deepest : Nat) (block : BlockText)
    (mark : Mark) : List Char → Except Failure ScalarText
  | [] => .ok ⟨block.finish place, ⟨[], mark⟩, false⟩
  | c :: rest =>
    let below := indent == 0 || mark.column < indent
    if startsPair c rest then
      blockFrom place inLine indent deepest block { mark with index := mark.index + 1 } rest
    else if inLine then
      if isLineBreak c then
        blockFrom place false indent deepest { block with lineEnd := [foldedBreak c] }
          (mark.nextLine 1) rest
      else
        blockFrom place true indent deepest { block with text := c :: block.text }
          (mark.advance 1) rest
    else if c == ' ' && below then
      blockFrom place false indent deepest block (mark.advance 1) rest
    else if c == '\t' && below then
      .error { cause := .tabInIndentation, mark, activity := some (.blockScalar, place.start) }
    else
      let deepest := max deepest mark.column
      if isLineBreak c then
        blockFrom place false indent deepest
          { block with emptyLines := foldedBreak c :: block.emptyLines } (mark.nextLine 1) rest
      else
        -- the first line of text fixes the indentation
        let indent := if indent == 0 then max deepest place.least else indent
        if mark.column == indent then
          let block := block.startLine place c
          blockFrom place true indent deepest { block with text := c :: block.text }
            (mark.advance 1) rest
        else .ok ⟨block.finish place, ⟨c :: rest, mark⟩, false⟩

/-- Reads the chomping hint at the cursor, if there is one. -/
def readChomping (cursor : Cursor) : Chomping × Cursor :=
  match cursor.rest with
  | '+' :: _ => (.keep, cursor.skip)
  | '-' :: _ => (.strip, cursor.skip)
  | _ => (.clip, cursor)

/-- Reads the indentation hint at the cursor, if there is one. -/
def readIndentation (start : Mark) (cursor : Cursor) : Except Failure (Option Nat × Cursor) :=
  match cursor.rest with
  | c :: _ =>
    if c == '0' then
      .error {
        cause := .zeroIndentation
        mark := cursor.mark
        activity := some (.blockScalar, start) }
    else if '1' ≤ c && c ≤ '9' then .ok (some (c.toNat - '0'.toNat), cursor.skip)
    else .ok (none, cursor)
  | [] => .ok (none, cursor)

/-- Reads a block scalar whose mark is at the cursor; `enclosing` is the indentation of the
enclosing collection, if there is one. -/
def readBlock (enclosing : Option Nat) (cursor : Cursor) : Except Failure ScalarText := do
  let start := cursor.mark
  let literal := cursor.rest.head? == some '|'
  let (chomping, cursor) := readChomping cursor.skip
  let (hint, cursor) ← readIndentation start cursor
  let (chomping, cursor) :=
    -- the two hints may come in any order
    if chomping == .clip && hint.isSome then readChomping cursor else (chomping, cursor)
  let cursor := (cursor.skipWhile isSpaceOrTab).skipComment
  if !atBreakOrEnd cursor.rest then
    .error { cause := .lineEnd, mark := cursor.mark, activity := some (.blockScalar, start) }
  else
    let cursor := cursor.skipBreak
    let indent :=
      match hint with
      | some hint => enclosing.getD 0 + hint
      | none => 0
    let least :=
      match enclosing with
      | some indent => indent + 1
      | none => 1
    blockFrom ⟨literal, chomping, least, start⟩ false indent 0 {} cursor.mark cursor.rest

end Yaml

end MarkdownTemplate
