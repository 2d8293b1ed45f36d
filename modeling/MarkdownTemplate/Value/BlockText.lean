import MarkdownTemplate.Value.Json
import MarkdownTemplate.Text.Blank
import MarkdownTemplate.Yaml.Mark
import MarkdownTemplate.Yaml.Scalar

/-!
# Header values as block text

A value that JSON cannot express is written as YAML in block style: one item or entry a line, nested
collections further in, strings plain where that is safe. `Value.blockText?` is that text; a mapping
with a single entry whose key starts with another such mapping or with a tag has none.
-/

namespace MarkdownTemplate

namespace Block

/-- A page that is being written. -/
structure Page where
  /-- The characters written so far, last first. -/
  written : List Char
  /-- How many characters the last line has. -/
  column : Nat
  /-- Whether the last character separates, so that no space is needed. -/
  separated : Bool
  /-- Whether the last line holds nothing but indentation and marks of items and keys. -/
  atIndentation : Bool

namespace Page

/-- The page before anything is written. -/
def empty : Page := ⟨[], 0, true, true⟩

/-- Writes a character that is no line break. -/
def put (page : Page) (c : Char) : Page :=
  { page with written := c :: page.written, column := page.column + 1 }

/-- Starts a new line, with the given break. -/
def newLine (page : Page) (c : Char) : Page :=
  { page with written := c :: page.written, column := 0 }

/-- Writes a space unless the page is separated. -/
def separate (page : Page) : Page :=
  if page.separated then page else page.put ' '

/-- Writes an indicator; `keepsIndentation` says that what follows may still stand on the line. -/
def indicator (page : Page) (text : List Char) (separates : Bool) (separated : Bool)
    (keepsIndentation : Bool) : Page :=
  let page := if separates then page.separate else page
  { text.foldl put page with separated, atIndentation := page.atIndentation && keepsIndentation }

/-- Goes to the given column at a line's start, on the same line if nothing but marks stands there.
-/
def indentTo (page : Page) (indent : Nat) : Page :=
  let page :=
    if !page.atIndentation || page.column > indent ||
        (page.column == indent && !page.separated) then
      page.newLine '\n'
    else page
  let page := (List.replicate (indent - page.column) ' ').foldl put page
  { page with separated := true, atIndentation := true }

end Page

/-- Whether a scalar may show `c` without an escape. -/
def isShown (c : Char) : Bool :=
  c == '\n' || (' ' ≤ c && c ≤ '~') || ('\u00a0' ≤ c && c.toNat ≤ 0xffff && c != '\ufeff' &&
    c.toNat != 0xfffe && c.toNat != 0xffff)

/-- What a scalar's text allows. -/
structure Analysis where
  /-- It holds a line break. -/
  multiline : Bool
  /-- It may stand plain. -/
  plainAllowed : Bool
  /-- It may stand between single quotes. -/
  singleQuotedAllowed : Bool
  /-- It may stand as a literal block. -/
  literalAllowed : Bool

/-- Whether a plain scalar may not start with these characters. -/
def startsWithIndicator : List Char → Bool
  | [] => false
  | c :: rest =>
    ['#', ',', '[', ']', '{', '}', '&', '*', '!', '|', '>', '\'', '"', '%', '@', '`'].contains c ||
      ((c == '?' || c == ':' || c == '-') && Yaml.atBlankOrEnd rest) ||
      ['-', '-', '-'].isPrefixOf (c :: rest) || ['.', '.', '.'].isPrefixOf (c :: rest)

/-- Whether, after the character `before`, some colon is followed by a blank or some number sign
follows a blank. -/
def holdsIndicator (before : Char) : List Char → Bool
  | [] => false
  | c :: rest =>
    (c == ':' && Yaml.atBlankOrEnd rest) ||
      (c == '#' && (isSpaceOrTab before || isLineBreak before)) || holdsIndicator c rest

/-- Whether some character with `p` stands right before one with `q`. -/
def holdsPair (p q : Char → Bool) : List Char → Bool
  | c :: d :: rest => (p c && q d) || holdsPair p q (d :: rest)
  | _ => false

/-- What the text of a scalar allows. -/
def analyse (text : List Char) : Analysis :=
  match text with
  | [] => ⟨false, true, true, false⟩
  | c :: rest =>
    let isSpace (c : Char) : Bool := c == ' '
    let special := text.any fun c => !isShown c
    let multiline := text.any isLineBreak
    let startsBlank := isSpace c || isLineBreak c
    let last := (c :: rest).getLast (by simp)
    let endsBlank := isSpace last || isLineBreak last
    let breakSpace := holdsPair isLineBreak isSpace text
    let spaceBreak := holdsPair isSpace isLineBreak text
    { multiline
      plainAllowed := !(multiline || startsBlank || endsBlank || special ||
        startsWithIndicator text || holdsIndicator c rest)
      singleQuotedAllowed := !(breakSpace || spaceBreak || special)
      literalAllowed := !(isSpace last || spaceBreak || special) }

/-- How a scalar is written. -/
inductive Style where
  /-- As it is. -/
  | plain
  /-- Between single quotes. -/
  | singleQuoted
  /-- Between double quotes, with escapes. -/
  | doubleQuoted
  /-- As a literal block. -/
  | literal
deriving DecidableEq

/-- The style of a string, given whether it is a key on the line of its value. -/
def stringStyle (text : String) (simpleKey : Bool) : Style :=
  let chars := text.toList
  let analysis := analyse chars
  let wished :=
    if chars.contains '\n' then Style.literal
    else if Yaml.isAmbiguous text then .singleQuoted
    else .plain
  let style :=
    if simpleKey && analysis.multiline then .doubleQuoted
    else if wished == .plain && !analysis.plainAllowed then .singleQuoted
    else wished
  match style with
  | .singleQuoted => if analysis.singleQuotedAllowed then .singleQuoted else .doubleQuoted
  | .literal => if analysis.literalAllowed && !simpleKey then .literal else .doubleQuoted
  | style => style

/-- A character between double quotes. -/
def doubleQuotedChar (c : Char) : List Char :=
  if isShown c && !isLineBreak c && c != '"' && c != '\\' then [c]
  else
    '\\' ::
      match c with
      | '\x00' => ['0']
      | '\x07' => ['a']
      | '\x08' => ['b']
      | '\t' => ['t']
      | '\n' => ['n']
      | '\x0b' => ['v']
      | '\x0c' => ['f']
      | '\r' => ['r']
      | '\x1b' => ['e']
      | '"' => ['"']
      | '\\' => ['\\']
      | '\u0085' => ['N']
      | '\u00a0' => ['_']
      | '\u2028' => ['L']
      | '\u2029' => ['P']
      | c =>
        if c.toNat ≤ 0xff then 'x' :: hexText 2 true c.toNat
        else if c.toNat ≤ 0xffff then 'u' :: hexText 4 true c.toNat
        else 'U' :: hexText 8 true c.toNat

/-- Writes the characters between single quotes. A line feed is written twice, and what follows a
break is indented. -/
def singleQuotedBody (page : Page) (indent : Nat) (afterBreak : Bool) : List Char → Page
  | [] => if afterBreak then page.indentTo indent else page
  | c :: chars =>
    if isLineBreak c then
      let page := if !afterBreak && c == '\n' then page.newLine '\n' else page
      singleQuotedBody { page.newLine c with atIndentation := true } indent true chars
    else
      let page := if afterBreak && c != ' ' then page.indentTo indent else page
      let page := if c == '\'' then page.put '\'' else page
      let page := page.put c
      if c == ' ' then singleQuotedBody page indent afterBreak chars
      else singleQuotedBody { page with atIndentation := false } indent false chars

/-- Writes the lines of a literal block. -/
def literalBody (page : Page) (indent : Nat) (afterBreak : Bool) : List Char → Page
  | [] => page
  | c :: chars =>
    if isLineBreak c then
      literalBody { page.newLine c with atIndentation := true } indent true chars
    else
      let page := if afterBreak then page.indentTo indent else page
      literalBody { page.put c with atIndentation := false } indent false chars

/-- The hints after the mark of a literal block: its indentation if it starts with a blank, and
whether the line breaks at its end are dropped or all kept. -/
def literalHints (text : List Char) : List Char :=
  let start :=
    match text.head? with
    | some c => if c == ' ' || isLineBreak c then ['2'] else []
    | none => []
  let stop :=
    match text.reverse with
    | [] => ['-']
    | last :: before =>
      if !isLineBreak last then ['-']
      else if before.head?.all isLineBreak then ['+'] else []
  start ++ stop

/-- Writes a scalar in the given style; `indent` is the column of its continuation lines. -/
def writeScalar (page : Page) (style : Style) (indent : Nat) (text : List Char) : Page :=
  match style with
  | .plain =>
    let page := if text.isEmpty then page else page.separate
    { text.foldl Page.put page with separated := false, atIndentation := false }
  | .singleQuoted =>
    let page := page.indicator ['\''] true false false
    (singleQuotedBody page indent false text).indicator ['\''] false false false
  | .doubleQuoted =>
    let page := page.indicator ['"'] true false false
    let page := (text.flatMap doubleQuotedChar).foldl Page.put page
    page.indicator ['"'] false false false
  | .literal =>
    let page := (page.indicator ('|' :: literalHints text) true false false).newLine '\n'
    literalBody { page with separated := true, atIndentation := true } indent true text

/-- A byte of a tag that has to be escaped. -/
def escapedByte (byte : UInt8) : List Char :=
  '%' :: hexText 2 true byte.toNat

/-- The characters of a tag that stand for themselves, apart from letters and digits. -/
def tagSigns : List Char :=
  ['_', '-', ';', '/', '?', ':', '@', '&', '=', '+', '$', ',', '.', '~', '*', '\'', '(', ')', '[',
    ']']

/-- A character of a tag. -/
def tagChar (c : Char) : List Char :=
  if c.isAlphanum || tagSigns.contains c then [c]
  else (String.singleton c).toUTF8.toList.flatMap escapedByte

/-- The characters that write a tag. The tag that is only its mark is written in full. -/
def tagChars (tag : String) : List Char :=
  if tag == "!" then ['!', '<', '%', '2', '1', '>'] else '!' :: tag.toList.flatMap tagChar

/-- The bytes of a tag that count for the length of a key. -/
def tagLength : Option String → Nat
  | none => 0
  | some tag => if tag == "!" then 1 else 1 + tag.utf8ByteSize

/-- Writes a tag, if there is one. -/
def writeTag (page : Page) : Option String → Page
  | none => page
  | some tag => page.indicator (tagChars tag) true false false

/-- The text of a scalar that is no string. -/
def plainText? : Value → Option String
  | .null => some "null"
  | .bool value => some (toString value)
  | .number value => some value.headerText
  | _ => none

/-- The longest key, in bytes, that stands on the line of its value. -/
def longestKey : Nat := 128

/-- Whether a key with the given tag stands on the line of its value: a scalar of one line or an
empty collection, and not too long. -/
def isSimpleKey (tag : Option String) : Value → Bool
  | .string text =>
    !(text.toList.any isLineBreak) && tagLength tag + text.utf8ByteSize ≤ longestKey
  | .sequence items => items.isEmpty && tagLength tag ≤ longestKey
  | .mapping entries => entries.isEmpty && tagLength tag ≤ longestKey
  | .tagged tag value => isSimpleKey (some tag) value
  | value =>
    (plainText? value).any fun text => tagLength tag + text.utf8ByteSize ≤ longestKey

/-- Whether the key of a single entry starts with a mapping of a single entry or with a tag. -/
def startsWithSingle : Value → Bool
  | .mapping entries => entries.length == 1
  | .tagged .. => true
  | _ => false

/-- Where a node stands: in its mapping, as a key on the line of its value, and with which tag. -/
structure Place where
  /-- The indentation of the enclosing collection, if there is one. -/
  indent : Option Nat
  /-- It is a key or a value of a mapping. -/
  inMapping : Bool
  /-- It is a key on the line of its value. -/
  simpleKey : Bool
  /-- Its tag. -/
  tag : Option String

/-- The indentation of text and of nested collections below a place. -/
def Place.inner (place : Place) (outermost : Nat) : Nat :=
  match place.indent with
  | none => outermost
  | some indent => indent + 2

/-- Writes a plain scalar at a place. -/
def writePlain (page : Page) (place : Place) (text : String) : Page :=
  writeScalar (writeTag page place.tag) .plain (place.inner 2) text.toList

mutual

/-- Writes a value at a place. -/
def write (page : Page) (place : Place) : Value → Option Page
  | .null => some (writePlain page place "null")
  | .bool value => some (writePlain page place (toString value))
  | .number value => some (writePlain page place value.headerText)
  | .string text =>
    let page := writeTag page place.tag
    some (writeScalar page (stringStyle text place.simpleKey) (place.inner 2) text.toList)
  | .sequence items =>
    let page := writeTag page place.tag
    if items.isEmpty then some (page.indicator ['[', ']'] true false false)
    else
      let indent :=
        match place.indent with
        | none => 0
        | some indent => if place.inMapping && !page.atIndentation then indent else indent + 2
      writeItems page indent items
  | .mapping entries =>
    let single := place.tag.isNone && entries.length == 1
    if single && entries.any (fun entry => startsWithSingle entry.1) then none
    else
      let page := writeTag page place.tag
      if entries.isEmpty then some (page.indicator ['{', '}'] true false false)
      else writeEntries page (place.inner 0) entries
  | .tagged tag value => write page { place with tag := some tag } value
termination_by structural value => value

/-- Writes the items of a sequence at the given indentation. -/
def writeItems (page : Page) (indent : Nat) : List Value → Option Page
  | [] => some page
  | item :: items => do
    let page := (page.indentTo indent).indicator ['-'] true false true
    let page ← write page ⟨some indent, false, false, none⟩ item
    writeItems page indent items
termination_by structural items => items

/-- Writes the entries of a mapping at the given indentation. -/
def writeEntries (page : Page) (indent : Nat) : List (Value × Value) → Option Page
  | [] => some page
  | (key, value) :: entries => do
    let page := page.indentTo indent
    if isSimpleKey none key then
      let page ← write page ⟨some indent, true, true, none⟩ key
      let page := page.indicator [':'] false false false
      let page ← write page ⟨some indent, true, false, none⟩ value
      writeEntries page indent entries
    else
      let page := page.indicator ['?'] true false true
      let page ← write page ⟨some indent, true, false, none⟩ key
      let page := (page.indentTo indent).indicator [':'] true false true
      let page ← write page ⟨some indent, true, false, none⟩ value
      writeEntries page indent entries
termination_by structural entries => entries

end

end Block

/-- The block text of a value, without blanks at its end, if it has one. -/
def Value.blockText? (value : Value) : Option String :=
  (Block.write .empty ⟨none, false, false, none⟩ value).map fun page =>
    trimEnd (String.ofList page.written.reverse)

end MarkdownTemplate
