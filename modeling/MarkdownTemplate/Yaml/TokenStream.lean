import MarkdownTemplate.Yaml.TagText

/-!
# Cutting a YAML text into tokens

A key needs no mark of its own: only the colon after it shows that it was one. So a token that could
be a key is remembered as a `PendingKey`, and when the colon comes, the tokens that start the key
are put in front of it. `TokenStream.ofText` gives all tokens up to the end or to the first failure;
tokens that might still turn out to be keys when the failure comes are not given.
-/

namespace MarkdownTemplate

namespace Yaml

/-- A token that may turn out to be a key. -/
structure PendingKey where
  /-- Whether it has to be a key. -/
  required : Bool
  /-- How many tokens come before it. -/
  tokens : Nat
  /-- Where it starts. -/
  mark : Mark

/-- The longest key without a mark of its own, in characters. -/
def longestSimpleKey : Nat := 1024

/-- The state of cutting a text into tokens. -/
structure Scanner where
  /-- The text that is left. -/
  cursor : Cursor
  /-- The tokens so far. -/
  tokens : Array Token
  /-- The column of the innermost block collection, if there is one. -/
  indent : Option Nat
  /-- The columns of the block collections around it. -/
  outerIndents : List (Option Nat)
  /-- Whether a key may start here. -/
  keyAllowed : Bool
  /-- The pending key of the innermost flow collection, or of the block context. -/
  pending : Option PendingKey
  /-- The pending keys of the flow collections around it, and last of the block context. -/
  outerPending : List (Option PendingKey)
  /-- Whether the end of the text is reached. -/
  finished : Bool := false

namespace Scanner

/-- A step that may fail. -/
abbrev Step := Except Failure Scanner

/-- Whether the scanner is inside a flow collection. -/
def inFlow (scanner : Scanner) : Bool :=
  !scanner.outerPending.isEmpty

/-- The place that is reached. -/
def mark (scanner : Scanner) : Mark :=
  scanner.cursor.mark

/-- The state before the first token is read; the start of the stream is the first token. -/
def start (chars : List Char) : Scanner where
  cursor := ⟨chars, ⟨0, 0, 0⟩⟩
  tokens := #[⟨.streamStart, ⟨0, 0, 0⟩, ⟨0, 0, 0⟩⟩]
  indent := none
  outerIndents := []
  keyAllowed := true
  pending := none
  outerPending := []

/-- Adds a token. -/
def add (scanner : Scanner) (kind : TokenKind) (start stop : Mark) : Scanner :=
  { scanner with tokens := scanner.tokens.push ⟨kind, start, stop⟩ }

/-- Puts a token after the first `count` ones. -/
def insert (scanner : Scanner) (count : Nat) (kind : TokenKind) (mark : Mark) : Scanner :=
  { scanner with
    tokens := scanner.tokens.take count ++ #[⟨kind, mark, mark⟩] ++ scanner.tokens.drop count }

/-- Adds the token of an indicator of `length` characters at the cursor and passes over it. -/
def indicator (scanner : Scanner) (kind : TokenKind) (length : Nat := 1) : Scanner :=
  let cursor := scanner.cursor.skip length
  { scanner.add kind scanner.mark cursor.mark with cursor }

/-- Whether a pending key ends at a place at the latest: on its line, and not too far on. -/
def isStale (mark : Mark) (key : PendingKey) : Bool :=
  key.mark.line < mark.line || key.mark.index + longestSimpleKey < mark.index

/-- The failure that a required key is none. -/
def missingValue (scanner : Scanner) (key : PendingKey) : Step :=
  .error {
    cause := .keyWithoutValue
    mark := scanner.mark
    activity := some (.simpleKey, key.mark) }

/-- Drops the pending keys that ended. The outermost comes first. -/
def dropStale (scanner : Scanner) : Step :=
  let stale := ((scanner.pending :: scanner.outerPending).reverse.filterMap id).filter
    (isStale scanner.mark)
  match stale.find? (·.required) with
  | some key => scanner.missingValue key
  | none =>
    let keep (key : Option PendingKey) : Option PendingKey := key.filter (!isStale scanner.mark ·)
    .ok { scanner with
      pending := keep scanner.pending, outerPending := scanner.outerPending.map keep }

/-- Drops the innermost pending key. -/
def dropPending (scanner : Scanner) : Step :=
  match scanner.pending with
  | some key =>
    if key.required then scanner.missingValue key else .ok { scanner with pending := none }
  | none => .ok scanner

/-- Remembers that a key may start here. A key is required if it starts at the column of its block
collection. -/
def savePending (scanner : Scanner) : Step :=
  if scanner.keyAllowed then do
    let required := !scanner.inFlow && scanner.indent == some scanner.mark.column
    let scanner ← scanner.dropPending
    return { scanner with pending := some ⟨required, scanner.tokens.size, scanner.mark⟩ }
  else .ok scanner

/-- Opens a block collection at `column`, unless one is open there or further in; its token comes
after the first `count` ones. -/
def openBlock (scanner : Scanner) (column count : Nat) (kind : TokenKind) (mark : Mark) : Scanner :=
  if scanner.inFlow || scanner.indent.any (column ≤ ·) then scanner
  else
    { scanner.insert count kind mark with
      indent := some column, outerIndents := scanner.indent :: scanner.outerIndents }

/-- Closes the block collections further in than `column`, which is none to close all. -/
def closeBlocks (scanner : Scanner) (column : Option Nat) : Scanner :=
  if scanner.inFlow then scanner else go scanner.indent scanner.outerIndents scanner
where
  /-- Closes the collection at `indent` and then those around it. -/
  go (indent : Option Nat) (outer : List (Option Nat)) (scanner : Scanner) : Scanner :=
    if indent.any fun indent => column.all (· < indent) then
      let scanner := scanner.add .blockEnd scanner.mark scanner.mark
      match outer with
      | [] => { scanner with indent := none, outerIndents := [] }
      | indent :: outer => go indent outer { scanner with indent, outerIndents := outer }
    else scanner

/-- Passes over blanks, comments and line breaks from `mark` on. A tab is a blank only where no key
may start, and after a line break a key may start. -/
def passBlanks (inFlow : Bool) (keyAllowed inComment : Bool) (mark : Mark) :
    List Char → Bool × Cursor
  | [] => (keyAllowed, ⟨[], mark⟩)
  | c :: rest =>
    if c == '\r' && rest.head? == some '\n' then
      -- a line feed after a carriage return ends the same line
      passBlanks inFlow keyAllowed inComment { mark with index := mark.index + 1 } rest
    else if isLineBreak c then
      passBlanks inFlow (keyAllowed || !inFlow) false (mark.nextLine 1) rest
    else if inComment || c == ' ' || (c == '\t' && (inFlow || !keyAllowed)) ||
        (c == '\ufeff' && mark.index == 0) then
      passBlanks inFlow keyAllowed inComment (mark.advance 1) rest
    else if c == '#' then passBlanks inFlow keyAllowed true (mark.advance 1) rest
    else (keyAllowed, ⟨c :: rest, mark⟩)

/-- Goes on to the first character of the next token. -/
def toNextToken (scanner : Scanner) : Scanner :=
  let (keyAllowed, cursor) :=
    passBlanks scanner.inFlow scanner.keyAllowed false scanner.mark scanner.cursor.rest
  { scanner with keyAllowed, cursor }

/-- Reads the end of the text. -/
def readStreamEnd (scanner : Scanner) : Step := do
  let mark := scanner.mark
  -- the end of the text stands at the start of a line
  let mark := if mark.column == 0 then mark else { mark with line := mark.line + 1, column := 0 }
  let scanner := { scanner with cursor := ⟨scanner.cursor.rest, mark⟩ }
  let scanner ← (scanner.closeBlocks none).dropPending
  return { scanner.add .streamEnd mark mark with keyAllowed := false, finished := true }

/-- Reads a directive. -/
def readDirectiveToken (scanner : Scanner) : Step := do
  let scanner ← (scanner.closeBlocks none).dropPending
  let (kind, cursor) ← readDirective scanner.cursor
  return { scanner.add kind scanner.mark cursor.mark with keyAllowed := false, cursor }

/-- Reads the mark that starts or ends a document. -/
def readDocumentMark (scanner : Scanner) (kind : TokenKind) : Step := do
  let scanner ← (scanner.closeBlocks none).dropPending
  return { scanner.indicator kind 3 with keyAllowed := false }

/-- Reads an opening bracket. -/
def readFlowStart (scanner : Scanner) (kind : TokenKind) : Step := do
  let scanner ← scanner.savePending
  let scanner := scanner.indicator kind
  return { scanner with
    keyAllowed := true, pending := none, outerPending := scanner.pending :: scanner.outerPending }

/-- Reads a closing bracket. -/
def readFlowEnd (scanner : Scanner) (kind : TokenKind) : Step := do
  let scanner ← scanner.dropPending
  let scanner := { scanner.indicator kind with keyAllowed := false }
  match scanner.outerPending with
  | [] => return scanner
  | pending :: outerPending => return { scanner with pending, outerPending }

/-- Reads a comma in a flow collection. -/
def readFlowEntry (scanner : Scanner) : Step := do
  let scanner ← scanner.dropPending
  return { scanner.indicator .flowEntry with keyAllowed := true }

/-- Fails at the cursor without naming an activity. -/
def failHere (scanner : Scanner) (cause : Cause) : Step :=
  .error { cause, mark := scanner.mark }

/-- Opens a block collection at the cursor, where `cause` is what is wrong if none may start. -/
def openHere (scanner : Scanner) (kind : TokenKind) (cause : Cause) : Step :=
  if scanner.inFlow then .ok scanner
  else if !scanner.keyAllowed then scanner.failHere cause
  else .ok (scanner.openBlock scanner.mark.column scanner.tokens.size kind scanner.mark)

/-- Reads the dash before an item. -/
def readBlockEntry (scanner : Scanner) : Step := do
  let scanner ← scanner.openHere .blockSequenceStart .itemNotAllowed
  let scanner ← scanner.dropPending
  return { scanner.indicator .blockEntry with keyAllowed := true }

/-- Reads the mark of a key. -/
def readKey (scanner : Scanner) : Step := do
  let scanner ← scanner.openHere .blockMappingStart .keyNotAllowed
  let scanner ← scanner.dropPending
  return { scanner.indicator .key with keyAllowed := !scanner.inFlow }

/-- Reads the colon before a value. If a key is pending, its tokens are put in front of it. -/
def readValue (scanner : Scanner) : Step := do
  match scanner.pending with
  | some key =>
    -- the key was one after all, and perhaps the first one of a mapping
    let scanner := scanner.insert key.tokens .key key.mark
    let scanner := scanner.openBlock key.mark.column key.tokens .blockMappingStart key.mark
    return { scanner.indicator .value with pending := none, keyAllowed := false }
  | none =>
    -- a value without a key may open a mapping as well
    let scanner ← scanner.openHere .blockMappingStart .valueNotAllowed
    return { scanner.indicator .value with keyAllowed := !scanner.inFlow }

/-- Reads an anchor or an alias. -/
def readAnchorToken (scanner : Scanner) (activity : Activity) (kind : String → TokenKind) :
    Step := do
  let scanner ← scanner.savePending
  let (name, cursor) ← readAnchor activity scanner.cursor
  return { scanner.add (kind name) scanner.mark cursor.mark with keyAllowed := false, cursor }

/-- Reads a tag. -/
def readTagToken (scanner : Scanner) : Step := do
  let scanner ← scanner.savePending
  let (kind, cursor) ← readTag scanner.inFlow scanner.cursor
  return { scanner.add kind scanner.mark cursor.mark with keyAllowed := false, cursor }

/-- Reads a block scalar. -/
def readBlockToken (scanner : Scanner) : Step := do
  let scanner ← scanner.dropPending
  let scalar ← readBlock scanner.indent scanner.cursor
  let token := TokenKind.scalar scalar.text .block
  return { scanner.add token scanner.mark scalar.cursor.mark with
    keyAllowed := true, cursor := scalar.cursor }

/-- Reads a quoted scalar. -/
def readQuotedToken (scanner : Scanner) (quote : Char) : Step := do
  let scanner ← scanner.savePending
  let scalar ← readQuoted quote scanner.cursor
  let token := TokenKind.scalar scalar.text .quoted
  return { scanner.add token scanner.mark scalar.cursor.mark with
    keyAllowed := false, cursor := scalar.cursor }

/-- Reads a plain scalar. A key may follow it if a line break does. -/
def readPlainToken (scanner : Scanner) : Step := do
  let scanner ← scanner.savePending
  let column :=
    match scanner.indent with
    | some indent => indent + 1
    | none => 0
  let scalar ← readPlain scanner.inFlow column scanner.cursor
  let token := TokenKind.scalar scalar.text .plain
  return { scanner.add token scanner.mark scalar.cursor.mark with
    keyAllowed := scalar.brokeLine, cursor := scalar.cursor }

/-- Whether a plain scalar may start with `c` before `rest`. -/
def startsPlain (inFlow : Bool) (c : Char) (rest : List Char) : Bool :=
  if c == '-' then !rest.head?.any isSpaceOrTab
  else if c == '?' || c == ':' then !inFlow && !atBlankOrEnd rest
  else !(isSpaceOrTab c || isLineBreak c ||
    ['?', ':', ',', '[', ']', '{', '}', '#', '&', '*', '!', '|', '>', '\'', '"', '%', '@',
      '`'].contains c)

/-- Reads the token at the cursor. -/
def readToken (scanner : Scanner) : Step :=
  match scanner.cursor.rest with
  | [] => scanner.readStreamEnd
  | c :: rest =>
    let atLineStart := scanner.mark.column == 0
    let inFlow := scanner.inFlow
    -- directives and document marks count at the start of a line only
    if atLineStart && c == '%' then scanner.readDirectiveToken
    else if atLineStart && startsWithMark '-' (c :: rest) then
      scanner.readDocumentMark .documentStart
    else if atLineStart && startsWithMark '.' (c :: rest) then scanner.readDocumentMark .documentEnd
    else if c == '[' then scanner.readFlowStart .flowSequenceStart
    else if c == '{' then scanner.readFlowStart .flowMappingStart
    else if c == ']' then scanner.readFlowEnd .flowSequenceEnd
    else if c == '}' then scanner.readFlowEnd .flowMappingEnd
    else if c == ',' then scanner.readFlowEntry
    else if c == '-' && atBlankOrEnd rest then scanner.readBlockEntry
    else if c == '?' && (inFlow || atBlankOrEnd rest) then scanner.readKey
    else if c == ':' && (inFlow || atBlankOrEnd rest) then scanner.readValue
    else if c == '*' then scanner.readAnchorToken .aliasName .aliasOf
    else if c == '&' then scanner.readAnchorToken .anchor .anchor
    else if c == '!' then scanner.readTagToken
    else if (c == '|' || c == '>') && !inFlow then scanner.readBlockToken
    else if c == '\'' || c == '"' then scanner.readQuotedToken c
    else if startsPlain inFlow c rest then scanner.readPlainToken
    else
      .error {
        cause := .noToken
        mark := scanner.mark
        activity := some (.nextToken, scanner.mark) }

/-- Goes on to the next token and reads it. -/
def next (scanner : Scanner) : Step := do
  let scanner ← scanner.toNextToken.dropStale
  let scanner ← (scanner.closeBlocks (some scanner.mark.column)).readToken
  scanner.dropStale

/-- How many of the tokens cannot turn out to be keys any more, nor come after one that can. -/
def settled (scanner : Scanner) : Nat :=
  (scanner.pending :: scanner.outerPending).foldl
    (fun count key => key.elim count fun key => min count key.tokens) scanner.tokens.size

end Scanner

/-- The tokens of a text, and the failure that comes after them, if there is one. -/
structure TokenStream where
  /-- The tokens in order. -/
  tokens : List Token
  /-- What is wrong after them. -/
  failure : Option Failure

namespace TokenStream

/-- Reads tokens until the end of the text or a failure, at most `fuel` times. -/
def run (scanner : Scanner) : Nat → TokenStream
  | 0 => ⟨scanner.tokens.toList, none⟩
  | fuel + 1 =>
    if scanner.finished then ⟨scanner.tokens.toList, none⟩
    else
      match scanner.next with
      | .ok scanner => run scanner fuel
      -- what could still be a key is not given
      | .error failure => ⟨scanner.tokens.toList.take scanner.settled, some failure⟩

/-- Whether a YAML text may hold `c`. -/
def isAllowed (c : Char) : Bool :=
  c == '\t' || c == '\n' || c == '\r' || (' ' ≤ c && c ≤ '~') || c == '\u0085' ||
    ('\u00a0' ≤ c && c.toNat ≤ 0xfffd) || 0x10000 ≤ c.toNat

/-- The number of bytes before the first character that no text may hold, if there is one. -/
def forbiddenAt? (offset : Nat) : List Char → Option Nat
  | [] => none
  | c :: rest => if isAllowed c then forbiddenAt? (offset + c.utf8Size) rest else some offset

/-- The tokens of a text. A mark of the byte order at its start is dropped. Each token takes at
least one character, the end of the text apart. -/
def ofText (text : String) : TokenStream :=
  let chars := text.toList
  match forbiddenAt? 0 chars with
  | some offset =>
    ⟨[], some { cause := .controlCharacter, mark := ⟨0, 0, 0⟩, offset }⟩
  | none =>
    let chars := if chars.head? == some '\ufeff' then chars.drop 1 else chars
    run (.start chars) (chars.length + 2)

end TokenStream

end Yaml

end MarkdownTemplate
