import MarkdownTemplate.Toml.Failure

/-!
# Readers of TOML text

A `Reading` takes a value from the front of the text that is left, or fails. A failure lets
alternatives be tried at the place where the reading began, unless it is settled. `separated` and
`many` repeat a reading as long as it succeeds.
-/

namespace MarkdownTemplate

namespace Toml

/-- The text that is left to read. -/
structure Cursor where
  /-- The text that is left. -/
  rest : List Char
  /-- How many bytes come before it. -/
  offset : Nat := 0

/-- A reading of the front of a text. -/
abbrev Reading (α : Type) := StateT Cursor (Except Failure) α

namespace Reading

variable {α β : Type}

/-- Fails at the cursor. -/
def fail : Reading α := fun cursor => .error { offset := cursor.offset }

/-- Fails behind the next character if that is one byte long, and at it if it is longer or missing.
-/
def failBehindByte : Reading α := fun cursor =>
  match cursor.rest with
  | c :: _ => .error { offset := cursor.offset + if c.utf8Size == 1 then 1 else 0 }
  | [] => .error { offset := cursor.offset }

/-- Takes the next `count` characters. -/
def take (count : Nat) : Reading (List Char) := fun cursor =>
  let taken := cursor.rest.take count
  .ok (taken, ⟨cursor.rest.drop count, cursor.offset + byteLength taken⟩)

/-- The next character, which is not taken. -/
def next? : Reading (Option Char) := fun cursor => .ok (cursor.rest.head?, cursor)

/-- The number of bytes before the cursor. -/
def offset : Reading Nat := fun cursor => .ok (cursor.offset, cursor)

/-- More than the number of readings that can succeed one after another and take something. -/
def fuel : Reading Nat := fun cursor => .ok (cursor.rest.length + 1, cursor)

/-- The reading with its failures settled. -/
def settle (reading : Reading α) : Reading α := fun cursor =>
  match reading cursor with
  | .error failure => .error { failure with settled := true }
  | .ok result => .ok result

/-- The reading as that of a subject, which its failures name unless they name one already. -/
def named (subject : Subject) (reading : Reading α) : Reading α := fun cursor =>
  match reading cursor with
  | .error failure => .error { failure with subject := failure.subject <|> some subject }
  | .ok result => .ok result

/-- The reading with failures that say what was expected. -/
def expecting (expected : List Expectation) (reading : Reading α) : Reading α := fun cursor =>
  match reading cursor with
  | .error failure => .error { failure with expected := failure.expected ++ expected }
  | .ok result => .ok result

/-- The reading, or nothing if it fails without being settled. -/
def optional (reading : Reading α) : Reading (Option α) := fun cursor =>
  match reading cursor with
  | .ok (value, after) => .ok (some value, after)
  | .error failure => if failure.settled then .error failure else .ok (none, cursor)

/-- The reading, or the other one if it fails without being settled. -/
def orElse (reading other : Reading α) : Reading α := fun cursor =>
  match reading cursor with
  | .ok result => .ok result
  | .error failure => if failure.settled then .error failure else other cursor

/-- The reading without taking anything. -/
def ahead (reading : Reading α) : Reading α := fun cursor =>
  (reading cursor).map fun result => (result.1, cursor)

/-- The reading with its value converted. The value is that of the text from where the reading
began, so it is there that the conversion fails, and `settled` says whether it then is settled. -/
def converted (settled : Bool) (reading : Reading α) (convert : α → Except (Option Cause) β) :
    Reading β := fun cursor =>
  match reading cursor with
  | .error failure => .error failure
  | .ok (value, after) =>
    match convert value with
    | .ok result => .ok (result, after)
    | .error cause => .error { offset := cursor.offset, cause, settled }

/-- The reading with the characters it takes instead of its value. -/
def taken (reading : Reading α) : Reading (List Char) := fun cursor =>
  (reading cursor).map fun result =>
    (cursor.rest.take (cursor.rest.length - result.2.rest.length), result.2)

/-- The reading with the span of what it takes. -/
def spanned (reading : Reading α) : Reading (α × Span) := fun cursor =>
  (reading cursor).map fun result => ((result.1, ⟨cursor.offset, result.2.offset⟩), result.2)

/-- Takes the longest run of characters that satisfy `p`. -/
def takeWhile (p : Char → Bool) : Reading (List Char) := fun cursor =>
  let run := cursor.rest.takeWhile p
  .ok (run, ⟨cursor.rest.dropWhile p, cursor.offset + byteLength run⟩)

/-- Takes the longest run of characters that satisfy `p`; there has to be one. -/
def takeSome (p : Char → Bool) : Reading (List Char) := do
  let run ← takeWhile p
  if run.isEmpty then fail else return run

/-- Takes one character that satisfies `p`. -/
def one (p : Char → Bool) : Reading Char := fun cursor =>
  match cursor.rest with
  | c :: rest =>
    if p c then .ok (c, ⟨rest, cursor.offset + c.utf8Size⟩)
    else .error { offset := cursor.offset }
  | [] => .error { offset := cursor.offset }

/-- Takes the character `c`. -/
def char (c : Char) : Reading Char :=
  one (· == c)

/-- Takes these characters. -/
def word (text : List Char) : Reading Unit := do
  if text.isPrefixOf (← get).rest then
    let _ ← take text.length
  else fail

/-- Takes nothing, and succeeds at the end of the text only. -/
def atEnd : Reading Unit := do
  match ← next? with
  | none => return ()
  | some _ => fail

/-- Repeats the reading as long as it succeeds, at most `count` times. -/
def repeated (reading : Reading α) : Nat → Reading (List α)
  | 0 => return []
  | count + 1 => do
    match ← optional reading with
    | none => return []
    | some value => return value :: (← repeated reading count)

/-- Repeats the reading, which takes something, as long as it succeeds. -/
def many (reading : Reading α) : Reading (List α) := do
  repeated reading (← fuel)

/-- One or more values with a separator between them. A separator with no value behind it is left.
-/
def separatedSome (reading : Reading α) (separator : Char) : Reading (List α) := do
  let first ← reading
  let others ← many do
    let _ ← char separator
    reading
  return first :: others

/-- Values with a separator between them. A separator with no value behind it is left. -/
def separated (reading : Reading α) (separator : Char) : Reading (List α) := do
  return (← optional (separatedSome reading separator)).getD []

end Reading

open Reading

/-- Whether `c` may stand in a comment. -/
def isCommentChar (c : Char) : Bool :=
  c == '\t' || (c.toNat ≥ 0x20 && c.toNat != 0x7f)

/-- Skips spaces and tabs. -/
def blanks : Reading Unit := do
  let _ ← takeWhile isSpaceOrTab

/-- Reads a line break. -/
def newline : Reading Unit := do
  match (← get).rest with
  | '\n' :: _ =>
    let _ ← take 1
  | '\r' :: '\n' :: _ =>
    let _ ← take 2
  | _ => failBehindByte

/-- Reads a comment up to the end of its line. -/
def comment : Reading Unit := do
  let _ ← char '#'
  let _ ← takeWhile isCommentChar

/-- Reads a line break or finds the end of the text. -/
def lineEnd : Reading Unit :=
  orElse newline atEnd

/-- Reads what may follow on the line of a value or a header. -/
def restOfLine : Reading Unit :=
  expecting [.newline, .spelled "#"] do
    blanks
    let _ ← optional comment
    lineEnd

/-- Skips blanks, line breaks and comments, of which there are at most `count`. -/
def blankLinesUpTo : Nat → Reading Unit
  | 0 => return ()
  | count + 1 => do
    blanks
    match ← next? with
    | some '#' =>
      comment
      newline
      blankLinesUpTo count
    | some '\n' | some '\r' =>
      newline
      blankLinesUpTo count
    | _ => return ()

/-- Skips blanks, line breaks and comments. A comment has to end in a line break. -/
def blankLines : Reading Unit := do
  blankLinesUpTo (← fuel)

end Toml

end MarkdownTemplate
