import MarkdownTemplate.Decimal.Numeral
import MarkdownTemplate.Toml.Reading

/-!
# Strings in TOML text

A string stands between quotes, with escapes, or between apostrophes, without any. Three quotes or
apostrophes enclose a string of several lines, which may hold one or two of them in a row and loses
a line break at its start.
-/

namespace MarkdownTemplate

namespace Toml

open Reading

/-- Whether `c` stands for itself between quotes. -/
def isBasicChar (c : Char) : Bool :=
  isCommentChar c && c != '"' && c != '\\'

/-- Whether `c` may stand between apostrophes. -/
def isLiteralChar (c : Char) : Bool :=
  isCommentChar c && c != '\''

/-- The character that an escape of one letter stands for. -/
def shortEscape? : Char → Option Char
  | 'b' => some '\x08'
  | 'f' => some '\x0c'
  | 'n' => some '\n'
  | 'r' => some '\r'
  | 't' => some '\t'
  | '"' => some '"'
  | '\\' => some '\\'
  | _ => none

/-- The character of a code. -/
def codeChar (code : Nat) : Except (Option Cause) Char :=
  if code.isValidChar then .ok (Char.ofNat code) else .error (some .outOfRange)

/-- Reads the given number of digits of a code. -/
def codeDigits (digits : Nat) : Reading Char := named (.code digits) <| settle do
  let chars := ((← get).rest.take digits).takeWhile (isDigitIn 16)
  if chars.length < digits then fail
  else converted true (take digits) fun chars => codeChar ((readNatural? 16 chars).getD 0)

/-- Reads an escape after its backslash. -/
def escape : Reading Char := do
  match ← next? with
  | none => fail
  | some c =>
    match shortEscape? c with
    | some escaped =>
      let _ ← take 1
      return escaped
    | none =>
      if c == 'u' || c == 'U' then
        let _ ← take 1
        codeDigits (if c == 'u' then 4 else 8)
      else
        let letters := ["b", "f", "n", "r", "t", "u", "U", "\\", "\""]
        named .escape <| expecting (letters.map .spelled) <| settle failBehindByte

/-- Reads an escaped character. -/
def escaped : Reading (List Char) := do
  let _ ← char '\\'
  return [← escape]

/-- Reads a string between quotes on one line. -/
def basicString : Reading (List Char) := do
  let _ ← char '"'
  let pieces ← many (orElse (takeSome isBasicChar) escaped)
  let _ ← named .basicString (settle (char '"'))
  return pieces.flatten

/-- Reads a string between apostrophes on one line. -/
def literalString : Reading (List Char) := named .literalString do
  let _ ← char '\''
  let text ← takeWhile isLiteralChar
  let _ ← settle (char '\'')
  return text

/-- Skips escaped line breaks with the blank text behind each. -/
def joinedLines : Reading (List Char) := do
  let joined : Reading Unit := do
    let _ ← char '\\'
    blanks
    newline
    let _ ← many (orElse newline do
      let _ ← takeSome isSpaceOrTab)
  joined
  let _ ← many joined
  return []

/-- Reads a line break as a line feed. -/
def lineBreak : Reading (List Char) := do
  newline
  return ['\n']

/-- Reads text of a string between three quotes. -/
def multilinePiece : Reading (List Char) :=
  orElse (takeSome isBasicChar) (orElse joinedLines (orElse escaped lineBreak))

/-- Three times the same mark. -/
def triple (mark : Char) : List Char :=
  [mark, mark, mark]

/-- Reads two or one of the marks before something that `stop` reads. -/
def marksBefore (mark : Char) (stop : Reading Unit) : Reading (List Char) :=
  let before (marks : List Char) : Reading (List Char) := do
    word marks
    ahead stop
    return marks
  orElse (before [mark, mark]) (before [mark])

/-- Reads a character other than the mark. -/
def otherThan (mark : Char) : Reading Unit := do
  let _ ← one (· != mark)

/-- Reads text of a string between three quotes, with one or two quotes before each further part. -/
def multilineParts : Nat → Reading (List Char)
  | 0 => return []
  | count + 1 => do
    match ← optional (marksBefore '"' (otherThan '"')) with
    | none => return []
    | some marks =>
      let pieces ← many multilinePiece
      if pieces.isEmpty then return []
      else return marks ++ pieces.flatten ++ (← multilineParts count)

/-- Reads a string between three quotes. -/
def multilineBasicString : Reading (List Char) := named .multilineBasicString do
  word (triple '"')
  let _ ← optional newline
  settle do
    let first ← many multilinePiece
    let parts ← multilineParts (← fuel)
    let marks ← optional (marksBefore '"' (word (triple '"')))
    word (triple '"')
    return first.flatten ++ parts ++ marks.getD []

/-- Reads text of a string between three apostrophes. -/
def literalPiece : Reading (List Char) :=
  orElse (takeSome isLiteralChar) lineBreak

/-- Reads a string between three apostrophes. -/
def multilineLiteralString : Reading (List Char) := named .multilineLiteralString do
  word (triple '\'')
  let _ ← optional newline
  settle do
    let first ← many literalPiece
    let parts ← many do
      let marks ← marksBefore '\'' (otherThan '\'')
      let piece ← literalPiece
      let pieces ← many literalPiece
      return marks ++ piece ++ pieces.flatten
    let marks ← optional (marksBefore '\'' (word (triple '\'')))
    word (triple '\'')
    return first.flatten ++ parts.flatten ++ marks.getD []

/-- Reads a string of any form. -/
def stringText : Reading String := do
  let chars ← orElse multilineBasicString
    (orElse basicString (orElse multilineLiteralString literalString))
  return String.ofList chars

end Toml

end MarkdownTemplate
