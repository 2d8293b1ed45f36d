import MarkdownTemplate.Json.Value
import MarkdownTemplate.Text.Span

/-!
# Reading JSON text

`Json.read` reads a JSON value and keeps the order and the repetitions of members. The steps it is
made of work on a `Json.Cursor`, the text that is left with its position, so that other readers can
be built from them. Lines are counted from one and columns in bytes from zero.
-/

namespace MarkdownTemplate

namespace Json

/-- What can be wrong with a JSON text. -/
inductive Cause where
  -- the text ends too early
  | endInArray
  | endInObject
  | endInString
  | endInValue
  -- something else is needed
  | expectedColon
  | expectedItemEnd
  | expectedMemberEnd
  | expectedLiteral
  | expectedValue
  -- something is not well formed
  | invalidEscape
  | invalidNumber
  | numberOutOfRange
  | controlCharacter
  | nameNotString
  | loneSurrogate
  | endOfHexEscape
  -- something is too much
  | trailingComma
  | trailingCharacters
  | tooDeep
deriving DecidableEq

/-- The wording of a cause. -/
def Cause.message : Cause → String
  | endInArray => "EOF while parsing a list"
  | endInObject => "EOF while parsing an object"
  | endInString => "EOF while parsing a string"
  | endInValue => "EOF while parsing a value"
  | expectedColon => "expected `:`"
  | expectedItemEnd => "expected `,` or `]`"
  | expectedMemberEnd => "expected `,` or `\x7d`"
  | expectedLiteral => "expected ident"
  | expectedValue => "expected value"
  | invalidEscape => "invalid escape"
  | invalidNumber => "invalid number"
  | numberOutOfRange => "number out of range"
  | controlCharacter => "control character (\\u0000-\\u001F) found while parsing a string"
  | nameNotString => "key must be a string"
  | loneSurrogate => "lone leading surrogate in hex escape"
  | endOfHexEscape => "unexpected end of hex escape"
  | trailingComma => "trailing comma"
  | trailingCharacters => "trailing characters"
  | tooDeep => "recursion limit exceeded"

/-- A place in a JSON text. -/
structure Position where
  /-- The line, counted from one. -/
  line : Nat := 1
  /-- The bytes before the place on its line. -/
  column : Nat := 0
deriving DecidableEq

namespace Position

/-- The place after the character `c`. -/
def next (position : Position) (c : Char) : Position :=
  if c == '\n' then ⟨position.line + 1, 0⟩
  else ⟨position.line, position.column + c.utf8Size⟩

/-- How a message names the place. -/
def display (position : Position) : String :=
  s!"line {position.line} column {position.column}"

end Position

/-- The text that is left to read and the position of its first character. -/
structure Cursor where
  /-- The text that is left. -/
  rest : List Char
  /-- Where it starts. -/
  position : Position := ⟨1, 0⟩

/-- A reader's failure: its cause and its place. -/
structure Failure where
  /-- What is wrong. -/
  cause : Cause
  /-- Where it is wrong. -/
  position : Position
deriving DecidableEq

/-- The wording of a failure. -/
def Failure.message (failure : Failure) : String :=
  failure.cause.message ++ " at " ++ failure.position.display

namespace Cursor

/-- A cursor at the start of a text. -/
def ofString (text : String) : Cursor :=
  ⟨text.toList, ⟨1, 0⟩⟩

/-- The cursor after the next character. -/
def skip (cursor : Cursor) : Cursor :=
  match cursor.rest with
  | [] => cursor
  | c :: rest => ⟨rest, cursor.position.next c⟩

/-- The position after the next `count` bytes, which may end inside a character. -/
def positionAfter (position : Position) : Nat → List Char → Position
  | 0, _ => position
  | _ + 1, [] => position
  | count + 1, c :: rest =>
    if c.utf8Size ≤ count + 1 then positionAfter (position.next c) (count + 1 - c.utf8Size) rest
    else ⟨position.line, position.column + (count + 1)⟩

/-- Fails at the cursor. -/
def fail {α : Type} (cursor : Cursor) (cause : Cause) : Except Failure α :=
  .error ⟨cause, cursor.position⟩

/-- Fails on the next byte, so the position is the one after it. -/
def failAtNext {α : Type} (cursor : Cursor) (cause : Cause) : Except Failure α :=
  .error ⟨cause, positionAfter cursor.position 1 cursor.rest⟩

/-- Drops the leading characters that satisfy `p`. -/
def skipWhile (p : Char → Bool) (cursor : Cursor) : Cursor :=
  go cursor.position cursor.rest
where
  /-- Drops from `chars`, which start at `position`. -/
  go (position : Position) : List Char → Cursor
    | [] => ⟨[], position⟩
    | c :: chars => if p c then go (position.next c) chars else ⟨c :: chars, position⟩

/-- Drops white space. -/
def skipBlank (cursor : Cursor) : Cursor :=
  cursor.skipWhile fun c => c == ' ' || c == '\n' || c == '\t' || c == '\r'

/-- Reads the rest of a literal word. -/
def literal (cursor : Cursor) : List Char → Except Failure Cursor
  | [] => .ok cursor
  | expected :: word =>
    match cursor.rest with
    | [] => cursor.fail .endInValue
    | c :: _ =>
      if c == expected then cursor.skip.literal word else cursor.skip.fail .expectedLiteral

end Cursor

/-- Reads the four digits of an escape, which start at the cursor. -/
def hexEscape (cursor : Cursor) : Except Failure Nat :=
  match readPlaces? 16 4 cursor.rest with
  | some code => .ok code
  | none =>
    let size := byteLength cursor.rest
    if size < 4 then
      .error ⟨.endInString, Cursor.positionAfter cursor.position size cursor.rest⟩
    else .error ⟨.invalidEscape, Cursor.positionAfter cursor.position 4 cursor.rest⟩

/-- Reads an escaped code, whose digits start at the cursor, and the escaped code after it if the
first is a leading surrogate. The result is the character and how many characters it takes. -/
def unicodeEscape (cursor : Cursor) : Except Failure (Char × Nat) := do
  let code ← hexEscape cursor
  let after : Cursor := ⟨cursor.rest.drop 4, Cursor.positionAfter cursor.position 4 cursor.rest⟩
  if 0xdc00 ≤ code && code ≤ 0xdfff then
    -- a trailing surrogate has to come after a leading one
    after.fail .loneSurrogate
  else if code < 0xd800 || 0xdbff < code then
    -- a character outside the surrogates needs no second escape
    return (Char.ofNat code, 4)
  else
    match after.rest with
    | [] => after.fail .endInString
    | '\\' :: [] => after.skip.fail .endInString
    | '\\' :: 'u' :: rest =>
      let low ← hexEscape after.skip.skip
      let stop := Cursor.positionAfter after.skip.skip.position 4 rest
      if low < 0xdc00 || 0xdfff < low then .error ⟨.loneSurrogate, stop⟩
      else return (Char.ofNat ((code - 0xd800) * 1024 + (low - 0xdc00) + 0x10000), 10)
    | '\\' :: c :: _ =>
      .error ⟨.endOfHexEscape, Cursor.positionAfter after.skip.position 1 [c]⟩
    | c :: _ => .error ⟨.endOfHexEscape, Cursor.positionAfter after.position 1 [c]⟩

/-- The character that an escape of one letter stands for. -/
def shortEscape? : Char → Option Char
  | '"' => some '"'
  | '\\' => some '\\'
  | '/' => some '/'
  | 'b' => some '\x08'
  | 'f' => some '\x0c'
  | 'n' => some '\n'
  | 'r' => some '\r'
  | 't' => some '\t'
  | _ => none

/-- Reads a string after its opening quote. The first `skipped` characters belong to an escape that
is already read; `text` is what is read so far, last character first. With `decode` false, the
string is only passed over, and the codes of escapes need not be characters. -/
def stringBody (decode : Bool) (skipped : Nat) (text : List Char) (position : Position) :
    List Char → Except Failure (String × Cursor)
  | [] => .error ⟨.endInString, position⟩
  | c :: rest =>
    let after := position.next c
    match skipped with
    -- the characters of an escape are passed one by one, since the recursion is on the text
    | skipped + 1 => stringBody decode skipped text after rest
    | 0 =>
      if c == '"' then .ok (String.ofList text.reverse, ⟨rest, after⟩)
      else if c == '\\' then
        match rest with
        | [] => .error ⟨.endInString, after⟩
        | e :: digits =>
          let afterLetter := after.next e
          if e == 'u' then
            if decode then
              match unicodeEscape ⟨digits, afterLetter⟩ with
              | .error failure => .error failure
              | .ok (decoded, taken) =>
                stringBody decode (taken + 1) (decoded :: text) after rest
            else
              match hexEscape ⟨digits, afterLetter⟩ with
              | .error failure => .error failure
              | .ok _ => stringBody decode 5 text after rest
          else
            match shortEscape? e with
            | some decoded => stringBody decode 1 (decoded :: text) after rest
            | none => .error ⟨.invalidEscape, Cursor.positionAfter after 1 rest⟩
      else if c.toNat < 32 then .error ⟨.controlCharacter, after⟩
      else stringBody decode 0 (c :: text) after rest

/-- Reads a string after its opening quote. -/
def readString (cursor : Cursor) : Except Failure (String × Cursor) :=
  stringBody true 0 [] cursor.position cursor.rest

/-- Whether `c` is a decimal digit. -/
def isDigit (c : Char) : Bool :=
  '0' ≤ c && c ≤ '9'

/-- The value of a decimal digit. -/
def digitValue (c : Char) : Nat :=
  c.toNat - '0'.toNat

/-- The largest significand that is kept while a number is read. -/
def greatestSignificand : Nat := powTwo 64 - 1

/-- Digits of a number added to a significand. When the next digit would pass the greatest
significand, it and all digits after it are dropped. -/
structure Digits where
  /-- The significand with the digits that were kept. -/
  significand : Nat
  /-- How many digits were kept. -/
  kept : Nat
  /-- How many digits were dropped. -/
  dropped : Nat
  /-- What follows the digits. -/
  cursor : Cursor

/-- Reads the digits at the start of `chars` into `digits`. -/
def takeDigits (digits : Digits) : List Char → Digits
  | [] => digits
  | c :: rest =>
    if isDigit c then
      let cursor : Cursor := ⟨rest, digits.cursor.position.next c⟩
      let longer := digits.significand * 10 + digitValue c
      if digits.dropped == 0 && longer ≤ greatestSignificand then
        takeDigits ⟨longer, digits.kept + 1, 0, cursor⟩ rest
      else
        takeDigits { digits with dropped := digits.dropped + 1, cursor } rest
    else
      digits

/-- The largest exponent that is read in full. -/
def greatestExponentRead : Nat := powTwo 31 - 1

/-- The double `significand * 10 ^ exponent`, got from the significand by one product or quotient
with a power of ten for each 308 decimal places; `none` beyond the largest double. -/
def scaleByTen? (negative : Bool) (significand : Nat) (exponent : Int) : Option Binary64 :=
  let signed (x : Binary64) : Binary64 := if negative then x.neg else x
  let power (n : Nat) : Binary64 := Binary64.ofNat (powTen n)
  let start := Binary64.ofNat significand
  if significand == 0 then some (signed start)
  else if exponent > 308 then none
  else if 0 ≤ exponent then
    let scaled := start.mul (power exponent.toNat)
    if scaled.isFinite then some (signed scaled) else none
  else if -308 ≤ exponent then some (signed (start.div (power (-exponent).toNat)))
  else
    -- a power of ten beyond this one is no finite double, so the quotient is taken in two steps
    let small := start.div (power 308)
    if small.same (.zero false) then some (signed (.zero false))
    else if -616 ≤ exponent then some (signed (small.div (power (-exponent - 308).toNat)))
    else some (signed (.zero false))

/-- A double from its parts, or the failure that it is out of range. -/
def floatNumber (negative : Bool) (significand : Nat) (exponent : Int) (cursor : Cursor) :
    Except Failure (Number × Cursor) :=
  match scaleByTen? negative significand exponent with
  | some value => .ok (.float value, cursor)
  | none => cursor.fail .numberOutOfRange

/-- Reads the digits of an exponent at the start of `chars` on top of `value`. The result is either
the exponent, or the place after the digit that makes it too large. -/
def takeExponent (value : Nat) (position : Position) : List Char → Except Position (Nat × Cursor)
  | [] => .ok (value, ⟨[], position⟩)
  | c :: rest =>
    if isDigit c then
      let longer := value * 10 + digitValue c
      if longer ≤ greatestExponentRead then takeExponent longer (position.next c) rest
      else .error (position.next c)
    else
      .ok (value, ⟨c :: rest, position⟩)

/-- Reads the exponent of a number after its letter. -/
def readExponent (negative : Bool) (significand : Nat) (exponent : Int) (cursor : Cursor) :
    Except Failure (Number × Cursor) :=
  let down := cursor.rest.head? == some '-'
  let cursor := if down || cursor.rest.head? == some '+' then cursor.skip else cursor
  match cursor.rest with
  | [] => cursor.fail .endInValue
  | c :: _ =>
    if !isDigit c then cursor.skip.fail .invalidNumber
    else
      match takeExponent 0 cursor.position cursor.rest with
      | .ok (value, after) =>
        floatNumber negative significand (if down then exponent - value else exponent + value) after
      | .error position =>
        -- a large exponent gives zero if the significand is zero or the exponent is negative
        if significand != 0 && !down then .error ⟨.numberOutOfRange, position⟩
        else .ok (.float (.zero negative), cursor.skipWhile isDigit)

/-- Reads what may follow the digits of a number: a fraction, an exponent, or neither. -/
def readFraction (negative : Bool) (significand : Nat) (exponent : Int) (cursor : Cursor) :
    Except Failure (Number × Cursor) :=
  let digits := takeDigits ⟨significand, 0, 0, cursor⟩ cursor.rest
  let after := digits.cursor
  if digits.kept == 0 && digits.dropped == 0 then
    match cursor.rest with
    | [] => cursor.fail .endInValue
    | _ => cursor.failAtNext .invalidNumber
  else
    let exponent := exponent - digits.kept
    match after.rest with
    | 'e' :: _ => readExponent negative digits.significand exponent after.skip
    | 'E' :: _ => readExponent negative digits.significand exponent after.skip
    | _ => floatNumber negative digits.significand exponent after

/-- Reads a number after its sign. Integers that need more than 64 bits and `-0` are doubles. -/
def readNumber (negative : Bool) (cursor : Cursor) : Except Failure (Number × Cursor) :=
  match cursor.rest with
  | [] => cursor.fail .endInValue
  | c :: _ =>
    if !isDigit c then cursor.skip.fail .invalidNumber
    else
      let digits :=
        -- no digit may follow a leading zero
        if c == '0' then ⟨0, 1, 0, cursor.skip⟩
        else takeDigits ⟨0, 0, 0, cursor⟩ cursor.rest
      let after := digits.cursor
      if c == '0' && (after.rest.head?.any isDigit) then after.failAtNext .invalidNumber
      else
        match after.rest with
        | '.' :: _ => readFraction negative digits.significand digits.dropped after.skip
        | 'e' :: _ => readExponent negative digits.significand digits.dropped after.skip
        | 'E' :: _ => readExponent negative digits.significand digits.dropped after.skip
        | _ =>
          if digits.dropped != 0 then
            floatNumber negative digits.significand digits.dropped after
          else if !negative then .ok (.integer digits.significand, after)
          -- there is no negative zero among the integers
          else if digits.significand == 0 || digits.significand > powTwo 63 then
            .ok (.float (Binary64.ofNat digits.significand).neg, after)
          else .ok (.integer (-(digits.significand : Int)), after)

/-- Reads the name of the next member of an object, or the end of the object; `first` says that no
member is read yet. -/
def nextName? (first : Bool) (cursor : Cursor) : Except Failure (Option String × Cursor) :=
  let cursor := cursor.skipBlank
  match cursor.rest with
  | [] => cursor.failAtNext .endInObject
  | '}' :: _ => .ok (none, cursor.skip)
  | c :: _ =>
    if !first && c != ',' then cursor.failAtNext .expectedMemberEnd
    else
      let next := if first then cursor else cursor.skip.skipBlank
      match next.rest with
      | [] => next.failAtNext .endInValue
      | '"' :: _ => (readString next.skip).map fun (name, cursor) => (some name, cursor)
      | '}' :: _ => next.failAtNext .trailingComma
      | _ => next.failAtNext .nameNotString

/-- How deeply collections may be nested. -/
def depthLimit : Nat := 127

mutual

/-- Reads a value. Each nested step takes one unit of `fuel`; twice the length of the text and a few
more are enough. -/
def readValue (fuel depth : Nat) (cursor : Cursor) : Except Failure (Json × Cursor) :=
  match fuel with
  | 0 => cursor.fail .tooDeep
  | fuel + 1 =>
    let cursor := cursor.skipBlank
    match cursor.rest with
    | [] => cursor.failAtNext .endInValue
    | c :: _ =>
      if c == 'n' then
        (cursor.skip.literal ['u', 'l', 'l']).map fun cursor => (.null, cursor)
      else if c == 't' then
        (cursor.skip.literal ['r', 'u', 'e']).map fun cursor => (.bool true, cursor)
      else if c == 'f' then
        (cursor.skip.literal ['a', 'l', 's', 'e']).map fun cursor => (.bool false, cursor)
      else if c == '-' then
        (readNumber true cursor.skip).map fun (value, cursor) => (.number value, cursor)
      else if isDigit c then
        (readNumber false cursor).map fun (value, cursor) => (.number value, cursor)
      else if c == '"' then
        (readString cursor.skip).map fun (value, cursor) => (.string value, cursor)
      else if c == '[' then
        if depth == 0 then cursor.failAtNext .tooDeep
        else
          (readItems fuel (depth - 1) true cursor.skip).map fun (items, cursor) =>
            (.array items, cursor)
      else if c == '{' then
        if depth == 0 then cursor.failAtNext .tooDeep
        else
          (readMembers fuel (depth - 1) true cursor.skip).map fun (members, cursor) =>
            (.object members, cursor)
      else cursor.failAtNext .expectedValue
termination_by structural fuel

/-- Reads the items of an array up to and with its end; `first` says that none is read yet. -/
def readItems (fuel depth : Nat) (first : Bool) (cursor : Cursor) :
    Except Failure (List Json × Cursor) :=
  match fuel with
  | 0 => cursor.fail .tooDeep
  | fuel + 1 => do
    let cursor := cursor.skipBlank
    match cursor.rest with
    | [] => cursor.failAtNext .endInArray
    | ']' :: _ => return ([], cursor.skip)
    | c :: _ =>
      if !first && c != ',' then cursor.failAtNext .expectedItemEnd
      else
        let next := if first then cursor else cursor.skip.skipBlank
        if !first && next.rest.head? == some ']' then next.failAtNext .trailingComma
        else
          let (item, cursor) ← readValue fuel depth next
          let (items, cursor) ← readItems fuel depth false cursor
          return (item :: items, cursor)
termination_by structural fuel

/-- Reads the members of an object up to and with its end; `first` says that none is read yet. -/
def readMembers (fuel depth : Nat) (first : Bool) (cursor : Cursor) :
    Except Failure (List (String × Json) × Cursor) :=
  match fuel with
  | 0 => cursor.fail .tooDeep
  | fuel + 1 => do
    match ← nextName? first cursor with
    | (none, cursor) => return ([], cursor)
    | (some name, cursor) =>
      let cursor := cursor.skipBlank
      match cursor.rest with
      | [] => cursor.failAtNext .endInObject
      | ':' :: _ =>
        let (value, cursor) ← readValue fuel depth cursor.skip
        let (members, cursor) ← readMembers fuel depth false cursor
        return ((name, value) :: members, cursor)
      | _ => cursor.failAtNext .expectedColon
termination_by structural fuel

end

/-- Nothing but white space may follow. -/
def expectEnd (cursor : Cursor) : Except Failure Unit :=
  let cursor := cursor.skipBlank
  match cursor.rest with
  | [] => .ok ()
  | _ => cursor.failAtNext .trailingCharacters

/-- Reads a text that holds one JSON value. -/
def read (text : String) : Except Failure Json := do
  let cursor := Cursor.ofString text
  let (value, cursor) ← readValue (2 * cursor.rest.length + 2) depthLimit cursor
  expectEnd cursor
  return value

end Json

end MarkdownTemplate
