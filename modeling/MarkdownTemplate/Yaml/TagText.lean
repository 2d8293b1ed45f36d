import MarkdownTemplate.Yaml.ScalarText
import MarkdownTemplate.Yaml.Token

/-!
# Anchors, tags and directives

Readers for the tokens that describe nodes and documents. The text of a tag is a list of octets,
since an escape in it names an octet and not a character.
-/

namespace MarkdownTemplate

namespace Yaml

/-- Reads an anchor or an alias, whose mark is at the cursor, and gives its name. -/
def readAnchor (activity : Activity) (cursor : Cursor) : Except Failure (String × Cursor) :=
  let (name, after) := cursor.skip.takeWhile isNameChar
  let ends :=
    atBlankOrEnd after.rest ||
      after.rest.head?.any fun c => ['?', ':', ',', ']', '}', '%', '@', '`'].contains c
  if name.isEmpty || !ends then
    .error { cause := .anchorName, mark := after.mark, activity := some (activity, cursor.mark) }
  else .ok (String.ofList name, after)

/-- Whether `c` may stand in the text of a tag; brackets and commas only where `inBrackets` says so.
-/
def isTagChar (inBrackets : Bool) (c : Char) : Bool :=
  isNameChar c || [';', '/', '?', ':', '@', '&', '=', '+', '$', '.', '%', '!', '~', '*', '\'', '(',
    ')'].contains c || (inBrackets && [',', '[', ']'].contains c)

/-- How many octets the character takes that starts with `octet`; none if it starts no character. -/
def octetCount? (octet : Nat) : Option Nat :=
  if octet < 0x80 then some 1
  else if octet < 0xc0 then none
  else if octet < 0xe0 then some 2
  else if octet < 0xf0 then some 3
  else if octet < 0xf8 then some 4
  else none

/-- Reads on in the text of a tag. The first `skipped` characters belong to an escape that is read
already; `pending` says how many more escaped octets the last character takes; `octets` are those
read so far, last first. -/
def tagTextFrom (inBrackets : Bool) (context : Activity × Mark) (skipped pending : Nat)
    (octets : List UInt8) (mark : Mark) : List Char → Except Failure (List UInt8 × Cursor)
  | [] =>
    if skipped == 0 && pending != 0 then
      .error { cause := .escapedOctet, mark, activity := some context }
    else .ok (octets.reverse, ⟨[], mark⟩)
  | c :: rest =>
    let fail (cause : Cause) : Except Failure (List UInt8 × Cursor) :=
      .error { cause, mark, activity := some context }
    match skipped with
    | skipped + 1 => tagTextFrom inBrackets context skipped pending octets (mark.advance 1) rest
    | 0 =>
      if pending != 0 || c == '%' then
        match c == '%', readPlaces? 16 2 rest with
        | true, some octet =>
          let pending? :=
            if pending == 0 then (octetCount? octet).map (· - 1)
            else if 0x80 ≤ octet && octet < 0xc0 then some (pending - 1)
            else none
          match pending? with
          | some pending =>
            tagTextFrom inBrackets context 2 pending (octet.toUInt8 :: octets) (mark.advance 1) rest
          | none => fail (if pending == 0 then .leadingOctet else .trailingOctet)
        | _, _ => fail .escapedOctet
      else if isTagChar inBrackets c then
        tagTextFrom inBrackets context 0 0 (c.toNat.toUInt8 :: octets) (mark.advance 1) rest
      else .ok (octets.reverse, ⟨c :: rest, mark⟩)

/-- Reads the text of a tag, which has to be there if `required`. -/
def readTagText (inBrackets required : Bool) (context : Activity × Mark) (cursor : Cursor) :
    Except Failure (List UInt8 × Cursor) := do
  let (octets, after) ← tagTextFrom inBrackets context 0 0 [] cursor.mark cursor.rest
  if required && octets.isEmpty then
    .error { cause := .tagText, mark := after.mark, activity := some context }
  else return (octets, after)

/-- Reads a tag handle: a mark, name characters, and maybe another mark. -/
def readHandle (activity : Activity) (start : Mark) (cursor : Cursor) :
    Except Failure (List Char × Cursor) :=
  if cursor.rest.head? != some '!' then
    .error { cause := .handleMark, mark := cursor.mark, activity := some (activity, start) }
  else
    let (name, after) := cursor.skip.takeWhile isNameChar
    if after.rest.head? == some '!' then .ok ('!' :: name ++ ['!'], after.skip)
    else .ok ('!' :: name, after)

/-- The octets of ASCII characters. -/
def octetsOf (chars : List Char) : List UInt8 :=
  chars.map fun c => c.toNat.toUInt8

/-- Reads a tag: its handle, which is empty if the tag is complete without one, and its text. -/
def readTag (inFlow : Bool) (cursor : Cursor) : Except Failure (TokenKind × Cursor) := do
  let start := cursor.mark
  let context := (Activity.tagText, start)
  let (kind, after) ←
    match cursor.rest with
    | '!' :: '<' :: _ =>
      let (octets, after) ← readTagText true true context (cursor.skip 2)
      if after.rest.head? != some '>' then
        .error { cause := .tagEnd, mark := after.mark, activity := some (.tag, start) }
      else pure (TokenKind.tag "" octets, after.skip)
    | _ =>
      let (handle, after) ← readHandle .tag start cursor
      if handle.length > 1 && handle.getLast? == some '!' then
        let (octets, after) ← readTagText false true context after
        pure (TokenKind.tag (String.ofList handle) octets, after)
      else
        let (octets, after) ← readTagText false false context after
        let octets := octetsOf (handle.drop 1) ++ octets
        if octets.isEmpty then pure (TokenKind.tag "" (octetsOf ['!']), after)
        else pure (TokenKind.tag "!" octets, after)
  if atBlankOrEnd after.rest || (inFlow && after.rest.head? == some ',') then return (kind, after)
  else .error { cause := .blankAfterTag, mark := after.mark, activity := some (.tag, start) }

/-- The most digits that a part of a version may have. -/
def longestVersion : Nat := 9

/-- Reads a part of a version. -/
def readVersionPart (start : Mark) (cursor : Cursor) : Except Failure (Nat × Cursor) :=
  let (digits, after) := cursor.takeWhile Char.isDigit
  let fail (cause : Cause) (mark : Mark) : Except Failure (Nat × Cursor) :=
    .error { cause, mark, activity := some (.versionDirective, start) }
  if digits.isEmpty then fail .versionNumber cursor.mark
  else if digits.length > longestVersion then
    fail .versionTooLong (cursor.mark.advance longestVersion)
  else .ok (digits.foldl (fun value c => value * 10 + (c.toNat - '0'.toNat)) 0, after)

/-- Reads what a version directive says after its name. -/
def readVersion (start : Mark) (cursor : Cursor) : Except Failure (TokenKind × Cursor) := do
  let (major, after) ← readVersionPart start (cursor.skipWhile isSpaceOrTab)
  if after.rest.head? != some '.' then
    .error {
      cause := .versionPoint
      mark := after.mark
      activity := some (.versionDirective, start) }
  else
    let (minor, after) ← readVersionPart start after.skip
    return (.versionDirective major minor, after)

/-- Reads what a tag directive says after its name. -/
def readTagDirective (start : Mark) (cursor : Cursor) : Except Failure (TokenKind × Cursor) := do
  let fail (cause : Cause) (activity : Activity) (cursor : Cursor) :
      Except Failure (TokenKind × Cursor) :=
    .error { cause, mark := cursor.mark, activity := some (activity, start) }
  let (handle, after) ← readHandle .tagDirectiveMark start (cursor.skipWhile isSpaceOrTab)
  if handle.length > 1 && handle.getLast? != some '!' then
    fail .handleMark .tagDirectiveHandle after
  else if !after.rest.head?.any isSpaceOrTab then
    fail .blankAfterHandle .tagDirective after
  else
    let (octets, after) ←
      readTagText true true (.tagDirectiveText, start) (after.skipWhile isSpaceOrTab)
    if !atBlankOrEnd after.rest then fail .blankAfterTag .tagDirective after
    else return (.tagDirective (String.ofList handle) octets, after)

/-- Reads a directive, whose mark is at the cursor, and the rest of its line. -/
def readDirective (cursor : Cursor) : Except Failure (TokenKind × Cursor) := do
  let start := cursor.mark
  let fail (cause : Cause) (cursor : Cursor) : Except Failure (TokenKind × Cursor) :=
    .error { cause, mark := cursor.mark, activity := some (.directive, start) }
  let (name, after) := cursor.skip.takeWhile isNameChar
  let (kind, after) ←
    if name.isEmpty then fail .directiveWithoutName after
    else if !atBlankOrEnd after.rest then fail .directiveNameEnd after
    else if String.ofList name == "YAML" then readVersion start after
    else if String.ofList name == "TAG" then readTagDirective start after
    else fail .unknownDirective after
  let after := (after.skipWhile isSpaceOrTab).skipComment
  if !atBreakOrEnd after.rest then fail .lineEnd after
  else return (kind, after.skipBreak)

end Yaml

end MarkdownTemplate
