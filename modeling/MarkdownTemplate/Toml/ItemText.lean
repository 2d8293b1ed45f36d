import MarkdownTemplate.Toml.Item
import MarkdownTemplate.Toml.NumberText

/-!
# Values in TOML text

The first character of a value decides what it is read as. Arrays may span lines and end in a comma;
tables between braces may not.
-/

namespace MarkdownTemplate

namespace Toml

open Reading

/-- Reads the items of an array before its closing bracket. -/
def arrayItems (child : Reading Item) : Reading (List Item) := do
  if (← next?) == some ']' then
    return []
  let padded : Reading Item := do
    blankLines
    let item ← child
    blankLines
    return item
  let items ← separated padded ','
  unless items.isEmpty do
    let _ ← optional (char ',')
  blankLines
  return items

/-- Reads an array. -/
def array (child : Reading Item) : Reading (List Item) := do
  let _ ← char '['
  let items ← settle (arrayItems child)
  let _ ← named .array (expecting [.spelled "]"] (settle (char ']')))
  return items

/-- Reads the sign between a key and its value. -/
def equalsSign : Reading Unit := do
  let _ ← expecting [.spelled ".", .spelled "="] (char '=')

/-- Reads an entry of a table between braces. -/
def inlineEntry (child : Reading Item) : Reading (List Key × Item) := do
  let key ← dottedKey
  settle do
    equalsSign
    blanks
    let item ← child
    blanks
    return (key, item)

/-- The entries of a table between braces. -/
def inlineEntries : Entries → List (List Key × Item) → Except (Option Cause) Entries
  | entries, [] => .ok entries
  | entries, (path, item) :: rest =>
    match path.getLast? with
    | none => inlineEntries entries rest
    | some key =>
      match insertEntry .inlineKey none entries path.dropLast key item with
      | .ok entries => inlineEntries entries rest
      | .error cause => .error (some cause)

/-- Reads a table between braces. -/
def inlineTable (child : Reading Item) : Reading Entries := do
  let pairs : Reading (List (List Key × Item)) := do
    let pairs ← separated (inlineEntry child) ','
    blanks
    return pairs
  let _ ← char '{'
  let entries ← settle (converted true pairs (inlineEntries []))
  let _ ← named .inlineTable (expecting [.spelled "\x7d"] (settle (char '}')))
  return entries

/-- Reads something whose failures say that a string is expected. -/
def orString {α : Type} (reading : Reading α) : Reading α :=
  named .string (expecting [.spelled "\"", .spelled "'"] reading)

/-- Fails because values are nested too deeply. -/
def failTooDeep {α : Type} : Reading α := fun cursor =>
  .error { offset := cursor.offset, cause := some .tooDeep, settled := true }

/-- Reads a value, given how the values inside it are read; where there is no `child`, values are
nested as deep as they may be. -/
def valueText (child : Option (Reading Item)) : Reading (Span → Item) := do
  match ← next? with
  | none => fail
  | some '"' | some '\'' => return .string (← stringText)
  | some '[' =>
    match child with
    | none => failTooDeep
    | some child => return .array (← array child)
  | some '{' =>
    match child with
    | none => failTooDeep
    | some child =>
      let entries ← inlineTable child
      return fun span => .table .inline entries (some span)
  | some '_' => return .integer (← expecting [.leadingDigit] integer)
  | some '.' => return .float (← expecting [.leadingDigit] float)
  | some 't' =>
    orString (settle (word ['t', 'r', 'u', 'e']))
    return .bool true
  | some 'f' =>
    orString (settle (word ['f', 'a', 'l', 's', 'e']))
    return .bool false
  | some 'i' | some 'n' => return .float (← orString specialName)
  | some c =>
    if isSign c || isDigitIn 10 c then
      let asMoment : Reading (Span → Item) := return .moment (← moment)
      let asFloat : Reading (Span → Item) := return .float (← float)
      orElse asMoment <| orElse asFloat do
        return .integer (← integer)
    else orString fail

/-- Reads a value in which values may be nested `depth` deep. -/
def item : Nat → Reading Item
  | 0 => do
    let (make, span) ← spanned (valueText none)
    return make span
  | depth + 1 => do
    let (make, span) ← spanned (valueText (some (item depth)))
    return make span

/-- How deep values may be nested. -/
def depthLimit : Nat := 79

end Toml

end MarkdownTemplate
