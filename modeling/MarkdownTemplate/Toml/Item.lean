import MarkdownTemplate.Toml.Key
import MarkdownTemplate.Toml.MomentText
import MarkdownTemplate.Value.Basic

/-!
# Items of a TOML text

An `Item` is what a key stands for: a value, a table, or an array of tables. Tables keep their
entries in the order of the text and remember how they came about, which decides how they may be
extended. `extendTable` follows a dotted key from table to table.
-/

namespace MarkdownTemplate

namespace Toml

/-- How a table came about. -/
inductive TableForm where
  /-- It is written between braces. -/
  | inline
  /-- A dotted key between braces leads through it. -/
  | inlineDotted
  /-- It has a header of its own, or is the root. -/
  | headed
  /-- A header of another table leads through it. -/
  | onPath
  /-- A dotted key leads through it. -/
  | dotted
deriving DecidableEq

namespace TableForm

/-- Whether the table is a value, which stands on one line. -/
def isInline (form : TableForm) : Bool :=
  form == inline || form == inlineDotted

/-- Whether the table is there only because a key leads through it. -/
def isImplicit (form : TableForm) : Bool :=
  form == inlineDotted || form == onPath || form == dotted

/-- Whether the table is there because a dotted key leads through it. -/
def isDotted (form : TableForm) : Bool :=
  form == inlineDotted || form == dotted

end TableForm

/-- What a key stands for. -/
inductive Item where
  | string (value : String) (span : Span)
  | integer (value : Int) (span : Span)
  | float (value : Binary64) (span : Span)
  | bool (value : Bool) (span : Span)
  | moment (value : Moment) (span : Span)
  | array (items : List Item) (span : Span)
  /-- A table. One that only a key leads through has no span. -/
  | table (form : TableForm) (entries : List (Key × Item)) (span : Option Span)
  /-- An array whose elements are tables with headers. -/
  | tables (elements : List Item)

/-- The entries of a table in the order of the text. -/
abbrev Entries := List (Key × Item)

namespace Item

/-- What messages call an item of this kind. -/
def typeName : Item → String
  | string .. => "string"
  | integer .. => "integer"
  | float .. => "float"
  | bool .. => "boolean"
  | moment .. => "datetime"
  | array .. => "array"
  | table form .. => if form.isInline then "inline table" else "table"
  | tables .. => "array of tables"

/-- Where a table stands. -/
def tableSpan? : Item → Option Span
  | table _ _ span => span
  | _ => none

/-- Where the item stands. -/
def span? : Item → Option Span
  | string _ span => some span
  | integer _ span => some span
  | float _ span => some span
  | bool _ span => some span
  | moment _ span => some span
  | array _ span => some span
  | table _ _ span => span
  | tables elements => do
    let first ← elements.head?.bind tableSpan?
    let last ← elements.getLast?.bind tableSpan?
    return ⟨first.start, last.stop⟩

mutual

/-- The value of an item. A date or time becomes a mapping of one entry. -/
def toValue : Item → Value
  | string value _ => .string value
  | integer value _ => .number (.integer value)
  | float value _ => .number (.float value)
  | bool value _ => .bool value
  | moment value _ => .mapping [(.string "$__toml_private_datetime", .string value.text)]
  | array items _ => .sequence (itemValues items)
  | table _ entries _ => .mapping (entryValues entries)
  | tables elements => .sequence (itemValues elements)
termination_by structural item => item

/-- The values of items. -/
def itemValues : List Item → List Value
  | [] => []
  | item :: items => item.toValue :: itemValues items
termination_by structural items => items

/-- The values of entries with their keys. -/
def entryValues : List (Key × Item) → List (Value × Value)
  | [] => []
  | (key, item) :: entries => (.string key.name, item.toValue) :: entryValues entries
termination_by structural entries => entries

end

end Item

/-- The item of a key in a table. -/
def findItem? (name : String) (entries : Entries) : Option Item :=
  (entries.find? fun entry => entry.1.name == name).map Prod.snd

/-- The entries with the item of a key replaced. -/
def replaceItem (name : String) (item : Item) (entries : Entries) : Entries :=
  entries.map fun entry => if entry.1.name == name then (entry.1, item) else entry

/-- How a table is reached that is to be extended. -/
inductive Way where
  /-- By the key of an entry between braces. -/
  | inlineKey
  /-- By the key of an entry. -/
  | key
  /-- By the key of a header. -/
  | header
deriving DecidableEq

/-- The form of a table that comes about on the way. -/
def Way.newForm : Way → TableForm
  | inlineKey => .inlineDotted
  | key => .dotted
  | header => .onPath

/-- Whether the way may lead through tables of this form. -/
def Way.passes (way : Way) (form : TableForm) : Bool :=
  way == header || form.isImplicit

/-- Follows a key from a table and extends the table that it leads to, which is given to `extend`
with its form. Tables that are missing come about. `passed` are the parts of the key that led to the
table. -/
def extendTable (way : Way) (extend : TableForm → Entries → Except Cause Entries)
    (passed : List String) (form : TableForm) (entries : Entries) :
    List Key → Except Cause Entries
  | [] => extend form entries
  | key :: path =>
    let passed := passed ++ [key.name]
    match findItem? key.name entries with
    | none => do
      -- a table comes about for each part of the key that is left
      let child ← extendTable way extend passed way.newForm [] path
      return entries ++ [(key, .table way.newForm child none)]
    | some (.table childForm children span) =>
      -- a table between braces can be extended between the same braces only
      if childForm.isInline != (way == .inlineKey) then
        .error (.notATable passed (Item.table childForm children span).typeName)
      else if !way.passes childForm then .error (.duplicateKey key.name none)
      else do
        let child ← extendTable way extend passed childForm children path
        return replaceItem key.name (.table childForm child span) entries
    | some (.tables elements) =>
      match elements.getLast? with
      | some (.table childForm children span) => do
        let child ← extendTable way extend passed childForm children path
        -- a key leads into the last table of an array
        let elements := elements.dropLast ++ [.table childForm child span]
        return replaceItem key.name (.tables elements) entries
      | _ => .error (.duplicateKey key.name none)
    | some item => .error (.notATable passed item.typeName)

/-- Adds an entry by its key to a table. `table` is the path of that table for messages, if it is
known. -/
def insertEntry (way : Way) (table : Option (List String)) (entries : Entries) (path : List Key)
    (key : Key) (item : Item) : Except Cause Entries :=
  let add (form : TableForm) (entries : Entries) : Except Cause Entries :=
    if form.isDotted == path.isEmpty then .error (.duplicateKey key.name none)
    else if (findItem? key.name entries).isSome then .error (.duplicateKey key.name table)
    else .ok (entries ++ [(key, item)])
  extendTable way add [] .headed entries path

end Toml

end MarkdownTemplate
