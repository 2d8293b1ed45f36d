import MarkdownTemplate.Error
import MarkdownTemplate.Options.Problem
import MarkdownTemplate.Toml.Document

/-!
# Options from TOML

`Options.ofToml` reads options from a TOML text. Entries of other names are ignored. A recovery
order is a name, or a table whose only key is the name and whose value is empty.
-/

namespace MarkdownTemplate

namespace Options

/-- Doubles in messages: never with an exponent. -/
def positionalLayout : FloatLayout := ⟨400, 400, false⟩

/-- A double in messages. -/
def floatShown : Binary64 → String
  | .nan => "NaN"
  | .infinite true => "-inf"
  | .infinite false => "inf"
  | .finite negative mantissa exponent =>
    positionalLayout.finiteText negative mantissa exponent

/-- An item in messages. -/
def foundItem : Toml.Item → Found
  | .string value _ => .string value
  | .integer value _ => .integer value
  | .float value _ => .float (floatShown value)
  | .bool value _ => .bool value
  | .moment .. => .mapping
  | .array .. => .sequence
  | .table .. => .mapping
  | .tables .. => .sequence

/-- A problem with its place, if that is known. -/
abbrev PlacedProblem := Problem × Option Span

/-- The truth value of an item. -/
def boolOfItem : Toml.Item → Except PlacedProblem Bool
  | .bool value _ => .ok value
  | item => .error (.unexpected (foundItem item) .bool, item.span?)

/-- The recovery order of a name. -/
def recoveryOfName (name : String) (span : Option Span) : Except PlacedProblem Recovery :=
  match Recovery.ofName? name with
  | some recovery => .ok recovery
  | none => .error (.unknownRecovery name, span)

/-- Fails unless an item is an empty array or table. -/
def expectEmptyItem (item : Toml.Item) : Except PlacedProblem Unit :=
  match item with
  | .array [] _ => .ok ()
  | .tables [] => .ok ()
  | .table _ [] _ => .ok ()
  | .array .. => .error (.nonEmptyArray, item.span?)
  | .tables .. => .error (.nonEmptyArray, item.span?)
  | .table .. => .error (.nonEmptyTable, item.span?)
  | _ => .error (.notATable item.typeName, item.span?)

/-- The recovery order of an item. -/
def recoveryOfItem (item : Toml.Item) : Except PlacedProblem Recovery :=
  match item with
  | .string value span => recoveryOfName value span
  | .table _ [] span => .error (.noEntry, span)
  | .table _ [(key, value)] _ => do
    let recovery ← recoveryOfName key.name key.span
    expectEmptyItem value
    return recovery
  | .table _ _ span => .error (.severalEntries, span)
  | _ => .error (.notAName, item.span?)

/-- A problem at its own place, else at that of the item, else at that of the key. -/
def placed {α : Type} (text : String) (key : Toml.Key) (item : Toml.Item)
    (result : Except PlacedProblem α) : Except Error α :=
  result.mapError fun (problem, span) =>
    let span := (span.or item.span?).getD key.span
    Error.ofMessage (Toml.reportAt text span problem.message)

/-- The options with those of the entries set. -/
def setEntries (text : String) (options : Options) : Toml.Entries → Except Error Options
  | [] => .ok options
  | (key, item) :: entries => do
    if key.name = "recovery" then
      let recovery ← placed text key item (recoveryOfItem item)
      setEntries text { options with recovery } entries
    else if key.name = "toml_headers" then
      let tomlHeaders ← placed text key item (boolOfItem item)
      setEntries text { options with tomlHeaders } entries
    else setEntries text options entries

/-- Reads options from a TOML text. Options that are not given have their defaults. -/
def ofToml (text : String) : Except Error Options :=
  let read : Except Error Options :=
    match Toml.read text with
    | .error failure => .error (Error.ofMessage (failure.report text))
    | .ok entries => setEntries text {} entries
  Error.chainResult read (Error.ofMessage "invalid compiler options")

end Options

end MarkdownTemplate
