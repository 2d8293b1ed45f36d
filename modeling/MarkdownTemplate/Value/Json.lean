import MarkdownTemplate.Value.Basic
import MarkdownTemplate.Json.Value

/-!
# Header values as JSON

`Value.toJson?` is the JSON value of a header value, if there is one. Keys must be strings, truth
values, integers or finite doubles; a tagged value becomes an object whose only member is named by
the tag.
-/

namespace MarkdownTemplate

namespace Value

/-- The member name of a key, if it can be one. -/
def jsonKey? : Value → Option String
  | string value => some value
  | bool value => some (toString value)
  | number value => value.jsonText?
  | _ => none

/-- The tag with the mark that introduces it. -/
def tagText (tag : String) : String :=
  "!" ++ tag

mutual

/-- The value as JSON, if every key in it can be a member name. -/
def toJson? : Value → Option Json
  | null => some .null
  | bool value => some (.bool value)
  | number value => some (.number value)
  | string value => some (.string value)
  | sequence items => (itemsToJson? items).map .array
  | mapping entries => (entriesToJson? entries).map .object
  | tagged tag value => (toJson? value).map fun value => .object [(tagText tag, value)]
termination_by structural value => value

/-- The items of a sequence as JSON. -/
def itemsToJson? : List Value → Option (List Json)
  | [] => some []
  | item :: items => do
    let item ← toJson? item
    let items ← itemsToJson? items
    return item :: items
termination_by structural items => items

/-- The entries of a mapping as members of an object. -/
def entriesToJson? : List (Value × Value) → Option (List (String × Json))
  | [] => some []
  | (key, value) :: entries => do
    let name ← key.jsonKey?
    let value ← toJson? value
    let entries ← entriesToJson? entries
    return (name, value) :: entries
termination_by structural entries => entries

end

end Value

end MarkdownTemplate
