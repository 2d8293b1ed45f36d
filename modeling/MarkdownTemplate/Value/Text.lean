import MarkdownTemplate.Value.BlockText

/-!
# Header values as text

`Value.toText` is the one coercion of header values to text, total and the same for every format.
-/

namespace MarkdownTemplate

/-- A value as text: strings as they are, numbers and truth values as they are written, null as the
empty text, collections as compact JSON. A collection that JSON cannot express is its block text,
and empty if it has none. Outer tags are dropped. -/
def Value.toText : Value → String
  | .null => ""
  | .bool value => toString value
  | .number value => value.headerText
  | .string value => value
  | .tagged _ value => value.toText
  | value =>
    match value.toJson? with
    | some json => json.compact
    | none => value.blockText?.getD ""

end MarkdownTemplate
