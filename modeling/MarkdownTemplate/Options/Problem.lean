import MarkdownTemplate.Options
import MarkdownTemplate.Text.Quoted

/-!
# Values that are no options

Options are read from TOML or JSON. A text that is well formed may still hold values that no option
can have; a `Problem` says which.
-/

namespace MarkdownTemplate

namespace Options

/-- A value in messages. -/
inductive Found where
  | null
  | bool (value : Bool)
  | integer (value : Int)
  /-- A double, as it is shown. -/
  | float (shown : String)
  | string (value : String)
  | sequence
  | mapping

/-- How messages name a value. -/
def Found.message : Found → String
  | null => "null"
  | bool value => s!"boolean `{value}`"
  | integer value => s!"integer `{value}`"
  | float shown => s!"floating point `{shown}`"
  | string value => "string " ++ quoted value
  | sequence => "sequence"
  | mapping => "map"

/-- What is expected in place of a value. -/
inductive Expected where
  | options
  | bool
  | name
  | null
deriving DecidableEq

/-- The wording of what is expected. -/
def Expected.message : Expected → String
  | options => "struct Options"
  | bool => "a boolean"
  | name => "variant identifier"
  | null => "unit"

/-- What is wrong with a value. -/
inductive Problem where
  -- the options and what is given for them
  | unexpected (found : Found) (expected : Expected)
  | unknownRecovery (name : String)
  | repeated (option : String)
  -- a recovery order, which may be the name of the one entry of a table
  | notAName
  | noEntry
  | severalEntries
  | nonEmptyArray
  | nonEmptyTable
  | notATable (type : String)

/-- The wording of a problem. -/
def Problem.message : Problem → String
  | unexpected found expected => s!"invalid type: {found.message}, expected {expected.message}"
  | unknownRecovery name => Recovery.unknownName name
  | repeated option => s!"duplicate field `{option}`"
  | notAName => "wanted string or table"
  | noEntry => "wanted exactly 1 element, found 0 elements"
  | severalEntries => "wanted exactly 1 element, more than 1 element"
  | nonEmptyArray => "expected empty array"
  | nonEmptyTable => "expected empty table"
  | notATable type => s!"expected table, found {type}"

end Options

end MarkdownTemplate
