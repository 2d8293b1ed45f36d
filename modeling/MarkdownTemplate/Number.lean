import MarkdownTemplate.Decimal.Shortest

/-!
# Numbers of headers and values

A number is an integer or a double. An integer is never equal to a double. Header text and JSON text
write integers alike and differ in the layout of doubles.
-/

namespace MarkdownTemplate

/-- An integer or a double. -/
inductive Number where
  /-- An integer. -/
  | integer (value : Int)
  /-- A double. -/
  | float (value : Binary64)
deriving DecidableEq

namespace Number

/-- Equality of keys: doubles are compared by value, and never with integers. -/
def same : Number → Number → Bool
  | integer m, integer n => m == n
  | float x, float y => x.same y
  | _, _ => false

/-- Doubles in header text: positional from `1e-5` up to sixteen digits before the point, and no
plus sign in an exponent. -/
def headerLayout : FloatLayout := ⟨16, 4, false⟩

/-- Doubles in JSON text: as in header text, but a positive exponent has a plus sign. -/
def jsonLayout : FloatLayout := ⟨16, 4, true⟩

/-- A number in header text. -/
def headerText : Number → String
  | integer value => toString value
  | float .nan => ".nan"
  | float (.infinite true) => "-.inf"
  | float (.infinite false) => ".inf"
  | float (.finite negative mantissa exponent) =>
    headerLayout.finiteText negative mantissa exponent

/-- A number in JSON text, which has no infinities and no not-a-number. -/
def jsonText? : Number → Option String
  | integer value => some (toString value)
  | float (.finite negative mantissa exponent) =>
    some (jsonLayout.finiteText negative mantissa exponent)
  | float _ => none

end Number

end MarkdownTemplate
