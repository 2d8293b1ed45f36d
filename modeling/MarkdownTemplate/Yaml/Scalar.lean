import MarkdownTemplate.Decimal.Numeral
import MarkdownTemplate.Number

/-!
# Meaning of plain YAML scalars

A plain scalar is null, a truth value, a number or a string by its spelling alone. Integers are
decimal or carry a base mark; a decimal integer has no leading zero. Integers that fit neither
signed nor unsigned 64 bits have no meaning as long as they fit 128 bits, and beyond that they are
doubles.
-/

namespace MarkdownTemplate

namespace Yaml

/-- What a scalar means. -/
inductive Meaning where
  /-- The null value. -/
  | null
  /-- A truth value. -/
  | bool (value : Bool)
  /-- An integer of at most 64 bits. -/
  | integer (value : Int)
  /-- An integer of more than 64 and at most 128 bits. -/
  | wideInteger (value : Int)
  /-- A double. -/
  | float (value : Binary64)
  /-- A string. -/
  | string
deriving DecidableEq

/-- Whether `c` is a sign. -/
def isSign (c : Char) : Bool :=
  c == '+' || c == '-'

/-- Whether the scalar is a leading zero with more digits after it, which makes it a string. -/
def hasLeadingZero (chars : List Char) : Bool :=
  let unsigned :=
    match chars with
    | c :: rest => if isSign c then rest else chars
    | [] => []
  match unsigned with
  | '0' :: c :: rest => (c :: rest).all (isDigitIn 10)
  | _ => false

/-- The natural number after the sign of an integer. -/
def readMagnitude? (chars : List Char) : Option Nat :=
  match chars with
  | '0' :: 'x' :: digits => readNatural? 16 digits
  | '0' :: 'o' :: digits => readNatural? 8 digits
  | '0' :: 'b' :: digits => readNatural? 2 digits
  | _ => if hasLeadingZero chars then none else readNatural? 10 chars

/-- The integer that a scalar spells, whatever its size. -/
def readInteger? : List Char → Option Int
  | '-' :: chars => (readMagnitude? chars).map fun n => -(n : Int)
  | '+' :: chars => (readMagnitude? chars).map fun n => (n : Int)
  | chars => (readMagnitude? chars).map fun n => (n : Int)

/-- The meaning of an integer of the given size; a larger one is none. -/
def integerMeaning? (value : Int) : Option Meaning :=
  if -(powTwo 63 : Int) ≤ value && value < (powTwo 64 : Int) then some (.integer value)
  else if -(powTwo 127 : Int) ≤ value && value < (powTwo 128 : Int) then
    some (.wideInteger value)
  else none

/-- The double that a scalar spells. A decimal fraction that is too large spells none. -/
def readFloat? (chars : List Char) : Option Binary64 :=
  let text := String.ofList chars
  if [".inf", ".Inf", ".INF", "+.inf", "+.Inf", "+.INF"].contains text then some (.infinite false)
  else if ["-.inf", "-.Inf", "-.INF"].contains text then some (.infinite true)
  else if [".nan", ".NaN", ".NAN"].contains text then some .nan
  else
    let fraction? :=
      match chars with
      | '-' :: rest => readFraction? true rest
      | '+' :: rest => readFraction? false rest
      | _ => readFraction? false chars
    fraction?.filter Binary64.isFinite

/-- Whether the text spells the null value; the empty text does not. -/
def isNullWord (text : String) : Bool :=
  ["null", "Null", "NULL", "~"].contains text

/-- The truth value that a text spells. -/
def readBool? (text : String) : Option Bool :=
  if ["true", "True", "TRUE"].contains text then some true
  else if ["false", "False", "FALSE"].contains text then some false
  else none

/-- The meaning of a scalar as an integer. -/
def readIntegerMeaning? (text : String) : Option Meaning :=
  (readInteger? text.toList).bind integerMeaning?

/-- The meaning of a plain scalar. -/
def plainMeaning (text : String) : Meaning :=
  if text.isEmpty || isNullWord text then .null
  else
    match readBool? text with
    | some value => .bool value
    | none =>
      match readIntegerMeaning? text with
      | some meaning => meaning
      | none =>
        if hasLeadingZero text.toList then .string
        else
          match readFloat? text.toList with
          | some value => .float value
          | none => .string

/-- Whether the text has to stand in quotes because its plain spelling is no string, or is one for
its leading zero only. -/
def isAmbiguous (text : String) : Bool :=
  plainMeaning text != .string || hasLeadingZero text.toList

end Yaml

end MarkdownTemplate
