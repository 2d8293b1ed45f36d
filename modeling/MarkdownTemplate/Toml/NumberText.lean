import MarkdownTemplate.Decimal.Numeral
import MarkdownTemplate.Toml.Reading

/-!
# Numbers in TOML text

Integers are decimal, with an optional sign and no leading zero, or carry a base mark; they have 64
bits. Doubles have a fraction, an exponent or both, or are one of the special values. Single
underscores may stand between digits.
-/

namespace MarkdownTemplate

namespace Toml

open Reading

/-- Whether `c` is a sign. -/
def isSign (c : Char) : Bool :=
  c == '+' || c == '-'

/-- Reads digits after the first one, with single underscores between them. -/
def moreDigits (base : Nat) : Reading Unit := do
  let digit := one (isDigitIn base)
  let _ ← many (orElse digit do
    let _ ← char '_'
    expecting [.digit] (settle digit))

/-- Reads digits with single underscores between them. -/
def digits (base : Nat) : Reading Unit := do
  let _ ← one (isDigitIn base)
  moreDigits base

/-- Reads the text of a decimal integer. A zero stands alone. -/
def decimalText : Reading (List Char) := named .integer <| taken do
  let _ ← optional (one isSign)
  let significant : Reading Unit := do
    let _ ← one fun c => isDigitIn 10 c && c != '0'
    moreDigits 10
  orElse significant do
    let _ ← char '0'

/-- The integer of 64 bits with the given sign and digits. -/
def integerOf (base : Nat) (negative : Bool) (digits : List Char) : Except (Option Cause) Int :=
  let magnitude := (readNatural? base (digits.filter (· != '_'))).getD 0
  let value : Int := if negative then -(magnitude : Int) else magnitude
  if value < -(powTwo 63 : Int) then .error (some .tooSmall)
  else if value ≥ (powTwo 63 : Int) then .error (some .tooLarge)
  else .ok value

/-- Reads an integer with a base mark. -/
def markedInteger (subject : Subject) (base : Nat) : Reading Int :=
  let text : Reading (List Char) := named subject do
    let _ ← take 2
    taken (digits base)
  settle (converted true text (integerOf base false))

/-- The integer that a decimal text spells. -/
def decimalOf (text : List Char) : Except (Option Cause) Int :=
  match text with
  | '-' :: digits => integerOf 10 true digits
  | '+' :: digits => integerOf 10 false digits
  | digits => integerOf 10 false digits

/-- Reads an integer. -/
def integer : Reading Int := do
  match (← get).rest with
  | '0' :: 'x' :: _ => markedInteger .hexadecimal 16
  | '0' :: 'o' :: _ => markedInteger .octal 8
  | '0' :: 'b' :: _ => markedInteger .binary 2
  | _ => converted true decimalText decimalOf

/-- Reads an exponent. -/
def exponent : Reading Unit := do
  let _ ← one fun c => c == 'e' || c == 'E'
  let _ ← optional (one isSign)
  settle (digits 10)

/-- Reads the text of a decimal fraction. -/
def fractionText : Reading (List Char) := taken do
  let _ ← decimalText
  orElse exponent do
    let _ ← char '.'
    expecting [.digit] (settle (digits 10))
    let _ ← optional exponent

/-- The double that a decimal fraction spells. A positive one may not be too large. -/
def fractionOf (text : List Char) : Except (Option Cause) Binary64 :=
  let value? :=
    match text.filter (· != '_') with
    | '-' :: chars => readFraction? true chars
    | '+' :: chars => readFraction? false chars
    | chars => readFraction? false chars
  match value?.getD .nan with
  | .infinite false => .error none
  | value => .ok value

/-- Reads the name of a special value. -/
def specialName : Reading Binary64 :=
  let infinity : Reading Binary64 := do
    word ['i', 'n', 'f']
    return .infinite false
  orElse infinity do
    word ['n', 'a', 'n']
    return .nan

/-- Reads a special value with an optional sign. -/
def specialValue : Reading Binary64 := do
  let sign ← optional (one isSign)
  let value ← specialName
  return if sign == some '-' then value.neg else value

/-- Reads a double. -/
def float : Reading Binary64 := named .float <|
  orElse (converted true fractionText fractionOf) specialValue

end Toml

end MarkdownTemplate
