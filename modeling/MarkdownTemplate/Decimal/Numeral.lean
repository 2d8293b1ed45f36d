import MarkdownTemplate.Decimal.Binary64

/-!
# Numerals

A numeral is a text of digits in some base. `readNatural?` gives the number that a numeral spells,
`readPlaces?` the number that a numeral of known length at the front of a text spells, and
`readFraction?` the double that a decimal fraction with an optional exponent spells. `hexText` is
the code of a character or a byte as escapes show it.
-/

namespace MarkdownTemplate

/-- The value of `c` as a digit in `base`. -/
def digit? (base : Nat) (c : Char) : Option Nat :=
  let value? :=
    if '0' ≤ c && c ≤ '9' then some (c.toNat - '0'.toNat)
    else if 'a' ≤ c && c ≤ 'z' then some (c.toNat - 'a'.toNat + 10)
    else if 'A' ≤ c && c ≤ 'Z' then some (c.toNat - 'A'.toNat + 10)
    else none
  value?.filter (· < base)

/-- Whether `c` is a digit in `base`. -/
def isDigitIn (base : Nat) (c : Char) : Bool :=
  (digit? base c).isSome

/-- The natural number that digits in `base` spell on top of `value`. -/
def readDigits? (base value : Nat) : List Char → Option Nat
  | [] => some value
  | c :: chars => (digit? base c).bind fun digit => readDigits? base (value * base + digit) chars

/-- The natural number that `chars` spell in `base`; there must be a digit. -/
def readNatural? (base : Nat) (chars : List Char) : Option Nat :=
  if chars.isEmpty then none else readDigits? base 0 chars

/-- The natural number that the first `count` characters spell in `base`, if all are digits. -/
def readPlaces? (base count : Nat) (chars : List Char) : Option Nat :=
  let digits := chars.take count
  if digits.length < count then none else readDigits? base 0 digits

/-- `n` in base sixteen, in at least `width` digits. The letters among them are capitals if `upper`
is set. -/
def hexText (width : Nat) (upper : Bool) (n : Nat) : List Char :=
  let digits := Nat.toDigits 16 n
  List.leftpad width '0' (if upper then digits.map Char.toUpper else digits)

/-- The exponent of a decimal fraction: nothing, or `e` with an integer. -/
def readExponent? : List Char → Option Int
  | [] => some 0
  | c :: chars =>
    if c == 'e' || c == 'E' then
      match chars with
      | '-' :: digits => (readNatural? 10 digits).map fun n => -(n : Int)
      | '+' :: digits => (readNatural? 10 digits).map fun n => (n : Int)
      | digits => (readNatural? 10 digits).map fun n => (n : Int)
    else none

/-- The double that a decimal fraction after its sign spells; one that is too large is infinite. -/
def readFraction? (negative : Bool) (chars : List Char) : Option Binary64 := do
  let whole := chars.takeWhile (isDigitIn 10)
  let rest := chars.dropWhile (isDigitIn 10)
  let (places, rest) :=
    match rest with
    | '.' :: rest => (rest.takeWhile (isDigitIn 10), rest.dropWhile (isDigitIn 10))
    | _ => ([], rest)
  let significand ← readNatural? 10 (whole ++ places)
  let exponent ← readExponent? rest
  return Binary64.ofDecimal negative significand (exponent - places.length)

end MarkdownTemplate
