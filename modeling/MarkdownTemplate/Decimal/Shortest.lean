import MarkdownTemplate.Decimal.Binary64

/-!
# Shortest decimal text of a double

`Binary64.shortest` gives the fewest decimal digits that still read back as the number.
`FloatLayout` is the choice of how digits and exponent are written, and `Binary64.write` puts them
together.
-/

namespace MarkdownTemplate

/-- Decimal digits with the place of the point: the value is `0.d₁d₂… * 10 ^ point`. -/
structure DecimalDigits where
  /-- The digits, most significant first. -/
  digits : List Char
  /-- How many places the point stands to the right of the first digit's left side. -/
  point : Int
deriving DecidableEq

namespace Binary64

/-- The ends of the interval of reals that round to `mantissa * 2 ^ exponent`, in units of
`2 ^ (exponent - 2)`. Below a power of two the gap is half as wide. -/
def roundingInterval (mantissa : Nat) (exponent : Int) : Nat × Nat :=
  let low := if mantissa == powTwo 52 && exponent > leastExponent then 4 * mantissa - 1
    else 4 * mantissa - 2
  (low, 4 * mantissa + 2)

/-- Whether `numerator / denominator < 10 ^ exponent`. -/
def ltPowTen (numerator denominator : Nat) : Int → Bool
  | .ofNat n => numerator < denominator * powTen n
  | .negSucc n => numerator * powTen (n + 1) < denominator

/-- The place of the point for a positive fraction: the least `k` with `numerator / denominator <
10 ^ k`, found from `guess` downwards in at most `steps` steps. -/
def pointFrom (numerator denominator : Nat) (guess : Int) : Nat → Int
  | 0 => guess
  | steps + 1 =>
    if ltPowTen numerator denominator (guess - 1) then
      pointFrom numerator denominator (guess - 1) steps
    else
      guess

/-- The shortest digits for a positive number, trying grids of `tried + 1`, `tried + 2`, … digits.
On each grid the two neighbours of the number are tested; of two hits the nearer one wins. -/
def shortestFrom (mantissa : Nat) (exponent : Int) (point : Int) (tried : Nat) :
    Nat → DecimalDigits
  | 0 => ⟨[], point⟩
  | steps + 1 =>
    let unit := point - (tried + 1 : Int)
    -- All magnitudes become integers: binary units of `2 ^ (exponent - 2)` and decimal units.
    let binaryShift := exponent - 2
    let twoUp := if binaryShift ≥ 0 then powTwo binaryShift.toNat else 1
    let twoDown := if binaryShift ≥ 0 then 1 else powTwo (-binaryShift).toNat
    let tenUp := if unit ≥ 0 then powTen unit.toNat else 1
    let tenDown := if unit ≥ 0 then 1 else powTen (-unit).toNat
    let binary (n : Nat) : Nat := n * twoUp * tenDown
    let decimal (n : Nat) : Nat := n * tenUp * twoDown
    let interval := roundingInterval mantissa exponent
    let inside (n : Nat) : Bool :=
      if mantissa % 2 == 0 then binary interval.1 ≤ decimal n && decimal n ≤ binary interval.2
      else binary interval.1 < decimal n && decimal n < binary interval.2
    let value := binary (4 * mantissa)
    let lower := value / decimal 1
    let upper := lower + 1
    let chosen : Option Nat :=
      match inside lower && lower != 0, inside upper with
      | true, true =>
        if value - decimal lower < decimal upper - value
            || (value - decimal lower == decimal upper - value && lower % 2 == 0) then some lower
        else some upper
      | true, false => some lower
      | false, true => some upper
      | false, false => none
    match chosen with
    | some n =>
      let digits := Nat.toDigits 10 n
      let significant := (digits.reverse.dropWhile (· == '0')).reverse
      ⟨significant, point + (digits.length - (tried + 1) : Int)⟩
    | none => shortestFrom mantissa exponent point (tried + 1) steps

/-- The fewest digits that read back as the finite number, and of these the nearest. -/
def shortest (mantissa : Nat) (exponent : Int) : DecimalDigits :=
  if mantissa == 0 then
    ⟨['0'], 1⟩
  else
    let fraction := toRatio (finite false mantissa exponent)
    -- The decimal logarithm of two is 0.30103 up to a relative error below one in a million.
    let guess : Int := ((fraction.1.log2 : Int) - fraction.2.log2 + 1) * 30103 / 100000 + 2
    shortestFrom mantissa exponent (pointFrom fraction.1 fraction.2 guess 40) 0 18

end Binary64

/-- How a number is written from its digits. -/
structure FloatLayout where
  /-- The largest number of digits before the point that is written without an exponent. -/
  longestIntegral : Int
  /-- The largest number of zeros after the point that is written without an exponent. -/
  longestZeros : Int
  /-- Whether a positive exponent has a plus sign. -/
  signedExponent : Bool
deriving DecidableEq

namespace FloatLayout

/-- The exponent as it follows the digits. -/
def exponentText (layout : FloatLayout) (exponent : Int) : List Char :=
  let sign := if exponent < 0 then ['-'] else if layout.signedExponent then ['+'] else []
  'e' :: sign ++ Nat.toDigits 10 exponent.natAbs

/-- The digits with point and exponent. A number without fraction ends in `.0`, unless it has an
exponent. -/
def digitsText (layout : FloatLayout) (decimal : DecimalDigits) : List Char :=
  let digits := decimal.digits
  let point := decimal.point
  if 0 < point && point ≤ layout.longestIntegral then
    let places := point.toNat
    if digits.length ≤ places then
      digits ++ List.replicate (places - digits.length) '0' ++ ['.', '0']
    else
      digits.take places ++ '.' :: digits.drop places
  else if point ≤ 0 && -layout.longestZeros ≤ point then
    '0' :: '.' :: List.replicate (-point).toNat '0' ++ digits
  else
    match digits with
    | [digit] => digit :: layout.exponentText (point - 1)
    | [] => []
    | digit :: rest => digit :: '.' :: rest ++ layout.exponentText (point - 1)

/-- A finite number in the layout. -/
def finiteText (layout : FloatLayout) (negative : Bool) (mantissa : Nat) (exponent : Int) :
    String :=
  let sign := if negative then ['-'] else []
  String.ofList (sign ++ layout.digitsText (Binary64.shortest mantissa exponent))

end FloatLayout

end MarkdownTemplate
