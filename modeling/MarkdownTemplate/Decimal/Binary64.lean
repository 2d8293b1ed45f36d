/-!
# Double precision numbers

A `Binary64` is a number of the 64-bit binary floating-point format: a mantissa below `2 ^ 53` times
a power of two, an infinity, or not a number. `Binary64.ofRatio` rounds a quotient of natural
numbers to the nearest such number, a tie going to the even mantissa, and `Binary64.ofDecimal` reads
a decimal fraction that way.
-/

namespace MarkdownTemplate

/-- The power of two with the given exponent. -/
def powTwo (exponent : Nat) : Nat :=
  Nat.pow 2 exponent

/-- The power of ten with the given exponent. -/
def powTen (exponent : Nat) : Nat :=
  Nat.pow 10 exponent

/-- A number in the double precision format. -/
inductive Binary64 where
  /-- Not a number. -/
  | nan
  /-- An infinity of the given sign. -/
  | infinite (negative : Bool)
  /-- The number `mantissa * 2 ^ exponent` of the given sign. -/
  | finite (negative : Bool) (mantissa : Nat) (exponent : Int)
deriving DecidableEq

namespace Binary64

/-- The exponent of the smallest positive number, and of zero. -/
def leastExponent : Int := -1074

/-- The exponent of the largest finite numbers. -/
def greatestExponent : Int := 971

/-- The zero of the given sign. -/
def zero (negative : Bool) : Binary64 :=
  finite negative 0 leastExponent

/-- The number with the other sign. -/
def neg : Binary64 → Binary64
  | nan => nan
  | infinite negative => infinite !negative
  | finite negative mantissa exponent => finite (!negative) mantissa exponent

/-- Whether the number is neither an infinity nor not a number. -/
def isFinite : Binary64 → Bool
  | finite .. => true
  | _ => false

/-- Equality of keys: the two zeros are equal, and so is not-a-number to itself. -/
def same : Binary64 → Binary64 → Bool
  | finite negative mantissa exponent, finite negative' mantissa' exponent' =>
    mantissa == mantissa' && (mantissa == 0 || (negative == negative' && exponent == exponent'))
  | x, y => x == y

/-- The quotient `numerator / (denominator * 2 ^ exponent)` as a fraction of natural numbers. -/
def scaled (numerator denominator : Nat) (exponent : Int) : Nat × Nat :=
  match exponent with
  | .ofNat n => (numerator, denominator * powTwo n)
  | .negSucc n => (numerator * powTwo (n + 1), denominator)

/-- The integer nearest to `numerator / denominator`, a tie going to the even one. -/
def roundHalfEven (numerator denominator : Nat) : Nat :=
  let quotient := numerator / denominator
  let twice := 2 * (numerator % denominator)
  if twice < denominator || (twice == denominator && quotient % 2 == 0) then quotient
  else quotient + 1

/-- The largest exponent at which the quotient still takes 53 binary digits before the point, or the
least exponent of the format if that is larger. -/
def exponentFor (numerator denominator : Nat) : Int :=
  let guess : Int := (numerator.log2 : Int) - (denominator.log2 : Int) - 53
  let fits (exponent : Int) : Bool :=
    let fraction := scaled numerator denominator exponent
    fraction.1 < powTwo 53 * fraction.2
  let exponent := if fits guess then guess else if fits (guess + 1) then guess + 1 else guess + 2
  max exponent leastExponent

/-- The number of the given sign nearest to `numerator / denominator`, a tie going to the even
mantissa; past the largest finite number it is the infinity. -/
def ofRatio (negative : Bool) (numerator denominator : Nat) : Binary64 :=
  if numerator == 0 then
    zero negative
  else
    let exponent := exponentFor numerator denominator
    let fraction := scaled numerator denominator exponent
    let mantissa := roundHalfEven fraction.1 fraction.2
    let (mantissa, exponent) :=
      if mantissa == powTwo 53 then (powTwo 52, exponent + 1) else (mantissa, exponent)
    if exponent > greatestExponent then infinite negative else finite negative mantissa exponent

/-- The number nearest to the natural number `n`. -/
def ofNat (n : Nat) : Binary64 :=
  ofRatio false n 1

/-- How many decimal digits `n` has; zero has none. -/
def decimalLength (n : Nat) : Nat :=
  if n == 0 then 0 else (Nat.toDigits 10 n).length

/-- The number nearest to `significand * 10 ^ exponent`. Values beyond the reach of the format are
settled by their size, so no power of ten is computed for them. -/
def ofDecimal (negative : Bool) (significand : Nat) (exponent : Int) : Binary64 :=
  if significand == 0 then
    zero negative
  else
    let magnitude := (decimalLength significand : Int) + exponent
    if magnitude > 310 then infinite negative
    else if magnitude < -330 then zero negative
    else
      match exponent with
      | .ofNat n => ofRatio negative (significand * powTen n) 1
      | .negSucc n => ofRatio negative significand (powTen (n + 1))

/-- The magnitude of the number as a fraction, and zero if it is not finite. -/
def toRatio : Binary64 → Nat × Nat
  | finite _ mantissa (.ofNat n) => (mantissa * powTwo n, 1)
  | finite _ mantissa (.negSucc n) => (mantissa, powTwo (n + 1))
  | _ => (0, 1)

/-- The product of two magnitudes, rounded to the format. -/
def mul (x y : Binary64) : Binary64 :=
  match x, y with
  | finite negative .., finite negative' .. =>
    ofRatio (negative != negative') (x.toRatio.1 * y.toRatio.1) (x.toRatio.2 * y.toRatio.2)
  | _, _ => nan

/-- The quotient of two numbers, rounded to the format; the divisor is not zero. -/
def div (x y : Binary64) : Binary64 :=
  match x, y with
  | finite negative .., finite negative' .. =>
    ofRatio (negative != negative') (x.toRatio.1 * y.toRatio.2) (x.toRatio.2 * y.toRatio.1)
  | _, _ => nan

end Binary64

end MarkdownTemplate
