import SignalLint.Decimal.Power

/-!
# Binary floating-point numbers

The numbers of the 64-bit binary interchange format, with exact arithmetic on their significands in
place of machine operations:

* `Binary64.ofRatio` rounds a quotient to the nearest number, a tie to the even significand;
* `Binary64.ofDecimal` reads `digits · 10 ^ exponent` and rounds once;
* `Binary64.scaleUp` multiplies by a power of two;
* `Binary64.truncate` gives the integer part.
-/

namespace SignalLint

/-- A number of the 64-bit format. A finite one is `± significand · 2 ^ exponent`. -/
inductive Binary64 where
  | finite (negative : Bool) (significand : Nat) (exponent : Int)
  | infinite (negative : Bool)
  | nan
  deriving DecidableEq, Repr, Inhabited

namespace Binary64

/-- The digits of a significand, in bits. -/
def precision : Nat := 53

/-- The exponent of the smallest numbers. -/
def minExponent : Int := -1074

/-- The exponent of the largest numbers. -/
def maxExponent : Int := 971

/-- Zero with a sign. -/
def zero (negative : Bool) : Binary64 := .finite negative 0 minExponent

/-- The quotient rounded to the nearest integer, a tie to the even one. -/
def divRound (num den : Nat) : Nat :=
  let q := num / den
  let twice := 2 * (num % den)
  if twice < den then q
  else if den < twice then q + 1
  else if q % 2 = 0 then q else q + 1

/-- `num / den` in units of `2 ^ exponent`, as a fraction. -/
def inUnits (num den : Nat) (exponent : Int) : Nat × Nat :=
  if 0 ≤ exponent then (num, den * power 2 exponent) else (num * power 2 (-exponent), den)

/-- The exponent at which the integer part of `num / den` has as many bits as a significand. -/
def fitExponent (num den : Nat) : Int :=
  let guess : Int := (num.log2 : Int) - den.log2 - (precision - 1)
  let (n, d) := inUnits num den guess
  if n / d < power 2 (precision - 1) then guess - 1 else guess

/-- The number nearest to `num / den`, a tie going to the even significand; too large a quotient
is infinite. The denominator is not zero. -/
def ofRatio (negative : Bool) (num den : Nat) : Binary64 :=
  if num = 0 then zero negative
  else
    let exponent := max (fitExponent num den) minExponent
    let (n, d) := inUnits num den exponent
    let significand := divRound n d
    let (significand, exponent) :=
      if significand = power 2 precision then (power 2 (precision - 1), exponent + 1)
      else (significand, exponent)
    if maxExponent < exponent then .infinite negative
    else if significand = 0 then zero negative
    else .finite negative significand exponent

/-- The number of decimal digits of a positive integer. -/
def digitCount (n : Nat) : Nat := (Nat.toDigits 10 n).length

/-- The number nearest to `digits · 10 ^ exponent`. Exponents far outside the range of the format
are settled without computing the power. -/
def ofDecimal (negative : Bool) (digits : Nat) (exponent : Int) : Binary64 :=
  if digits = 0 then zero negative
  else
    let magnitude := exponent + digitCount digits
    if 310 < magnitude then .infinite negative
    else if magnitude < -330 then zero negative
    else if 0 ≤ exponent then ofRatio negative (digits * power 10 exponent) 1
    else ofRatio negative digits (power 10 (-exponent))

/-- The number nearest to an integer. -/
def ofInt (n : Int) : Binary64 := ofRatio (n < 0) n.natAbs 1

/-- The product with `2 ^ bits`, rounded. -/
def scaleUp (x : Binary64) (bits : Nat) : Binary64 :=
  match x with
  | .finite negative significand exponent =>
    let scaled := exponent + bits
    if 0 ≤ scaled then ofRatio negative (significand * power 2 scaled) 1
    else ofRatio negative significand (power 2 (-scaled))
  | other => other

/-- The integer part of a finite number; the fraction is dropped. -/
def truncate : Binary64 → Option Int
  | .finite negative significand exponent =>
    let magnitude : Nat :=
      if 0 ≤ exponent then significand * power 2 exponent
      else significand / power 2 (-exponent)
    some (if negative then -magnitude else magnitude)
  | _ => none

/-- The integer that a number is, if it is one. -/
def toInt? : Binary64 → Option Int
  | .finite negative significand exponent =>
    if 0 ≤ exponent ∨ significand % power 2 (-exponent) = 0 then
      truncate (.finite negative significand exponent)
    else none
  | _ => none

/-- Whether a number is at most zero; a number that is none is not. -/
def isNonpositive : Binary64 → Bool
  | .finite negative significand _ => negative || significand = 0
  | .infinite negative => negative
  | .nan => false

/-- Whether a number is zero, of either sign. -/
def isZero : Binary64 → Bool
  | .finite _ significand _ => significand = 0
  | _ => false

/-- Whether one number is less than another. -/
def less : Binary64 → Binary64 → Bool
  | .nan, _ | _, .nan => false
  | .infinite true, .infinite true => false
  | .infinite true, _ => true
  | _, .infinite true => false
  | .infinite false, _ => false
  | _, .infinite false => true
  | .finite n m e, .finite n' m' e' =>
    let low := min e e'
    let value (negative : Bool) (significand : Nat) (exponent : Int) : Int :=
      let magnitude : Int := significand * power 2 (exponent - low)
      if negative then -magnitude else magnitude
    value n m e < value n' m' e'

end Binary64

end SignalLint
