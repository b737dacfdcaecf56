import SignalLint.Decimal.Binary64

/-!
# The shortest decimal that reads back

`Binary64.shortest` finds, for a positive number, the fewest significant digits that read back as
the number, and of those the nearest. `Binary64.text` writes a number with them: positional
notation while the decimal point stands near the digits, otherwise an exponent of at least two
digits.
-/

namespace SignalLint

/-- `digits · 10 ^ exponent` -/
structure Decimal where
  digits : Nat
  exponent : Int
  deriving DecidableEq, Repr, Inhabited

/-- The significant digits of a decimal, without zeros at the end, and the place of the decimal
point counted from before the first digit. -/
def Decimal.significant (d : Decimal) : List Char × Int :=
  let written := Nat.toDigits 10 d.digits
  ((written.reverse.dropWhile (· = '0')).reverse, d.exponent + written.length)

namespace Binary64

/-- A positive number as a fraction. -/
def ratio (significand : Nat) (exponent : Int) : Nat × Nat :=
  if 0 ≤ exponent then (significand * power 2 exponent, 1)
  else (significand, power 2 (-exponent))

/-- The exponent `k` with `10 ^ (k - 1) ≤ num / den < 10 ^ k`, found from an estimate by at most a
step in either direction. -/
def decimalMagnitude (num den : Nat) : Int :=
  let atLeast (k : Int) : Bool :=
    if 0 ≤ k then den * power 10 k ≤ num else den ≤ num * power 10 (-k)
  let estimate : Int := ((digitCount num : Int) - digitCount den)
  if atLeast (estimate + 1) then estimate + 2
  else if atLeast estimate then estimate + 1
  else if atLeast (estimate - 1) then estimate
  else estimate - 1

/-- The decimals with `count` digits next to `num / den`: the one below and the one above. -/
def neighbours (num den : Nat) (magnitude : Int) (count : Nat) : Decimal × Decimal :=
  let exponent := magnitude - count
  let (n, d) :=
    if 0 ≤ exponent then (num, den * power 10 exponent) else (num * power 10 (-exponent), den)
  (⟨n / d, exponent⟩, ⟨n / d + 1, exponent⟩)

/-- Whether the decimal below is at most as far from `num / den` as the one above; a tie goes to
the even digit. -/
def lowerIsNearer (num den : Nat) (lower : Decimal) : Bool :=
  let (n, d) :=
    if 0 ≤ lower.exponent then (num, den * power 10 lower.exponent)
    else (num * power 10 (-lower.exponent), den)
  let twice := 2 * (n - lower.digits * d)
  if twice = d then lower.digits % 2 = 0 else twice < d

/-- The nearest decimal with `count` digits that reads back as the number. -/
def candidate? (significand : Nat) (exponent : Int) (count : Nat) : Option Decimal :=
  let x : Binary64 := .finite false significand exponent
  let (num, den) := ratio significand exponent
  let (lower, upper) := neighbours num den (decimalMagnitude num den) count
  let readsBack (d : Decimal) : Bool := ofDecimal false d.digits d.exponent = x
  match readsBack lower, readsBack upper with
  | true, true => some (if lowerIsNearer num den lower then lower else upper)
  | true, false => some lower
  | false, true => some upper
  | false, false => none

/-- The shortest decimal that reads back as a positive number; seventeen digits always do. -/
def shortest (significand : Nat) (exponent : Int) : Decimal :=
  ((List.range 17).findSome? fun n => candidate? significand exponent (n + 1)).getD ⟨0, 0⟩

/-- An exponent with its sign and at least two digits. -/
def exponentText (e : Int) : String :=
  let digits := toString e.natAbs
  "e" ++ (if e < 0 then "-" else "+") ++ (if digits.length < 2 then "0" ++ digits else digits)

/-- Digits with a decimal point at `point`: positional from `1e-4` up to below `1e16`, with a
fraction of at least one digit; otherwise one digit before the point and an exponent. -/
def layout (digits : List Char) (point : Int) : String :=
  let count : Int := digits.length
  if -3 ≤ point ∧ point ≤ 0 then
    "0." ++ String.ofList (List.replicate (-point).toNat '0' ++ digits)
  else if 0 < point ∧ point ≤ 16 then
    if count ≤ point then
      String.ofList (digits ++ List.replicate (point - count).toNat '0') ++ ".0"
    else String.ofList (digits.take point.toNat) ++ "." ++ String.ofList (digits.drop point.toNat)
  else
    let fraction := digits.drop 1
    String.ofList (digits.take 1) ++
      (if fraction.isEmpty then "" else "." ++ String.ofList fraction) ++ exponentText (point - 1)

/-- The text of a number. -/
def text : Binary64 → String
  | .nan => "nan"
  | .infinite negative => if negative then "-inf" else "inf"
  | .finite negative significand exponent =>
    let sign := if negative then "-" else ""
    if significand = 0 then sign ++ "0.0"
    else
      let (digits, point) := (shortest significand exponent).significant
      sign ++ layout digits point

end Binary64

end SignalLint
