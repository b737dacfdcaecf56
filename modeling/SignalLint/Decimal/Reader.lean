import SignalLint.Decimal.Binary64
import SignalLint.Text.Blank
import SignalLint.Text.Digit

/-!
# Reading numbers

Integers and decimals as people write them in a setting: white space around, a sign, digits of any
script, and single underscores between digits. Decimals may have a fraction, an exponent, or be one
of the words for infinity and for no number.
-/

namespace SignalLint

namespace NumberText

/-- White space that may surround a number: of the control characters only those that move the
pen. -/
def isMargin (c : Char) : Bool :=
  isBlank c && !(0x1C ≤ c.toNat && c.toNat ≤ 0x1F)

/-- A text without the white space around it. -/
def trim (cs : List Char) : List Char :=
  ((cs.dropWhile isMargin).reverse.dropWhile isMargin).reverse

/-- A sign, if there is one, and the rest; the flag says whether it is a minus. -/
def sign (cs : List Char) : Bool × List Char :=
  match cs with
  | '-' :: rest => (true, rest)
  | '+' :: rest => (false, rest)
  | _ => (false, cs)

/-- Digits at the front, an underscore allowed between two of them, and the rest. -/
def digits : List Char → List Nat × List Char
  | [] => ([], [])
  | [c] =>
    match Digit.value? c with
    | some d => ([d], [])
    | none => ([], [c])
  | c :: next :: rest =>
    match Digit.value? c with
    | none => ([], c :: next :: rest)
    | some d =>
      if next = '_' ∧ (rest.head?.bind Digit.value?).isSome then
        let (ds, tail) := digits rest
        (d :: ds, tail)
      else
        let (ds, tail) := digits (next :: rest)
        (d :: ds, tail)

/-- The number with these decimal digits. -/
def value (ds : List Nat) : Nat := ds.foldl (fun n d => n * 10 + d) 0

/-- The integer that a text writes. -/
def readInt (text : String) : Option Int :=
  let (negative, rest) := sign (trim text.toList)
  match digits rest with
  | ([], _) => none
  | (ds, []) => some (if negative then -(value ds : Int) else value ds)
  | _ => none

/-- An exponent at the front: its mark, a sign and digits. No mark means zero. -/
def exponent? (cs : List Char) : Option Int :=
  match cs with
  | [] => some 0
  | c :: rest =>
    if c = 'e' ∨ c = 'E' then
      let (negative, rest) := sign rest
      match digits rest with
      | ([], _) => none
      | (ds, []) => some (if negative then -(value ds : Int) else value ds)
      | _ => none
    else none

/-- A small ASCII letter for a capital one. -/
def asciiLower (cs : List Char) : String := String.ofList (cs.map Char.toLower)

/-- The number that a text writes. -/
def readBinary64 (text : String) : Option Binary64 :=
  let (negative, rest) := sign (trim text.toList)
  let word := asciiLower rest
  if word = "inf" ∨ word = "infinity" then some (.infinite negative)
  else if word = "nan" then some .nan
  else
    let (whole, rest) := digits rest
    let (fraction, rest) :=
      match rest with
      | '.' :: rest => digits rest
      | _ => ([], rest)
    if whole.isEmpty ∧ fraction.isEmpty then none
    else
      (exponent? rest).map fun e =>
        .ofDecimal negative (value (whole ++ fraction)) (e - fraction.length)

end NumberText

end SignalLint
