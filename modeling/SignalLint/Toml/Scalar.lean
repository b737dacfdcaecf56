import SignalLint.Decimal.Reader
import SignalLint.Toml.Text
import SignalLint.Value.Text

/-!
# Numbers and dates of TOML

A reader takes as much as belongs to a number or date and leaves the rest; what may follow is for
the caller to say. A date whose clock time is malformed ends behind the date.
-/

namespace SignalLint

namespace Toml

/-- Digits, single underscores between them left out; the first character must be a digit. -/
def digitRun (isDigit : Char → Bool) : List Char → List Char × List Char
  | [] => ([], [])
  | [c] => if isDigit c then ([c], []) else ([], [c])
  | c :: next :: rest =>
    if !isDigit c then ([], c :: next :: rest)
    else if next = '_' && (rest.head?.map isDigit).getD false then
      let (ds, tail) := digitRun isDigit rest
      (c :: ds, tail)
    else
      let (ds, tail) := digitRun isDigit (next :: rest)
      (c :: ds, tail)

/-- The number with these digits. -/
def digitsValue (base : Nat) (ds : List Char) : Nat :=
  ds.foldl (fun n c => n * base + (hexDigit? c).getD 0) 0

/-- Whether a character is a digit to a base up to sixteen. -/
def isDigitOf (base : Nat) (c : Char) : Bool :=
  match hexDigit? c with
  | some d => d < base
  | none => false

/-- A number to base sixteen, eight or two, with its mark in front. -/
def radixNumber? (cs : List Char) : Reading Value :=
  let digits (base : Nat) (rest : List Char) : Reading Value :=
    match digitRun (isDigitOf base) rest with
    | ([], _) => none
    | (ds, rest) => some (.int (digitsValue base ds), rest)
  match cs with
  | '0' :: 'x' :: rest => digits 16 rest
  | '0' :: 'o' :: rest => digits 8 rest
  | '0' :: 'b' :: rest => digits 2 rest
  | _ => none

/-- The digits in front of the point: a single zero, or digits that do not start with one. -/
def wholeDigits? (cs : List Char) : Reading (List Char) :=
  match cs with
  | '0' :: rest => some (['0'], rest)
  | _ =>
    match digitRun Char.isDigit cs with
    | ([], _) => none
    | (ds, rest) => some (ds, rest)

/-- The digits behind a point, if there are any. -/
def fraction (cs : List Char) : Option (List Char) × List Char :=
  match cs with
  | '.' :: rest =>
    match digitRun Char.isDigit rest with
    | ([], _) => (none, cs)
    | (ds, rest) => (some ds, rest)
  | _ => (none, cs)

/-- An exponent, if there is one. -/
def exponent (cs : List Char) : Option Int × List Char :=
  match cs with
  | c :: rest =>
    if c = 'e' || c = 'E' then
      let (negative, rest) := NumberText.sign rest
      match digitRun Char.isDigit rest with
      | ([], _) => (none, cs)
      | (ds, rest) =>
        let n : Int := digitsValue 10 ds
        (some (if negative then -n else n), rest)
    else (none, cs)
  | [] => (none, cs)

/-- A decimal number: an integer unless it has a fraction or an exponent. Only of integers the digits
are counted. -/
def decimalNumber (cs : List Char) : Except Problem (Value × List Char) := do
  let (negative, rest) := NumberText.sign cs
  let (whole, rest) ← wholeDigits? rest
  let (places, rest) := fraction rest
  let (power, rest) := exponent rest
  if places.isNone && power.isNone then
    if Value.digitLimit < whole.length then throw (.tooManyDigits whole.length)
    let n : Int := digitsValue 10 whole
    return (.int (if negative then -n else n), rest)
  else
    let places := places.getD []
    let power := power.getD 0 - places.length
    return (.float (.ofDecimal negative (digitsValue 10 (whole ++ places)) power), rest)

/-- `inf` or `nan`, perhaps with a sign. -/
def specialNumber? (cs : List Char) : Reading Value :=
  let (negative, rest) := NumberText.sign cs
  match rest with
  | 'i' :: 'n' :: 'f' :: rest => some (.float (.infinite negative), rest)
  | 'n' :: 'a' :: 'n' :: rest => some (.float .nan, rest)
  | _ => none

/-! ### Dates and times -/

/-- A number of exactly so many digits, at most `high`. -/
def fixedNumber? (width high : Nat) (cs : List Char) : Reading Nat :=
  let ds := cs.take width
  if ds.length = width && ds.all Char.isDigit && digitsValue 10 ds ≤ high then
    some (digitsValue 10 ds, cs.drop width)
  else none

/-- Reads one character. -/
def expect? (c : Char) (cs : List Char) : Option (List Char) :=
  match cs with
  | d :: rest => if d = c then some rest else none
  | [] => none

/-- The microseconds behind the seconds; further digits are dropped. -/
def microseconds (cs : List Char) : Nat × List Char :=
  match cs with
  | '.' :: rest =>
    match rest.takeWhile Char.isDigit with
    | [] => (0, cs)
    | ds =>
      let six := ds.take 6
      (digitsValue 10 six * power 10 (6 - six.length), rest.dropWhile Char.isDigit)
  | _ => (0, cs)

/-- `07:32:00.5` -/
def time? (cs : List Char) : Option (TimeOfDay × List Char) := do
  let (hour, rest) ← fixedNumber? 2 23 cs
  let (minute, rest) ← fixedNumber? 2 59 (← expect? ':' rest)
  let (second, rest) ← fixedNumber? 2 59 (← expect? ':' rest)
  let (micro, rest) := microseconds rest
  return (⟨hour, minute, second, micro⟩, rest)

/-- The offset of a clock from universal time, in minutes. -/
def offset? (cs : List Char) : Option (Int × List Char) :=
  match cs with
  | [] => none
  | c :: rest =>
    if c = 'Z' || c = 'z' then some (0, rest)
    else if c = '+' || c = '-' then do
      let (hours, rest) ← fixedNumber? 2 23 rest
      let (minutes, rest) ← fixedNumber? 2 59 (← expect? ':' rest)
      let n : Int := hours * 60 + minutes
      return (if c = '-' then -n else n, rest)
    else none

/-- `2020-01-02`, the month and the day from one on. -/
def dateDigits? (cs : List Char) : Option (Date × List Char) := do
  let (year, rest) ← fixedNumber? 4 9999 cs
  let (month, rest) ← fixedNumber? 2 12 (← expect? '-' rest)
  let (day, rest) ← fixedNumber? 2 31 (← expect? '-' rest)
  if month = 0 || day = 0 then none else return (⟨year, month, day⟩, rest)

/-- A clock time behind a date, with the offset of the clock. -/
def timeBehind? (cs : List Char) : Option ((TimeOfDay × Option Int) × List Char) :=
  match cs with
  | [] => none
  | c :: rest =>
    if c = 'T' || c = 't' || c = ' ' then do
      let (t, rest) ← time? rest
      match offset? rest with
      | some (minutes, rest) => return ((t, some minutes), rest)
      | none => return ((t, none), rest)
    else none

/-- A moment. Once it starts like a date it must be one: the second `Option` says whether it is. -/
def moment? (cs : List Char) : Reading (Option Value) :=
  match dateDigits? cs with
  | some (d, rest) =>
    let checked (m : Moment) : Option Value := if d.isReal then some (.moment m) else none
    match timeBehind? rest with
    | some ((t, offset), rest) => some (checked (.dateTime d t offset), rest)
    | none => some (checked (.date d), rest)
  | none => (time? cs).map fun (t, rest) => (some (.moment (.time t)), rest)

end Toml

end SignalLint
