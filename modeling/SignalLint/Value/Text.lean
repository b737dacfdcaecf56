import SignalLint.Decimal.Shortest
import SignalLint.Text.Quoted
import SignalLint.Value.Basic

/-!
# The texts of values

A value has two texts. `Value.shown` makes its type visible: texts are quoted, lists and tables are
bracketed. `Value.plain` is what an interpolated message holds: a text stands for itself, a date or
time is written in the international form, everything else is as shown.

Integers are written up to a limit of digits only. The texts here are those without the limit; whoever
writes a value that may hold any integer first asks whether it is within it (`Value.hasText`).
-/

namespace SignalLint

/-- A number with at least `width` digits. -/
def padded (width n : Nat) : String :=
  let digits := Nat.toDigits 10 n
  String.ofList (List.replicate (width - digits.length) '0' ++ digits)

/-- Parts with a comma between them. -/
def commaList (parts : List String) : String := String.intercalate ", " parts

namespace Date

/-- `2020-01-02` -/
def plain (d : Date) : String :=
  s!"{padded 4 d.year}-{padded 2 d.month}-{padded 2 d.day}"

/-- The arguments of a date. -/
def shownParts (d : Date) : List String := [toString d.year, toString d.month, toString d.day]

end Date

namespace TimeOfDay

/-- `07:32:00`, with a fraction of six digits unless it is zero. -/
def plain (t : TimeOfDay) : String :=
  s!"{padded 2 t.hour}:{padded 2 t.minute}:{padded 2 t.second}" ++
    (if t.microsecond = 0 then "" else s!".{padded 6 t.microsecond}")

/-- The arguments of a time of day: seconds and microseconds only as far as they are not zero. -/
def shownParts (t : TimeOfDay) : List String :=
  [toString t.hour, toString t.minute] ++
    (if t.second = 0 ∧ t.microsecond = 0 then [] else [toString t.second]) ++
    (if t.microsecond = 0 then [] else [toString t.microsecond])

end TimeOfDay

namespace Moment

/-- `+02:00` -/
def offsetText (minutes : Int) : String :=
  (if minutes < 0 then "-" else "+") ++
    s!"{padded 2 (minutes.natAbs / 60)}:{padded 2 (minutes.natAbs % 60)}"

/-- The international form. -/
def plain : Moment → String
  | date d => d.plain
  | time t => t.plain
  | dateTime d t offset =>
    s!"{d.plain} {t.plain}" ++ (match offset with | some m => offsetText m | none => "")

/-- An offset as a time zone; days are counted so that the seconds of the rest are not negative. -/
def shownOffset (minutes : Int) : String :=
  if minutes = 0 then "datetime.timezone.utc"
  else
    let seconds := minutes * 60
    let days := seconds.fdiv 86400
    let rest := seconds.fmod 86400
    let parts :=
      (if days = 0 then [] else [s!"days={days}"]) ++ (if rest = 0 then [] else [s!"seconds={rest}"])
    s!"datetime.timezone(datetime.timedelta({commaList parts}))"

/-- The form with the type visible. -/
def shown : Moment → String
  | date d => s!"datetime.date({commaList d.shownParts})"
  | time t => s!"datetime.time({commaList t.shownParts})"
  | dateTime d t offset =>
    let parts := d.shownParts ++ t.shownParts ++
      (match offset with | some m => ["tzinfo=" ++ shownOffset m] | none => [])
    s!"datetime.datetime({commaList parts})"

end Moment

namespace Value

mutual

/-- The text of a value with its type visible. -/
def shown : Value → String
  | null => "None"
  | bool true => "True"
  | bool false => "False"
  | int n => toString n
  | float x => x.text
  | text s => quoted s
  | list items => "[" ++ commaList (shownItems items) ++ "]"
  | table entries => "\x7b" ++ commaList (shownEntries entries) ++ "\x7d"
  | moment m => m.shown

/-- The texts of the items of a list. -/
def shownItems : List Value → List String
  | [] => []
  | v :: rest => shown v :: shownItems rest

/-- The texts of the entries of a table. -/
def shownEntries : List (String × Value) → List String
  | [] => []
  | (k, v) :: rest => (quoted k ++ ": " ++ shown v) :: shownEntries rest

end

/-- The number of decimal digits up to which integers are written. -/
def digitLimit : Nat := 4300

mutual

/-- Whether every integer in a value is within the limit. -/
def hasText : Value → Bool
  | int n => (Nat.toDigits 10 n.natAbs).length ≤ digitLimit
  | list items => haveText items
  | table entries => entriesHaveText entries
  | _ => true

/-- Whether every integer in the items of a list is within the limit. -/
def haveText : List Value → Bool
  | [] => true
  | v :: rest => hasText v && haveText rest

/-- Whether every integer in the entries of a table is within the limit. -/
def entriesHaveText : List (String × Value) → Bool
  | [] => true
  | (_, v) :: rest => hasText v && entriesHaveText rest

end

/-- The text of a value inside a message. -/
def plain : Value → String
  | text s => s
  | moment m => m.plain
  | v => v.shown

end Value

end SignalLint
