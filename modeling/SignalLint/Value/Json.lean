import SignalLint.Value.Text

/-!
# Values as JSON

JSON texts of values, in ASCII only. `Value.json` writes a value on one line; `Value.jsonLines`
gives every item and every entry a line of its own, two blanks further in than its parent. Numbers
that JSON does not have are written as `NaN` and `Infinity`.
-/

namespace SignalLint

namespace Json

/-- The escape of a sixteen-bit unit. -/
def unitEscape (n : Nat) : List Char := '\\' :: 'u' :: Quoted.hex 4 n

/-- The escape of a code point: one unit, or two beyond the first 65536. -/
def codeEscape (n : Nat) : List Char :=
  if n < 0x10000 then unitEscape n
  else unitEscape (0xD800 + (n - 0x10000) / 0x400) ++ unitEscape (0xDC00 + (n - 0x10000) % 0x400)

/-- How one character stands in a text. -/
def escape (c : Char) : List Char :=
  if c = '"' ∨ c = '\\' then ['\\', c]
  else if c = '\n' then ['\\', 'n']
  else if c = '\r' then ['\\', 'r']
  else if c = '\t' then ['\\', 't']
  else if c = '\x08' then ['\\', 'b']
  else if c = '\x0c' then ['\\', 'f']
  else if ' ' ≤ c ∧ c ≤ '~' then [c]
  else codeEscape c.toNat

/-- A text between quotes. -/
def quote (s : String) : String := String.ofList ('"' :: s.toList.flatMap escape ++ ['"'])

/-- A number. -/
def floatText : Binary64 → String
  | .nan => "NaN"
  | .infinite negative => if negative then "-Infinity" else "Infinity"
  | x => x.text

/-- Parts between brackets, each on a line of its own; no parts at all stay on one line. -/
def block (indent : Nat) (opening closing : String) (parts : List String) : String :=
  if parts.isEmpty then opening ++ closing
  else
    let line (n : Nat) : String := "\n" ++ String.ofList (List.replicate n ' ')
    opening ++ line (indent + 2) ++ String.intercalate ("," ++ line (indent + 2)) parts ++
      line indent ++ closing

end Json

namespace Value

/-- The text of a value without parts. -/
def jsonAtom : Value → String
  | null => "null"
  | bool true => "true"
  | bool false => "false"
  | int n => toString n
  | float x => Json.floatText x
  | text s => Json.quote s
  | moment m => Json.quote m.plain
  | list _ => "[]"
  | table _ => "\x7b\x7d"

mutual

/-- A value on one line. -/
def json : Value → String
  | list items => "[" ++ commaList (jsonItems items) ++ "]"
  | table entries => "\x7b" ++ commaList (jsonEntries entries) ++ "\x7d"
  | v => v.jsonAtom

/-- The items of a list, each on one line. -/
def jsonItems : List Value → List String
  | [] => []
  | v :: rest => json v :: jsonItems rest

/-- The entries of a table, each on one line. -/
def jsonEntries : List (String × Value) → List String
  | [] => []
  | (k, v) :: rest => (Json.quote k ++ ": " ++ json v) :: jsonEntries rest

end

mutual

/-- A value on several lines, of which all but the first are indented. -/
def jsonLines (indent : Nat) : Value → String
  | list items => Json.block indent "[" "]" (linesOfItems (indent + 2) items)
  | table entries => Json.block indent "\x7b" "\x7d" (linesOfEntries (indent + 2) entries)
  | v => v.jsonAtom

/-- The items of a list, each on several lines. -/
def linesOfItems (indent : Nat) : List Value → List String
  | [] => []
  | v :: rest => jsonLines indent v :: linesOfItems indent rest

/-- The entries of a table, each on several lines. -/
def linesOfEntries (indent : Nat) : List (String × Value) → List String
  | [] => []
  | (k, v) :: rest =>
    (Json.quote k ++ ": " ++ jsonLines indent v) :: linesOfEntries indent rest

end

end Value

end SignalLint
