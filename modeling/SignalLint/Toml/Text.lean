/-!
# Strings and keys of TOML

Strings stand between quotes, with escapes, or between apostrophes, as they are; with three of
either they may run over lines. All readers work on the characters that are left and give the rest.
-/

namespace SignalLint

namespace Toml

/-- What a reader makes of the characters that are left, with those behind it. -/
abbrev Reading (α : Type) := Option (α × List Char)

/-- Why a text is not read. -/
inductive Problem where
  | malformed
  /-- An integer of so many decimal digits, which are more than are read. -/
  | tooManyDigits (digits : Nat)
  deriving DecidableEq, Repr, Inhabited

/-- What nothing comes of is malformed. -/
instance : MonadLift Option (Except Problem) where
  monadLift
    | some a => .ok a
    | none => .error .malformed

/-- A blank inside a line. -/
def isSpace (c : Char) : Bool := c = ' ' || c = '\t'

/-- A blank or the end of a line. -/
def isSpaceOrBreak (c : Char) : Bool := isSpace c || c = '\n'

/-- Skips blanks. -/
def skipSpace (cs : List Char) : List Char := cs.dropWhile isSpace

/-- Whether a character may stand in a comment or in a string of one line. -/
def isPlain (c : Char) : Bool := c = '\t' || (0x20 ≤ c.toNat && c.toNat ≠ 0x7F)

/-- Whether a character may stand in a string; with `multi` the string may run over lines. -/
def isAllowed (multi : Bool) (c : Char) : Bool := isPlain c || (multi && c = '\n')

/-- Puts a character in front of a string. -/
def withChar (c : Char) : Reading (List Char) → Reading (List Char) :=
  Option.map fun (cs, rest) => (c :: cs, rest)

/-- Up to two more quotes behind a string of several lines belong to it. -/
def closing (quote : Char) (rest : List Char) : List Char × List Char :=
  match rest with
  | a :: b :: tail =>
    if a = quote then
      if b = quote then ([quote, quote], tail) else ([quote], b :: tail)
    else ([], rest)
  | [a] => if a = quote then ([quote], []) else ([], rest)
  | [] => ([], [])

/-! ### Strings with escapes -/

/-- What the characters before mean for the next one. -/
inductive EscapeState where
  | plain
  /-- Behind a backslash. -/
  | escaped
  /-- Inside the digits of a code point. -/
  | digits (missing : Nat) (value : Nat)
  /-- Behind a backslash and blanks that a line break must follow. -/
  | beforeBreak
  /-- Behind a backslash and a line break: all blanks that follow are left out. -/
  | afterBreak
  deriving DecidableEq, Repr, Inhabited

/-- The value of a hexadecimal digit. -/
def hexDigit? (c : Char) : Option Nat :=
  if c.isDigit then some (c.toNat - '0'.toNat)
  else if 'a' ≤ c ∧ c ≤ 'f' then some (c.toNat - 'a'.toNat + 10)
  else if 'A' ≤ c ∧ c ≤ 'F' then some (c.toNat - 'A'.toNat + 10)
  else none

/-- What a single letter behind a backslash means. -/
def escapeLetter? (c : Char) : Option Char :=
  match c with
  | 'b' => some '\x08'
  | 't' => some '\t'
  | 'n' => some '\n'
  | 'f' => some '\x0c'
  | 'r' => some '\r'
  | '"' => some '"'
  | '\\' => some '\\'
  | _ => none

/-- The character with a code point, unless there is none. -/
def charOfCode? (n : Nat) : Option Char := if n.isValidChar then some (Char.ofNat n) else none

/-- Reads a string with escapes whose opening quotes have been read. -/
def basicString (multi : Bool) (state : EscapeState) : List Char → Reading (List Char)
  | [] => none
  | c :: rest =>
    match state with
    | .escaped =>
      if c = 'u' then basicString multi (.digits 3 0) rest
      else if c = 'U' then basicString multi (.digits 7 0) rest
      else if multi && c = '\n' then basicString multi .afterBreak rest
      else if multi && isSpace c then basicString multi .beforeBreak rest
      else (escapeLetter? c).bind fun e => withChar e (basicString multi .plain rest)
    | .digits missing value =>
      (hexDigit? c).bind fun d =>
        match missing with
        | missing + 1 => basicString multi (.digits missing (value * 16 + d)) rest
        | 0 => (charOfCode? (value * 16 + d)).bind fun e =>
          withChar e (basicString multi .plain rest)
    | .beforeBreak =>
      if c = '\n' then basicString multi .afterBreak rest
      else if isSpace c then basicString multi .beforeBreak rest
      else none
    | .plain | .afterBreak =>
      if state = .afterBreak && isSpaceOrBreak c then basicString multi .afterBreak rest
      else if c = '\\' then basicString multi .escaped rest
      else if c = '"' then
        if multi then
          match rest with
          | '"' :: '"' :: tail => some (closing '"' tail)
          | _ => withChar c (basicString multi .plain rest)
        else some ([], rest)
      else if isAllowed multi c then withChar c (basicString multi .plain rest)
      else none

/-! ### Strings without escapes -/

/-- Reads a string without escapes whose opening apostrophes have been read. -/
def literalString (multi : Bool) : List Char → Reading (List Char)
  | [] => none
  | c :: rest =>
    if c = '\'' then
      if multi then
        match rest with
        | '\'' :: '\'' :: tail => some (closing '\'' tail)
        | _ => withChar c (literalString multi rest)
      else some ([], rest)
    else if isAllowed multi c then withChar c (literalString multi rest)
    else none

/-- A line break right behind the opening quotes does not count. -/
def skipFirstBreak (cs : List Char) : List Char :=
  match cs with
  | '\n' :: rest => rest
  | _ => cs

/-- A string as a text. -/
def asText : Reading (List Char) → Reading String :=
  Option.map fun (cs, rest) => (String.ofList cs, rest)

/-- A string of any kind. -/
def string? (cs : List Char) : Reading String :=
  match cs with
  | '"' :: '"' :: '"' :: rest => asText (basicString true .plain (skipFirstBreak rest))
  | '\'' :: '\'' :: '\'' :: rest => asText (literalString true (skipFirstBreak rest))
  | '"' :: rest => asText (basicString false .plain rest)
  | '\'' :: rest => asText (literalString false rest)
  | _ => none

/-! ### Keys -/

/-- Whether a character may stand in a key without quotes. -/
def isBareKey (c : Char) : Bool := c.isAlphanum || c = '_' || c = '-'

/-- One name of a key. -/
def keyName? (cs : List Char) : Reading String :=
  match cs with
  | '"' :: rest => asText (basicString false .plain rest)
  | '\'' :: rest => asText (literalString false rest)
  | _ =>
    match cs.takeWhile isBareKey with
    | [] => none
    | name => some (String.ofList name, cs.dropWhile isBareKey)

/-- The names behind the first one of a key, at most `count` of them. -/
def keyNames? : (count : Nat) → List Char → Option (List String × List Char)
  | 0, cs => some ([], cs)
  | count + 1, cs =>
    match cs with
    | '.' :: rest => do
      let (name, rest) ← keyName? (skipSpace rest)
      let (names, rest) ← keyNames? count (skipSpace rest)
      return (name :: names, rest)
    | _ => some ([], cs)

/-- A key: names with dots between them, blanks around the dots, and the blanks behind. -/
def key? (cs : List Char) : Option (List String × List Char) := do
  let (name, rest) ← keyName? cs
  let (names, rest) ← keyNames? cs.length (skipSpace rest)
  return (name :: names, rest)

end Toml

end SignalLint
