import SignalLint.Toml.Document
import SignalLint.Toml.Scalar

/-!
# Reading TOML

`Toml.read` reads a configuration text line by line and runs the statement of each line as soon as it
is read, so of several problems it is the first that is told. A text that is not a document in the
language, or whose statements contradict each other, is malformed. How deep values may be nested is
not limited.
-/

namespace SignalLint

namespace Toml

/-- Skips a comment, if one comes next. -/
def skipComment? (cs : List Char) : Option (List Char) :=
  match cs with
  | '#' :: rest =>
    if (rest.takeWhile (· ≠ '\n')).all isPlain then some (rest.dropWhile (· ≠ '\n')) else none
  | _ => some cs

/-- Skips blanks, line breaks and comments, at most `count` pieces of them. -/
def skipFiller? : (count : Nat) → List Char → Option (List Char)
  | 0, cs => some cs
  | count + 1, cs =>
    match cs.dropWhile isSpaceOrBreak with
    | '#' :: rest => (skipComment? ('#' :: rest)).bind (skipFiller? count)
    | rest => some rest

mutual

/-- A value; values are nested and repeated at most so often. -/
def valueWithin : (fuel : Nat) → List Char → Except Problem (Value × List Char)
  | 0, _ => .error .malformed
  | fuel + 1, cs =>
    match cs with
    | '"' :: _ | '\'' :: _ => do
      let (s, rest) ← string? cs
      return (.text s, rest)
    | 't' :: 'r' :: 'u' :: 'e' :: rest => .ok (.bool true, rest)
    | 'f' :: 'a' :: 'l' :: 's' :: 'e' :: rest => .ok (.bool false, rest)
    | '[' :: rest => do
      let (vs, rest) ← itemsWithin fuel (← skipFiller? rest.length rest)
      return (.list vs, rest)
    | '\x7b' :: rest =>
      match skipSpace rest with
      | '\x7d' :: rest => .ok (.table [], rest)
      | rest => do
        let (es, rest) ← assignmentsWithin fuel [] rest
        return (.table (entryValues es), rest)
    | _ =>
      match moment? cs with
      | some (v, rest) => do return (← v, rest)
      | none =>
        match radixNumber? cs <|> specialNumber? cs with
        | some (v, rest) => .ok (v, rest)
        | none => decimalNumber cs

/-- Values with commas between them and a bracket behind them. -/
def itemsWithin : (fuel : Nat) → List Char → Except Problem (List Value × List Char)
  | 0, _ => .error .malformed
  | fuel + 1, cs =>
    match cs with
    | ']' :: rest => .ok ([], rest)
    | _ => do
      let (v, rest) ← valueWithin fuel cs
      match ← skipFiller? rest.length rest with
      | ']' :: rest => return ([v], rest)
      | ',' :: rest =>
        let (vs, rest) ← itemsWithin fuel (← skipFiller? rest.length rest)
        return (v :: vs, rest)
      | _ => throw .malformed

/-- Assignments with commas between them and a brace behind them, all on one line. They are made in
the table that those in front of them have made. -/
def assignmentsWithin : (fuel : Nat) → Entries → List Char → Except Problem (Entries × List Char)
  | 0, _, _ => .error .malformed
  | fuel + 1, es, cs => do
    let (path, rest) ← key? cs
    let (v, rest) ← valueWithin fuel (skipSpace (← expect? '=' rest))
    let es ← es.assign 0 v path
    match skipSpace rest with
    | '\x7d' :: rest => return (es, rest)
    | ',' :: rest => assignmentsWithin fuel es (skipSpace rest)
    | _ => throw .malformed

end

/-- A value. -/
def value (cs : List Char) : Except Problem (Value × List Char) :=
  valueWithin (2 * cs.length + 2) cs

/-- A statement that does not start with a blank. -/
def statement (cs : List Char) : Except Problem (Statement × List Char) :=
  match cs with
  | '[' :: '[' :: rest => do
    let (path, rest) ← key? (skipSpace rest)
    return (.appendTable path, ← expect? ']' (← expect? ']' rest))
  | '[' :: rest => do
    let (path, rest) ← key? (skipSpace rest)
    return (.openTable path, ← expect? ']' rest)
  | _ => do
    let (path, rest) ← key? cs
    let (v, rest) ← value (skipSpace (← expect? '=' rest))
    return (.assign path v, rest)

/-- The document with the statement of a line, if it has one, and what is behind it. -/
def runLine (d : Document) (cs : List Char) : Except Problem (Document × List Char) :=
  match cs with
  | [] => .ok (d, [])
  | c :: _ =>
    if c = '\n' || c = '#' then .ok (d, cs)
    else do
      let (s, rest) ← statement cs
      return (← d.run s, rest)

/-- The document with the statements of a text of at most so many lines. -/
def runLines : (lines : Nat) → Document → List Char → Except Problem Document
  | 0, d, _ => .ok d
  | lines + 1, d, cs => do
    let (d, rest) ← runLine d (skipSpace cs)
    match ← skipComment? (skipSpace rest) with
    | [] => return d
    | '\n' :: rest => runLines lines d rest
    | _ => throw .malformed

/-- A carriage return in front of a line feed does not count. -/
def joinBreaks : List Char → List Char
  | [] => []
  | [c] => [c]
  | c :: d :: rest =>
    if c = '\r' ∧ d = '\n' then '\n' :: joinBreaks rest else c :: joinBreaks (d :: rest)

/-- The keys and values of a configuration text. -/
def read (text : String) : Except Problem (List (String × Value)) :=
  let cs := joinBreaks text.toList
  (runLines (cs.length + 1) {} cs).map (·.toEntries)

/-- What is said of a text that is malformed. -/
def refusal : String := "not a TOML document"

end Toml

end SignalLint
