import SignalLint.Lint.Source
import SignalLint.TypeScript.Statement

/-!
# The grammar as a whole

The parsers refer back to each other: types hold types, expressions hold statements. `grammar n`
reads sources in which such references are nested at most `n` deep; each of them reads a character
first, so the length of the source is always enough.
-/

namespace SignalLint

namespace TypeScript

open Parse

/-- The grammar for constructs nested at most so deep. -/
def grammar : (depth : Nat) → Grammar
  | 0 => ⟨fail, fail, fail, fail⟩
  | depth + 1 =>
    let g := grammar depth
    ⟨g.anyType, g.anyExpression, g.anyStatement, g.anyConstruction⟩

/-- A line in front of the source that names an interpreter. -/
def skipInterpreter : Parse Unit := do
  let s ← source
  if s.startsWith 0 ['#', '!'] then goTo (s.skipWhile (!Source.isBreak ·) 0)

/-- A whole source. What is no statement is skipped token by token. -/
def program (g : Grammar) : Parse Tree := do
  skipInterpreter
  let start ← start
  let ss ← many do
    let t ← peek
    guard (t.kind ≠ .done)
    g.statement <|> do
      goTo t.stop
      leaf "ERROR" t
  node "program" start ss

/-- Whether a tree holds a node of what could not be read. -/
def hasErrors (t : Tree) : Bool := t.walk.any (·.tree.kind == "ERROR")

/-- The tree of a source. -/
def parseSource (source : Bytes) : Option ParsedSource :=
  let s := Source.ofChars (Utf8.decodeLossyChars source)
  match program (grammar (s.size + 2)) ⟨s, true, false⟩ 0 with
  | some (tree, _) => some ⟨tree, hasErrors tree⟩
  | none => none

/-- The parser of TypeScript sources, plain or with markup. -/
def parser : Parser where
  languages := ["typescript", "tsx"]
  parse := fun _ source => parseSource source

end TypeScript

end SignalLint
