import SignalLint.TypeScript.Token

/-!
# Parsers over a source

A parser reads tokens from an index on and gives what it read and the index behind it, or nothing.
It may look ahead and try alternatives as it likes. Loops are bounded by the characters that are
left, and the grammar as a whole by nesting (`Grammar`), so every parser ends.
-/

namespace SignalLint

namespace TypeScript

/-- What a parser knows about where it is. -/
structure Setting where
  source : Source
  /-- Whether `in` is an operator here; it is not in the head of a loop. -/
  allowIn : Bool := true
  /-- Whether this is the first branch of a conditional, where a colon ends the branch. -/
  inBranch : Bool := false
  deriving Inhabited

/-- A parser. -/
def Parse (α : Type) : Type := Setting → Nat → Option (α × Nat)

namespace Parse

variable {α β : Type}

instance : Monad Parse where
  pure a := fun _ i => some (a, i)
  bind p f := fun env i =>
    match p env i with
    | some (a, j) => f a env j
    | none => none

/-- Reads nothing that would do. -/
def fail : Parse α := fun _ _ => none

/-- The first parser, or where it fails the second. -/
def orElse (p : Parse α) (q : Unit → Parse α) : Parse α := fun env i =>
  match p env i with
  | some r => some r
  | none => q () env i

instance : OrElse (Parse α) := ⟨orElse⟩

instance : Inhabited (Parse α) := ⟨fail⟩

/-- What the parser reads, if it can. -/
def attempt (p : Parse α) : Parse (Option α) := fun env i =>
  match p env i with
  | some (a, j) => some (some a, j)
  | none => some (none, i)

/-- Whether the parser would succeed; reads nothing. -/
def succeeds (p : Parse α) : Parse Bool := fun env i => some ((p env i).isSome, i)

/-- Fails unless a condition holds. -/
def guard (b : Bool) : Parse Unit := if b then pure () else fail

/-- The source. -/
def source : Parse Source := fun env i => some (env.source, i)

/-- What is known about the place. -/
def setting : Parse Setting := fun env i => some (env, i)

/-- The index behind the last token. -/
def here : Parse Nat := fun _ i => some (i, i)

/-- Goes to an index. -/
def goTo (i : Nat) : Parse Unit := fun _ _ => some ((), i)

/-- Runs a parser under another setting. -/
def under (f : Setting → Setting) (p : Parse α) : Parse α := fun env i => p (f env) i

/-- Runs a parser inside brackets, where nothing from outside matters. -/
def inside (p : Parse α) : Parse α :=
  p.under fun env => { env with allowIn := true, inBranch := false }

/-! ### Tokens -/

/-- The next token, not yet read. -/
def peek : Parse Token := fun env i => some (env.source.next i, i)

/-- Reads the next token. -/
def token : Parse Token := fun env i =>
  let t := env.source.next i
  some (t, t.stop)

/-- The index at which the next token starts. -/
def start : Parse Nat := fun env i => some (env.source.skipTrivia i, i)

/-- Reads a token of a kind. -/
def tokenOf (kind : TokenKind) : Parse Token := do
  let t ← token
  guard (t.kind = kind)
  return t

/-- Whether a token is this punctuation. -/
def isPunct (t : Token) (text : String) : Bool := t.kind = .punctuation && t.text = text

/-- Whether a token is this word. -/
def isWord (t : Token) (text : String) : Bool := t.kind = .word && t.text = text

/-- Reads this punctuation. -/
def punct (text : String) : Parse Token := do
  let t ← token
  guard (isPunct t text)
  return t

/-- Reads this punctuation if it is next. -/
def punct? (text : String) : Parse Bool := do
  let t ← peek
  if isPunct t text then
    goTo t.stop
    return true
  else return false

/-- Reads this word. -/
def word (text : String) : Parse Token := do
  let t ← token
  guard (isWord t text)
  return t

/-- Reads this word if it is next. -/
def word? (text : String) : Parse Bool := do
  let t ← peek
  if isWord t text then
    goTo t.stop
    return true
  else return false

/-! ### Repetition -/

/-- Runs a parser until it fails or stands still, at most `count` times. -/
def repeated (p : Parse α) : (count : Nat) → Parse (List α)
  | 0 => pure []
  | count + 1 => fun env i =>
    match p env i with
    | none => some ([], i)
    | some (a, j) =>
      if j ≤ i then some ([a], j)
      else
        match repeated p count env j with
        | some (as, k) => some (a :: as, k)
        | none => some ([a], j)

/-- Runs a parser as often as it succeeds. -/
def many (p : Parse α) : Parse (List α) := fun env i =>
  repeated p (env.source.size + 1 - i) env i

/-- Extends a result step by step until a step fails, at most `count` times. -/
def extended (step : α → Parse α) : (count : Nat) → α → Parse α
  | 0, a => pure a
  | count + 1, a => fun env i =>
    match step a env i with
    | some (b, j) => extended step count b env j
    | none => some (a, i)

/-- Extends a result as long as a step succeeds. -/
def extend (step : α → Parse α) (a : α) : Parse α := fun env i =>
  extended step (env.source.size + 1 - i) a env i

/-- Items with separators between them, up to a closing token; a separator may stand last, and
items may be left out. -/
def separated (p : Parse α) (separator : Parse Bool) (close : String) : Parse (List α) := do
  let piece : Parse (List α) := do
    let t ← peek
    guard (!isPunct t close && t.kind ≠ .done)
    if ← separator then return []
    let a ← p
    let t ← peek
    if isPunct t close then return [a]
    guard (← separator)
    return [a]
  let pieces ← many piece
  let _ ← punct close
  return pieces.flatten

/-- Items with commas between them, up to a closing token. -/
def commaSeparated (p : Parse α) (close : String) : Parse (List α) :=
  separated p (punct? ",") close

/-- One or more items with commas between them. -/
def commaList (p : Parse α) : Parse (List α) := do
  let first ← p
  let more ← many do
    let _ ← punct ","
    p
  return first :: more

/-! ### Nodes -/

/-- A node of the tree that starts at an index and ends behind the last token. -/
def node (kind : String) (start : Nat) (children : List Tree) : Parse Tree := fun env i =>
  some (.node kind true (env.source.span start i) none children, i)

/-- A node for one token. -/
def leaf (kind : String) (t : Token) : Parse Tree := fun env i =>
  some (.node kind true (env.source.span t.start t.stop) none [], i)

/-- A bare token. -/
def bare (t : Token) : Parse Tree := fun env i =>
  some (.node t.text false (env.source.span t.start t.stop) none [], i)

end Parse

/-- A node as its parent holds it under a field. -/
def held (field : String) : Tree → Tree
  | .node kind named span _ children => .node kind named span (some field) children

/-- The parsers that the grammar refers back to. -/
structure Grammar where
  type : Parse Tree
  /-- An expression without commas. -/
  expression : Parse Tree
  statement : Parse Tree
  /-- An expression that starts with `new`. -/
  construction : Parse Tree

end TypeScript

end SignalLint
