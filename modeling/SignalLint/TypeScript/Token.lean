import SignalLint.Text.Blank
import SignalLint.Text.Utf8
import SignalLint.Tree.Basic

/-!
# Tokens of TypeScript

A source is an array of characters with the place of each. Tokens are read where the parser asks
for them, so what a slash or a brace means is decided by the grammar and not by guessing. An angle
bracket is always a token of its own, because it may close type arguments; operators that start
with one are put together by `Source.operatorAt`.
-/

namespace SignalLint

namespace TypeScript

/-- Where a character stands: its byte offset, and its row and column from zero, the column in
bytes. -/
structure Place where
  byte : Nat
  row : Nat
  column : Nat
  deriving Repr, Inhabited

/-- A source text, with the place of each character and of the end. -/
structure Source where
  chars : Array Char
  places : Array Place
  deriving Repr, Inhabited

namespace Source

/-- The place behind a character. -/
def after (p : Place) (c : Char) : Place :=
  let width := c.utf8Size
  if c = '\n' then ⟨p.byte + width, p.row + 1, 0⟩ else ⟨p.byte + width, p.row, p.column + width⟩

/-- A text as a source. -/
def ofChars (cs : List Char) : Source :=
  let (places, last) := cs.foldl (fun (places, p) c => (places.push p, after p c)) (#[], ⟨0, 0, 0⟩)
  ⟨cs.toArray, places.push last⟩

/-- The number of characters. -/
def size (s : Source) : Nat := s.chars.size

/-- The character at an index; behind the end it is the null character. -/
def charAt (s : Source) (i : Nat) : Char := s.chars[i]?.getD '\x00'

/-- The place of an index. -/
def place (s : Source) (i : Nat) : Place := s.places[i]?.getD default

/-- The span between two indices. -/
def span (s : Source) (start stop : Nat) : Span :=
  let a := s.place start
  let b := s.place stop
  .ofRows a.byte b.byte a.row a.column b.row b.column

/-- The text between two indices. -/
def slice (s : Source) (start stop : Nat) : String :=
  String.ofList (s.chars.extract start stop).toList

/-- The first index from `i` on whose character does not satisfy `p`. -/
def skipWhile (s : Source) (p : Char → Bool) (i : Nat) : Nat :=
  if h : i < s.chars.size then
    if p s.chars[i] then s.skipWhile p (i + 1) else i
  else i
  termination_by s.chars.size - i

/-! ### White space and comments -/

/-- Whether a character ends a line. -/
def isBreak (c : Char) : Bool := c = '\n' || c = '\r' || c = '\u2028' || c = '\u2029'

/-- Whether a character is white space between tokens. -/
def isSpace (c : Char) : Bool :=
  isBlank c || c = '\uFEFF' || c = '\u200B' || c = '\u2060'

/-- The index behind the end of a block comment whose inside starts at `i`. -/
def skipBlock (s : Source) (i : Nat) : Nat :=
  if i < s.chars.size then
    if s.charAt i = '*' && s.charAt (i + 1) = '/' then i + 2 else s.skipBlock (i + 1)
  else s.chars.size
  termination_by s.chars.size - i

/-- Skips white space and comments, at most `count` pieces of them. -/
def skipPieces (s : Source) : (count : Nat) → Nat → Nat
  | 0, i => i
  | count + 1, i =>
    let j := s.skipWhile isSpace i
    if s.charAt j = '/' && s.charAt (j + 1) = '/' then
      s.skipPieces count (s.skipWhile (!isBreak ·) j)
    else if s.charAt j = '/' && s.charAt (j + 1) = '*' then s.skipPieces count (s.skipBlock (j + 2))
    else j

/-- Where the next token starts. -/
def skipTrivia (s : Source) (i : Nat) : Nat := s.skipPieces (s.size + 1 - i) i

/-- Whether a line ends between two indices. -/
def hasBreak (s : Source) (start stop : Nat) : Bool :=
  s.skipWhile (!isBreak ·) start < stop

/-! ### Tokens -/

/-- Whether a word can start with a character: every character that is not ASCII counts as a
letter. -/
def isWordStart (c : Char) : Bool :=
  c.isAlpha || c = '_' || c = '$' || c = '\\' || (0x7F < c.toNat && !isSpace c)

/-- Whether a word can go on with a character. -/
def isWordPart (c : Char) : Bool := isWordStart c || c.isDigit

/-- The end of a word, with escapes of the form `\u{…}`. -/
def wordEnd (s : Source) (i : Nat) : Nat :=
  let j := s.skipWhile isWordPart i
  if s.charAt j = '\x7b' && s.charAt (j - 1) = 'u' && s.charAt (j - 2) = '\\' && i + 2 ≤ j then
    s.skipWhile isWordPart (s.skipWhile (· ≠ '\x7d') j + 1)
  else j

/-- The index behind the quote that closes a string whose inside starts at `i`. -/
def stringEnd (s : Source) (quote : Char) (i : Nat) : Nat :=
  if i < s.chars.size then
    let c := s.charAt i
    if c = quote then i + 1
    else if c = '\\' then s.stringEnd quote (i + 2)
    else s.stringEnd quote (i + 1)
  else s.chars.size
  termination_by s.chars.size - i

/-- The end of a decimal exponent, if one starts at `i`. -/
def exponentEnd (s : Source) (i : Nat) : Nat :=
  if s.charAt i = 'e' || s.charAt i = 'E' then
    let j := if s.charAt (i + 1) = '+' || s.charAt (i + 1) = '-' then i + 2 else i + 1
    s.skipWhile (fun c => c.isDigit || c = '_') j
  else i

/-- The end of a number that starts at `i`. -/
def numberEnd (s : Source) (i : Nat) : Nat :=
  let digits := s.skipWhile fun c => c.isDigit || c = '_'
  let radix := (s.charAt (i + 1)).toLower
  if s.charAt i = '0' && (radix = 'x' || radix = 'o' || radix = 'b') then
    s.skipWhile (fun c => c.isAlphanum || c = '_') (i + 2)
  else
    let j := digits i
    let j := if s.charAt j = '.' then digits (j + 1) else j
    let j := s.exponentEnd j
    if s.charAt j = 'n' then j + 1 else j

/-- The index behind the slash that closes a regular expression whose inside starts at `i`. -/
def regexEnd (s : Source) (inClass : Bool) (i : Nat) : Nat :=
  if i < s.chars.size then
    let c := s.charAt i
    if c = '\\' then s.regexEnd inClass (i + 2)
    else if c = '[' then s.regexEnd true (i + 1)
    else if c = ']' then s.regexEnd false (i + 1)
    else if c = '/' && !inClass then i + 1
    else s.regexEnd inClass (i + 1)
  else s.chars.size
  termination_by s.chars.size - i

/-- The first index from `i` on at which the characters of a template end: at a back quote, at an
opening substitution, or at the end of the source. -/
def templatePieceEnd (s : Source) (i : Nat) : Nat :=
  if i < s.chars.size then
    let c := s.charAt i
    if c = '\x60' || (c = '$' && s.charAt (i + 1) = '\x7b') then i
    else if c = '\\' then s.templatePieceEnd (i + 2)
    else s.templatePieceEnd (i + 1)
  else s.chars.size
  termination_by s.chars.size - i

end Source

/-- What a token is. -/
inductive TokenKind where
  | word
  | privateName
  | number
  | string
  /-- The back quote that opens a template. -/
  | template
  | punctuation
  | done
  deriving DecidableEq, Repr, Inhabited

/-- A token, with the indices between which it stands and whether a line ended before it. -/
structure Token where
  kind : TokenKind
  text : String
  start : Nat
  stop : Nat
  afterBreak : Bool
  deriving Repr, Inhabited

/-- Punctuation of more than one character, longest first. -/
def longPunctuation : List String :=
  ["...", "===", "!==", "**=", "&&=", "||=", "??=", "=>", "==", "!=", "**", "++", "--", "+=", "-=",
    "*=", "/=", "%=", "&&", "||", "??", "?.", "&=", "|=", "^="]

namespace Source

/-- Whether a text stands at an index. -/
def startsWith (s : Source) (i : Nat) : List Char → Bool
  | [] => true
  | c :: rest => s.charAt i = c && s.startsWith (i + 1) rest

/-- The punctuation at an index. -/
def punctuationAt (s : Source) (i : Nat) : String :=
  match longPunctuation.find? fun p => s.startsWith i p.toList with
  | some "?." => if (s.charAt (i + 2)).isDigit then "?" else "?."
  | some p => p
  | none => (s.charAt i).toString

/-- The token that starts at `i`, the one before having ended at `previous`. -/
def tokenAt (s : Source) (previous i : Nat) : Token :=
  let afterBreak := s.hasBreak previous i
  let token (kind : TokenKind) (stop : Nat) : Token :=
    ⟨kind, s.slice i stop, i, stop, afterBreak⟩
  let c := s.charAt i
  if s.size ≤ i then ⟨.done, "", s.size, s.size, true⟩
  else if isWordStart c then token .word (s.wordEnd i)
  else if c = '#' then token .privateName (s.wordEnd (i + 1))
  else if c.isDigit || (c = '.' && (s.charAt (i + 1)).isDigit) then token .number (s.numberEnd i)
  else if c = '\'' || c = '"' then ⟨.string, "", i, s.stringEnd c (i + 1), afterBreak⟩
  else if c = '\x60' then ⟨.template, "", i, i + 1, afterBreak⟩
  else
    let p := s.punctuationAt i
    ⟨.punctuation, p, i, i + p.length, afterBreak⟩

/-- The next token after an index. -/
def next (s : Source) (i : Nat) : Token := s.tokenAt i (s.skipTrivia i)

/-- Operators that start with an angle bracket, longest first. -/
def angleOperators : List String := [">>>=", ">>>", ">>=", ">>", ">=", ">", "<<=", "<<", "<=", "<"]

/-- The operator that a token starts. -/
def operatorAt (s : Source) (t : Token) : String :=
  if t.text = "<" || t.text = ">" then
    (angleOperators.find? fun o => s.startsWith t.start o.toList).getD t.text
  else t.text

end Source

end TypeScript

end SignalLint
