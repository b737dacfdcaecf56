import SignalLint.Text.Blank
import SignalLint.Text.LowerCase
import SignalLint.Text.Width

/-!
# Marked-up texts without colours

A console that draws in no colours shows a marked-up text by taking its tags out (`Markup.plain?`). A
tag starts with a lower-case letter, a number sign, a slash or an at sign; any other text between
brackets is no tag and stays. A backslash in front of a tag makes it text, two make one backslash. A
tag that starts with a slash closes the last open one, or the last of its name, in whichever case
that is written; one that closes nothing is an error. No style has a second name, and what stands
between colons is no picture.
-/

namespace SignalLint

/-- A closing tag that closes nothing. -/
structure StrayTag where
  /-- What stands between the brackets. -/
  body : String
  /-- Where the tag stands, in characters. -/
  position : Nat
  deriving DecidableEq, Repr, Inhabited

namespace Markup

/-- The name of a tag; what follows an equals sign is a parameter. -/
def tagName (body : List Char) : List Char := body.takeWhile (· ≠ '=')

/-- The name without the blanks around it. -/
def trimmed (name : List Char) : List Char :=
  ((name.dropWhile isBlank).reverse.dropWhile isBlank).reverse

end Markup

/-- The wording of a stray tag. -/
def StrayTag.message (t : StrayTag) : String :=
  if (Markup.trimmed ((Markup.tagName t.body.toList).drop 1)).isEmpty then
    s!"closing tag '[/]' at position {t.position} has nothing to close"
  else s!"closing tag '[{t.body}]' at position {t.position} doesn't match any open tag"

namespace Markup

/-- Whether a tag can start with a character. -/
def startsTag (c : Char) : Bool := ('a' ≤ c && c ≤ 'z') || c = '#' || c = '/' || c = '@'

/-- Whether a character can stand inside a tag. -/
def isInner (c : Char) : Bool := c ≠ ']' && c ≠ '['

/-- What stands between the brackets of a tag at the front of a text. -/
def readTag? : List Char → Option (List Char)
  | '[' :: c :: rest =>
    if startsTag c && (rest.dropWhile isInner).head? = some ']' then
      some (c :: rest.takeWhile isInner)
    else none
  | _ => none

/-- A part of a marked-up text. -/
inductive Piece where
  | text (cs : List Char)
  | tag (body : List Char) (position : Nat)
  deriving Repr, Inhabited

/-- The backslashes at the front of a text. -/
def escapes (cs : List Char) : Nat := (cs.takeWhile (· = '\\')).length

/-- The parts at the front of a text that starts at a position, and how many characters they
take. -/
def front (position : Nat) (cs : List Char) : List Piece × Nat :=
  let slashes := escapes cs
  match readTag? (cs.drop slashes) with
  | some body =>
    let tag : Piece :=
      if slashes % 2 = 1 then .text ('[' :: body ++ [']'])
      else .tag body (position + slashes)
    ([.text (List.replicate (slashes / 2) '\\'), tag], slashes + body.length + 2)
  | none =>
    match cs with
    | '\\' :: '[' :: _ => ([.text ['[']], 2)
    | _ => ([.text (cs.take 1)], 1)

/-- The parts of a text that starts at a position. -/
def pieces (position : Nat) : List Char → List Piece
  | [] => []
  | c :: rest =>
    let (parts, width) := front position (c :: rest)
    parts ++ pieces (position + width) (rest.drop (width - 1))
  termination_by cs => cs.length
  decreasing_by simp only [List.length_drop, List.length_cons]; omega

/-- The open tags, the last one first, without the last one that has a name. -/
def close? (name : List Char) : List (List Char) → Option (List (List Char))
  | [] => none
  | top :: rest => if top = name then some rest else (close? name rest).map (top :: ·)

/-- The name by which tags are matched. -/
def matchName (name : List Char) : List Char := (lowerCase (String.ofList (trimmed name))).toList

/-- The text of pieces behind open tags. -/
def joined (opened : List (List Char)) : List Piece → Except StrayTag (List Char)
  | [] => .ok []
  | .text cs :: rest => (joined opened rest).map (cs ++ ·)
  | .tag body position :: rest =>
    match tagName body with
    | '/' :: name =>
      let remaining? :=
        if (trimmed name).isEmpty then opened.tail? else close? (matchName name) opened
      match remaining? with
      | some remaining => joined remaining rest
      | none => .error ⟨String.ofList body, position⟩
    | name => joined (matchName name :: opened) rest

/-- Whether a character moves the cursor or rings; terminals are not sent any. -/
def isControl (c : Char) : Bool := c.toNat ∈ [7, 8, 11, 12, 13]

/-- A text without its tags. -/
def plain? (s : String) : Except StrayTag String :=
  (joined [] (pieces 0 s.toList)).map fun cs => String.ofList (cs.filter (!isControl ·))

/-- Tabs as blanks, up to the next column that is a multiple of eight; at least one each. -/
def expandTabs (column : Nat) : List Char → List Char
  | [] => []
  | '\t' :: rest =>
    let next := (column / 8 + 1) * 8
    List.replicate (next - column) ' ' ++ expandTabs next rest
  | c :: rest => c :: expandTabs (if c = '\n' then 0 else column + Width.ofChar c) rest

/-- A text as it is shown, its tags taken out and its tabs filled up. -/
def shown? (s : String) : Except StrayTag String :=
  (plain? s).map fun s => String.ofList (expandTabs 0 s.toList)

end Markup

end SignalLint
