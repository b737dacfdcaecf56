/-!
# Patterns for names

A pattern is a text in which an asterisk stands for any characters, a question mark for one, and
brackets for one of the characters between them. `Glob.parse` reads a pattern into its parts and
`Glob.admits` says whether a whole name fits; the slash is a character like any other.

Between brackets a hyphen joins two characters to a range, an exclamation mark in front turns the
set around, and a closing bracket in front is a character of the set. A range that runs backwards
holds nothing: it is taken out before anything else is read, and if an exclamation mark comes to
stand in front by this, it turns the set around, too. A bracket that is never closed stands for
itself.
-/

namespace SignalLint

namespace Glob

/-- A part of a pattern. -/
inductive Part where
  | anyText
  | anyChar
  | char (c : Char)
  /-- One of the characters in the ranges, or one of the others. -/
  | set (negated : Bool) (ranges : List (Char × Char))
  deriving DecidableEq, Repr, Inhabited

/-- The stretches that hyphens join. The first has so many characters at least, and each of the others
two, so that a hyphen in front or at the end, or next behind a range, is a character of a stretch. -/
def stretches (least : Nat) (cs : List Char) : List (List Char) :=
  match _h : (cs.drop least).dropWhile (· ≠ '-') with
  | _ :: d :: rest =>
    (cs.take least ++ (cs.drop least).takeWhile (· ≠ '-')) :: stretches 2 (d :: rest)
  | _ => [cs]
  termination_by cs.length
  decreasing_by
    have h1 := (List.dropWhile_suffix (l := cs.drop least) (fun c => decide (c ≠ '-'))).length_le
    have h2 := (List.drop_suffix least cs).length_le
    rw [_h] at h1
    simp only [List.length_cons] at *
    omega

/-- Takes out the ranges that run backwards, from the last to the first. -/
def forwardStretches : List (List Char) → List (List Char)
  | [] => []
  | first :: rest =>
    match forwardStretches rest with
    | [] => [first]
    | next :: more =>
      match first.getLast?, next with
      | some low, high :: behind =>
        if high < low then (first.dropLast ++ behind) :: more else first :: next :: more
      | _, _ => first :: next :: more

/-- The ranges that stretches write, a single character as a range of one. -/
def ranges : List (List Char) → List (Char × Char)
  | [] => []
  | [last] => last.map fun c => (c, c)
  | first :: next :: more =>
    match first.getLast?, next with
    | some low, high :: behind =>
      first.dropLast.map (fun c => (c, c)) ++ (low, high) :: ranges (behind :: more)
    | _, _ => first.map (fun c => (c, c)) ++ ('-', '-') :: ranges (next :: more)
  termination_by cs => cs.length

/-- The set that the characters between brackets write. -/
def setOf (body : List Char) : Part :=
  match forwardStretches (stretches (if body.head? = some '!' then 2 else 1) body) with
  | ('!' :: first) :: more => .set true (ranges (first :: more))
  | kept => .set false (ranges kept)

/-- A character at the front that is taken if it is there, and the rest. -/
def leading (c : Char) (cs : List Char) : List Char × List Char :=
  match cs with
  | d :: rest => if d = c then ([c], rest) else ([], cs)
  | [] => ([], [])

/-- The characters up to the closing bracket, and what is behind it. -/
def setBody? (cs : List Char) : Option (List Char × List Char) :=
  let mark := leading '!' cs
  let bracket := leading ']' mark.2
  match bracket.2.dropWhile (· ≠ ']') with
  | [] => none
  | _ :: rest => some (mark.1 ++ bracket.1 ++ bracket.2.takeWhile (· ≠ ']'), rest)

theorem length_leading (c : Char) (cs : List Char) : (leading c cs).2.length ≤ cs.length := by
  unfold leading
  split
  · split <;> simp
  · simp

/-- What is behind the closing bracket is shorter than what is behind the opening one. -/
theorem length_lt_of_setBody? {cs body rest : List Char} (h : setBody? cs = some (body, rest)) :
    rest.length < cs.length := by
  simp only [setBody?] at h
  have h1 := length_leading '!' cs
  have h2 := length_leading ']' (leading '!' cs).2
  have h3 := (List.dropWhile_suffix (l := (leading ']' (leading '!' cs).2).2)
    (fun c => decide (c ≠ ']'))).length_le
  split at h
  · simp at h
  · rename_i hd
    simp only [Option.some.injEq, Prod.mk.injEq] at h
    obtain ⟨-, rfl⟩ := h
    rw [hd, List.length_cons] at h3
    omega

/-- The parts of a pattern. -/
def parse : List Char → List Part
  | [] => []
  | c :: rest =>
    if c = '*' then .anyText :: parse rest
    else if c = '?' then .anyChar :: parse rest
    else if c = '[' then
      match _h : setBody? rest with
      | some (body, behind) => setOf body :: parse behind
      | none => .char '[' :: parse rest
    else .char c :: parse rest
  termination_by cs => cs.length
  decreasing_by
    · simp
    · simp
    · exact Nat.lt_succ_of_lt (length_lt_of_setBody? _h)
    · simp
    · simp

/-- Whether a part stands for a character. -/
def Part.holds : Part → Char → Bool
  | anyText, _ => true
  | anyChar, _ => true
  | char c, d => c = d
  | set negated pairs, d => negated != pairs.any fun (low, high) => low ≤ d && d ≤ high

/-- Whether the parts stand for a whole name. -/
def fits : List Part → List Char → Bool
  | [], cs => cs.isEmpty
  | .anyText :: parts, [] => fits parts []
  | .anyText :: parts, c :: cs => fits parts (c :: cs) || fits (.anyText :: parts) cs
  | _ :: _, [] => false
  | part :: parts, c :: cs => part.holds c && fits parts cs
  termination_by parts cs => parts.length + cs.length

/-- Whether a pattern stands for a whole name. -/
def admits (pattern name : String) : Bool := fits (parse pattern.toList) name.toList

end Glob

end SignalLint
