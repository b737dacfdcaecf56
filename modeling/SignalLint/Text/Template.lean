import SignalLint.Text.Blank
import SignalLint.Value.Text

/-!
# Message templates

A template holds placeholders: a name between two opening and two closing braces, with white space
around it if one likes. `format` reads a template once from left to right and puts the text of a
value for every placeholder whose name it knows; what comes from a value is never read again, and
an unknown placeholder stays as it is.
-/

namespace SignalLint

namespace Template

/-- Whether a name can start with a character. -/
def isNameStart (c : Char) : Bool := c.isAlpha || c = '_'

/-- Whether a name can go on with a character. -/
def isNamePart (c : Char) : Bool := c.isAlphanum || c = '_'

/-- The name of the placeholder at the front, and what follows the placeholder. -/
def placeholder? (cs : List Char) : Option (String × List Char) :=
  match cs with
  | '\x7b' :: '\x7b' :: body =>
    match body.dropWhile isBlank with
    | c :: more =>
      if isNameStart c then
        let name := c :: more.takeWhile isNamePart
        match (more.dropWhile isNamePart).dropWhile isBlank with
        | '\x7d' :: '\x7d' :: rest => some (String.ofList name, rest)
        | _ => none
      else none
    | [] => none
  | _ => none

theorem length_dropWhile_le {α : Type} (p : α → Bool) (l : List α) :
    (l.dropWhile p).length ≤ l.length :=
  (List.dropWhile_suffix p).length_le

theorem length_lt_of_placeholder? {cs rest : List Char} {name : String}
    (h : placeholder? cs = some (name, rest)) : rest.length < cs.length := by
  unfold placeholder? at h
  split at h
  · rename_i body
    split at h
    · rename_i c more hb
      split at h
      · split at h
        · rename_i r hr
          simp only [Option.some.injEq, Prod.mk.injEq] at h
          obtain ⟨-, rfl⟩ := h
          have h1 := length_dropWhile_le isBlank body
          have h2 := length_dropWhile_le isNamePart more
          have h3 := length_dropWhile_le isBlank (more.dropWhile isNamePart)
          rw [hb] at h1
          rw [hr] at h3
          simp only [List.length_cons] at *
          omega
        · simp at h
      · simp at h
    · simp at h
  · simp at h

/-- The value of a name; of several entries the first. -/
def lookup? (data : List (String × Value)) (name : String) : Option Value :=
  (data.find? (·.1 = name)).map (·.2)

/-- A template with its known placeholders filled in. -/
def fill (data : List (String × Value)) (cs : List Char) : List Char :=
  match _h : placeholder? cs with
  | some (name, rest) =>
    match lookup? data name with
    | some v => v.plain.toList ++ fill data rest
    | none => cs.take (cs.length - rest.length) ++ fill data rest
  | none =>
    match cs with
    | [] => []
    | c :: rest => c :: fill data rest
  termination_by cs.length
  decreasing_by
    · exact length_lt_of_placeholder? _h
    · exact length_lt_of_placeholder? _h
    · simp

end Template

/-- The message of a template with the values of its placeholders. -/
def formatMessage (template : String) (data : List (String × Value)) : String :=
  String.ofList (Template.fill data template.toList)

end SignalLint
