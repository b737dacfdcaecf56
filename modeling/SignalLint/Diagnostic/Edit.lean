import SignalLint.Diagnostic.Basic

/-!
# Applying suggestions

`applySuggestions` makes the first suggested edit of every diagnostic. Equal edits are made once.
Edits are made from right to left, so that the offsets of those still to come stay valid; of two
edits at one offset the one with the later text is made first and so ends up behind the other.
-/

namespace SignalLint

namespace TextEdit

/-- Edits are ordered by offset, then by text. -/
def before (a b : TextEdit) : Bool :=
  a.offset < b.offset || (a.offset = b.offset && a.text < b.text)

/-- Whether an edit may stand in front of another in ascending order. -/
def atMost (a b : TextEdit) : Bool := !b.before a

end TextEdit

/-- The first edit of each diagnostic, each distinct one once. -/
def firstEdits (diagnostics : List Diagnostic) : List TextEdit :=
  (diagnostics.filterMap fun d => d.suggestions.head?.map (·.edit)).eraseDups

/-- Where an offset points to in a buffer of a given length: a negative one counts from the end, and
one outside the buffer is moved to its nearer end. -/
def clampOffset (length : Nat) (offset : Int) : Nat :=
  if offset < 0 then (offset + length).toNat else min offset.toNat length

/-- A buffer with an edit made. -/
def TextEdit.apply (e : TextEdit) (buffer : Bytes) : Bytes :=
  let place := clampOffset buffer.length e.offset
  buffer.take place ++ Utf8.encode e.text ++ buffer.drop place

/-- The source with the first suggestion of every diagnostic applied, and the number of edits. -/
def applySuggestions (source : Bytes) (diagnostics : List Diagnostic) : Bytes × Nat :=
  let edits := firstEdits diagnostics
  let descending := (edits.mergeSort TextEdit.atMost).reverse
  (descending.foldl (fun buffer e => e.apply buffer) source, edits.length)

end SignalLint
