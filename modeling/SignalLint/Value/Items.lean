import SignalLint.Error

/-!
# Values with parts

Lists, texts and tables have parts that can be gone through: items, characters, and keys.
-/

namespace SignalLint

namespace Value

/-- The parts of a value: the items of a list, the characters of a text, the keys of a table. -/
def items : Value → Except Fault (List Value)
  | list vs => .ok vs
  | text s => .ok (s.toList.map fun c => text c.toString)
  | table entries => .ok (entries.map fun e => text e.1)
  | v => .error (.notIterable v.typeName)

/-- Whether a set can hold a value. -/
def isHashable : Value → Bool
  | list _ | table _ => false
  | _ => true

end Value

end SignalLint
