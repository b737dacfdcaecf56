/-!
# Powers of integers
-/

namespace SignalLint

/-- `base ^ exponent`; a negative exponent counts as zero. -/
def power (base : Nat) (exponent : Int) : Nat := Nat.pow base exponent.toNat

end SignalLint
