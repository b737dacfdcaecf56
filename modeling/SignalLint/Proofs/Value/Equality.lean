import SignalLint.Value.Basic

/-!
# Equality of values

A value holds lists and tables of values, so whether two of them are equal is decided by going down
both. With it what the readers of settings make of a text can be computed and compared.
-/

namespace SignalLint

namespace Value

mutual

/-- Whether two values are made in the same way. -/
def beq : Value → Value → Bool
  | null, null => true
  | bool a, bool b => a = b
  | int m, int n => m = n
  | float x, float y => x = y
  | text s, text t => s = t
  | list xs, list ys => beqItems xs ys
  | table es, table fs => beqEntries es fs
  | moment m, moment n => m = n
  | _, _ => false
  termination_by structural v => v

/-- Whether two lists hold values that are made in the same way. -/
def beqItems : List Value → List Value → Bool
  | [], [] => true
  | x :: xs, y :: ys => beq x y && beqItems xs ys
  | _, _ => false
  termination_by structural xs => xs

/-- Whether two lists of entries hold the same keys, and values that are made in the same way. -/
def beqEntries : List (String × Value) → List (String × Value) → Bool
  | [], [] => true
  | (k, v) :: es, (l, w) :: fs => k = l && beq v w && beqEntries es fs
  | _, _ => false
  termination_by structural es => es

end

mutual

theorem eq_of_beq : ∀ {a b : Value}, beq a b = true → a = b
  | list xs, b, h => by
    cases b with
    | list ys => exact congrArg list (eq_of_beqItems (by simpa only [beq] using h))
    | _ => simp [beq] at h
  | table es, b, h => by
    cases b with
    | table fs => exact congrArg table (eq_of_beqEntries (by simpa only [beq] using h))
    | _ => simp [beq] at h
  | null, b, h | bool _, b, h | int _, b, h | float _, b, h | text _, b, h | moment _, b, h => by
    cases b <;> simp_all [beq]

theorem eq_of_beqItems : ∀ {xs ys : List Value}, beqItems xs ys = true → xs = ys
  | [], [], _ => rfl
  | x :: xs, y :: ys, h => by
    rw [beqItems, Bool.and_eq_true] at h
    rw [eq_of_beq h.1, eq_of_beqItems h.2]

theorem eq_of_beqEntries : ∀ {es fs : List (String × Value)}, beqEntries es fs = true → es = fs
  | [], [], _ => rfl
  | (k, v) :: es, (l, w) :: fs, h => by
    simp only [beqEntries, Bool.and_eq_true, decide_eq_true_eq] at h
    rw [h.1.1, eq_of_beq h.1.2, eq_of_beqEntries h.2]

end

mutual

theorem beq_self : ∀ v : Value, beq v v = true
  | list xs => by rw [beq, beqItems_self xs]
  | table es => by rw [beq, beqEntries_self es]
  | null | bool _ | int _ | float _ | text _ | moment _ => by simp [beq]

theorem beqItems_self : ∀ xs : List Value, beqItems xs xs = true
  | [] => rfl
  | x :: xs => by rw [beqItems, beq_self x, beqItems_self xs, Bool.and_self]

theorem beqEntries_self : ∀ es : List (String × Value), beqEntries es es = true
  | [] => rfl
  | (k, v) :: es => by simp [beqEntries, beq_self v, beqEntries_self es]

end

instance : DecidableEq Value := fun a b =>
  decidable_of_iff (a.beq b = true) ⟨eq_of_beq, fun h => h ▸ beq_self a⟩

end Value

end SignalLint
