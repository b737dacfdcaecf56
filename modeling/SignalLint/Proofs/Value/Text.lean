import Mathlib.Algebra.Group.Int.Defs
import Mathlib.Data.List.Basic
import SignalLint.Error

/-!
# Values that cannot be told

A value that does not fit is refused by an error that tells it. That cannot be done for every value:
an integer has a text only up to a number of digits, and so has whatever holds it. `Value.HoldsLong`
says which values those are, wherever in them the integer stands. `Failure.eq_misfit_iff` says what
becomes of a refusal.
-/

namespace SignalLint

namespace Value

/-- **A value holds a long integer**, one of more than 4300 digits. -/
inductive HoldsLong : Value → Prop where
  | int {n : Int} (h : 4300 < (Nat.toDigits 10 n.natAbs).length) : HoldsLong (.int n)
  | item {items : List Value} {v : Value} (hv : v ∈ items) (h : HoldsLong v) :
      HoldsLong (.list items)
  | entry {entries : List (String × Value)} {key : String} {v : Value} (hv : (key, v) ∈ entries)
      (h : HoldsLong v) : HoldsLong (.table entries)

/-- A power of ten has one digit more than its exponent says. -/
theorem HoldsLong.power {k : Nat} (h : 4300 ≤ k) : HoldsLong (.int (10 ^ k)) := by
  -- a number of at most `m` digits is below the power of ten with exponent `m`
  have hdigits : ∀ {m : Nat}, 0 < m → m ≤ k → m < (Nat.toDigits 10 (10 ^ k)).length := by
    intro m hm hk
    rw [← Nat.not_le, Nat.length_toDigits_le_iff (by decide) hm, Nat.not_lt]
    exact Nat.pow_le_pow_right (by decide) hk
  refine .int ?_
  rw [Int.natAbs_pow]
  exact hdigits (by decide) h

mutual

/-- A value has no text exactly if it holds a long integer. -/
theorem hasText_eq_false_iff : (v : Value) → (v.hasText = false ↔ v.HoldsLong)
  | .int n => by
    rw [hasText, decide_eq_false_iff_not, Nat.not_le, digitLimit]
    exact ⟨.int, fun | .int h => h⟩
  | .list items => by
    rw [hasText, haveText_eq_false_iff items]
    exact ⟨fun ⟨_, hv, h⟩ => .item hv h, fun | .item hv h => ⟨_, hv, h⟩⟩
  | .table entries => by
    rw [hasText, entriesHaveText_eq_false_iff entries]
    exact ⟨fun ⟨_, hv, h⟩ => .entry hv h, fun | .entry hv h => ⟨_, hv, h⟩⟩
  | .null | .bool _ | .float _ | .text _ | .moment _ => iff_of_false nofun nofun

theorem haveText_eq_false_iff :
    (items : List Value) → (haveText items = false ↔ ∃ v ∈ items, v.HoldsLong)
  | [] => iff_of_false nofun nofun
  | v :: rest => by
    rw [haveText, Bool.and_eq_false_iff, hasText_eq_false_iff v, haveText_eq_false_iff rest,
      List.exists_mem_cons_iff]

theorem entriesHaveText_eq_false_iff :
    (entries : List (String × Value)) →
      (entriesHaveText entries = false ↔ ∃ x ∈ entries, x.2.HoldsLong)
  | [] => iff_of_false nofun nofun
  | (_, v) :: rest => by
    rw [entriesHaveText, Bool.and_eq_false_iff, hasText_eq_false_iff v,
      entriesHaveText_eq_false_iff rest, List.exists_mem_cons_iff]

end

end Value

namespace Failure

variable {key reason : String} {v : Value}

/-- **What becomes of a value that does not fit**: it is told, unless it cannot be. -/
theorem eq_misfit_iff {e : Failure} :
    e = misfit key v reason ↔
      ¬ v.HoldsLong ∧ e = .error (.invalidSetting key v reason) ∨
        v.HoldsLong ∧ e = .fault (.tooManyDigits none) := by
  rw [misfit, ← Value.hasText_eq_false_iff]
  cases v.hasText <;> simp

theorem misfit_eq_error_iff {e : LintError} :
    misfit key v reason = .error e ↔ ¬ v.HoldsLong ∧ e = .invalidSetting key v reason := by
  rw [eq_comm, eq_misfit_iff]
  simp

theorem misfit_eq_fault_iff {f : Fault} :
    misfit key v reason = .fault f ↔ v.HoldsLong ∧ f = .tooManyDigits none := by
  rw [eq_comm, eq_misfit_iff]
  simp

end Failure

end SignalLint
