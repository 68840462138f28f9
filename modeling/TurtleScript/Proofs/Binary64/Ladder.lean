import Mathlib.Order.Monotone.Basic
import TurtleScript.Binary64.Rounding

/-!
# The ladder of magnitudes

Every rung lies in a run of equally high steps: `k` runs of doubled steps below it, and `t` steps
from there (`exists_run`). Such a rung is `t * 2 ^ k` units high, and so is the rung at the end of
the run, where the steps of the next run begin (`unitsAt_run`). So the ladder rises
(`strictMono_unitsAt`).
-/

namespace TurtleScript

namespace Binary64

/-! ## Runs -/

theorem runLength_eq : runLength = 4503599627370496 := rfl

/-- A rung by its run and its step. The last step of a run is the first of the next one. -/
theorem unitsAt_run {k t : Nat} (hlow : runLength ≤ t ∨ k = 0) (hhigh : t ≤ 2 * runLength) :
    unitsAt (k * runLength + t) = t * 2 ^ k := by
  have hR := runLength_eq
  by_cases hend : t = 2 * runLength
  · -- Here the formula has gone over to the next run already.
    have hquotient : (k * runLength + t) / runLength = k + 2 := by
      rw [hR]
      omega
    have hdoublings : doublings (k * runLength + t) = k + 1 := by
      rw [doublings, hquotient]
      rfl
    have hleft : k * runLength + t - (k + 1) * runLength = runLength := by
      rw [Nat.add_mul]
      omega
    rw [unitsAt, hdoublings, hleft, hend, Nat.pow_succ, Nat.mul_comm (2 ^ k) 2, ← Nat.mul_assoc,
      Nat.mul_comm runLength 2]
  · have hdoublings : doublings (k * runLength + t) = k := by
      rcases hlow with hlow | rfl
      · have hquotient : (k * runLength + t) / runLength = k + 1 := by
          rw [hR]
          omega
        rw [doublings, hquotient]
        rfl
      · have hquotient : (0 * runLength + t) / runLength ≤ 1 := by
          rw [hR]
          omega
        rw [doublings]
        omega
    rw [unitsAt, hdoublings, Nat.add_sub_cancel_left]

theorem exists_run (rung : Nat) : ∃ k t, rung = k * runLength + t ∧
    (runLength ≤ t ∨ k = 0) ∧ t < 2 * runLength := by
  have hR : 0 < runLength := by decide
  have hdiv := Nat.div_add_mod rung runLength
  have hmod := Nat.mod_lt rung hR
  rw [Nat.mul_comm] at hdiv
  cases hq : rung / runLength with
  | zero =>
    rw [hq] at hdiv
    exact ⟨0, rung, by omega, Or.inr rfl, by omega⟩
  | succ k =>
    rw [hq, Nat.add_mul, Nat.one_mul] at hdiv
    exact ⟨k, runLength + rung % runLength, by omega, Or.inl (by omega), by omega⟩

/-- Even the rung behind the end of a run is as high as steps of this run make it, or higher. -/
theorem succ_mul_le_unitsAt {k t : Nat} (hlow : runLength ≤ t ∨ k = 0)
    (hhigh : t ≤ 2 * runLength) : (t + 1) * 2 ^ k ≤ unitsAt (k * runLength + t + 1) := by
  have hR := runLength_eq
  by_cases hend : t = 2 * runLength
  · have hnext : k * runLength + t + 1 = (k + 1) * runLength + (runLength + 1) := by
      rw [Nat.add_mul]
      omega
    rw [hnext, unitsAt_run (Or.inl (by omega)) (by omega), Nat.pow_succ, Nat.mul_comm (2 ^ k) 2,
      ← Nat.mul_assoc]
    exact Nat.mul_le_mul_right _ (by omega)
  · rw [Nat.add_assoc, unitsAt_run (by omega) (by omega)]

theorem unitsAt_lt_succ (rung : Nat) : unitsAt rung < unitsAt (rung + 1) := by
  obtain ⟨k, t, rfl, hlow, hhigh⟩ := exists_run rung
  have hstep : t * 2 ^ k < (t + 1) * 2 ^ k :=
    Nat.mul_lt_mul_of_pos_right (Nat.lt_succ_self t) (Nat.two_pow_pos k)
  rw [unitsAt_run hlow hhigh.le]
  exact hstep.trans_le (succ_mul_le_unitsAt hlow hhigh.le)

/-- **The ladder rises.** -/
theorem strictMono_unitsAt : StrictMono unitsAt := strictMono_nat_of_lt_succ unitsAt_lt_succ

end Binary64

end TurtleScript
