import TurtleScript.Binary64.Arithmetic
import TurtleScript.Proofs.Binary64.Nearest

/-!
# Doubling

Doubling a number only moves it to another rung, one run up or, where the steps are lowest, twice as
far from zero (`double_signed`). Nothing is rounded, so half the double is the number again, and
adding the double to the negated number gives the number back (`neg_add_double`).

All this ends where the double is no longer finite, which is the case for just the numbers beyond
half of the largest finite one (`lt_half_largest_iff`). Half of such a double is infinity, and so is
the sum.
-/

namespace TurtleScript

namespace Binary64

/-- Neither NaN nor infinity. -/
def IsFinite : Binary64 → Prop
  | nan => False
  | signed _ m => m ≠ .infinite

instance : DecidablePred IsFinite
  | nan => inferInstanceAs (Decidable False)
  | signed _ _ => inferInstanceAs (Decidable (_ ≠ _))

/-- The largest finite number. -/
def largest : Binary64 := signed false (.ofRung (topRung - 1))

/-! ## Rungs -/

/-- The rung that is twice as high. -/
def doubledRung (rung : Nat) : Nat := if rung < runLength then 2 * rung else rung + runLength

theorem le_doubledRung (rung : Nat) : rung ≤ doubledRung rung := by
  rw [doubledRung]
  split <;> omega

/-- Only zero is its own double. -/
theorem eq_zero_of_doubledRung_eq {rung : Nat} (h : doubledRung rung = rung) : rung = 0 := by
  have hR := runLength_eq
  rw [doubledRung] at h
  split at h <;> omega

theorem unitsAt_doubledRung (rung : Nat) : unitsAt (doubledRung rung) = 2 * unitsAt rung := by
  have hR := runLength_eq
  obtain ⟨k, t, rfl, hlow, hhigh⟩ := exists_run rung
  rw [unitsAt_run hlow hhigh.le, doubledRung]
  split
  · -- The steps are as high as those of the next run, which the double may reach.
    obtain rfl : k = 0 := by omega
    have hrung : 2 * (0 * runLength + t) = 0 * runLength + 2 * t := by omega
    rw [hrung, unitsAt_run (Or.inr rfl) (by omega), Nat.mul_assoc]
  · have hrung : k * runLength + t + runLength = (k + 1) * runLength + t := by
      rw [Nat.add_mul]
      omega
    have hfirst : runLength ≤ t := by
      rcases hlow with hlow | rfl
      · exact hlow
      · omega
    rw [hrung, unitsAt_run (Or.inl hfirst) hhigh.le, Nat.pow_succ, Nat.mul_comm (2 ^ k) 2,
      Nat.mul_left_comm]

namespace Magnitude

/-- Twice the magnitude is infinite. -/
def Overflows (m : Magnitude) : Prop := topRung ≤ doubledRung m.rung

instance : DecidablePred Overflows := fun _ ↦ inferInstanceAs (Decidable (_ ≤ _))

theorem overflows_iff {m : Magnitude} : m.Overflows ↔ topRung - 1 - runLength < m.rung := by
  have hR := runLength_eq
  have htop : topRung = 2047 * runLength := rfl
  rw [Overflows, doubledRung]
  split <;> omega

theorem overflows_infinite : infinite.Overflows := by decide

theorem isInfinite_eq_false {m : Magnitude} (h : m ≠ infinite) : m.isInfinite = false :=
  Bool.eq_false_iff.mpr (isInfinite_iff.not.mpr h)

end Magnitude

/-! ## Numbers -/

/-- **Doubling goes to the doubled rung.** -/
theorem double_signed (s : Bool) (m : Magnitude) :
    (signed s m).double = signed s (.ofRung (doubledRung m.rung)) := by
  by_cases hm : m = .infinite
  · subst hm
    decide +revert
  · have hrounds := roundsTo_unitsAt (doubledRung m.rung) Nat.one_pos
    rw [unitsAt_doubledRung, Nat.mul_one] at hrounds
    rw [double, Magnitude.isInfinite_eq_false hm, if_neg Bool.false_ne_true, Magnitude.units,
      nearest_eq_of_roundsTo Nat.one_pos hrounds]

/-- Half of a double that has not overflown is the number again. -/
theorem half_double {m : Magnitude} (s : Bool) (h : ¬m.Overflows) :
    (signed s m).double.half = signed s m := by
  have hlt : doubledRung m.rung < topRung := Nat.lt_of_not_le h
  have hrung : (Magnitude.ofRung (doubledRung m.rung)).rung = doubledRung m.rung :=
    Nat.min_eq_left hlt.le
  have hfinite : Magnitude.ofRung (doubledRung m.rung) ≠ .infinite := fun heq ↦ by
    rw [heq, Magnitude.rung_infinite] at hrung
    omega
  have hrounds := roundsTo_unitsAt m.rung Nat.two_pos
  rw [Nat.mul_comm, ← unitsAt_doubledRung] at hrounds
  rw [double_signed, half, Magnitude.isInfinite_eq_false hfinite, if_neg Bool.false_ne_true,
    Magnitude.units, hrung, nearest_eq_of_roundsTo Nat.two_pos hrounds, Magnitude.ofRung_rung]

theorem double_of_overflows {m : Magnitude} (s : Bool) (h : m.Overflows) :
    (signed s m).double = signed s .infinite := by
  rw [double_signed]
  exact congrArg (signed s) (Magnitude.ext (Nat.min_eq_right h))

theorem half_double_of_overflows {m : Magnitude} (s : Bool) (h : m.Overflows) :
    (signed s m).double.half = signed s .infinite := by
  rw [double_of_overflows s h]
  rfl

/-- **Back by as much and forward by twice as much.** -/
theorem neg_add_double {m : Magnitude} (h : ¬m.Overflows) :
    signed true m + (signed false m).double = signed false m := by
  have hlt : doubledRung m.rung < topRung := Nat.lt_of_not_le h
  have hle : m.rung ≤ doubledRung m.rung := le_doubledRung m.rung
  have hm : m ≠ .infinite := fun heq ↦ h (heq ▸ Magnitude.overflows_infinite)
  rw [double_signed]
  change add (signed true m) (signed false (.ofRung (doubledRung m.rung))) = _
  have hrung : (Magnitude.ofRung (doubledRung m.rung)).rung = doubledRung m.rung :=
    Nat.min_eq_left hlt.le
  generalize Magnitude.ofRung (doubledRung m.rung) = d at hrung
  have hd : d ≠ .infinite := fun heq ↦ by
    rw [heq, Magnitude.rung_infinite] at hrung
    omega
  have hnot : ¬d.rung < m.rung := by omega
  simp only [add, Magnitude.isInfinite_eq_false hm, Magnitude.isInfinite_eq_false hd,
    Bool.false_eq_true, Bool.true_eq_false, if_false, hnot]
  by_cases heq : m = d
  · have hzero : m.rung = 0 := eq_zero_of_doubledRung_eq (hrung.symm.trans (heq ▸ rfl))
    rw [if_pos heq, zero, ← Magnitude.ext (n := .zero) hzero]
  · have hdifference : d.units - m.units = m.units := by
      rw [Magnitude.units, hrung, unitsAt_doubledRung, Magnitude.units]
      omega
    rw [if_neg heq, hdifference, nearest_units]

/-- Forward by more than any finite number. -/
theorem neg_add_double_of_overflows {m : Magnitude} (h : m.Overflows) (hm : m ≠ .infinite) :
    signed true m + (signed false m).double = signed false .infinite := by
  rw [double_of_overflows false h]
  change add (signed true m) (signed false .infinite) = _
  rw [add, Magnitude.isInfinite_eq_false hm, if_neg Bool.false_ne_true,
    if_pos (Magnitude.isInfinite_iff.mpr rfl)]

/-- The numbers whose double is not finite are those beyond half of the largest finite one. -/
theorem lt_half_largest_iff (s : Bool) (m : Magnitude) :
    largest.half.lt (signed s m).abs = true ↔ m.Overflows := by
  have hhalf : largest.half = signed false (.ofRung (topRung - 1 - runLength)) := by
    decide +kernel
  have hrung : (Magnitude.ofRung (topRung - 1 - runLength)).rung = topRung - 1 - runLength := rfl
  rw [hhalf, abs, Magnitude.overflows_iff, lt, place, place, hrung, decide_eq_true_iff]
  exact Int.ofNat_lt

end Binary64

end TurtleScript
