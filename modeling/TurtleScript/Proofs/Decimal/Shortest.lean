import TurtleScript.Decimal.Rounding
import TurtleScript.Decimal.Shortest
import TurtleScript.Proofs.Binary64.Nearest

/-!
# Shortest decimals round back

The two tests in front of the rounding of a decimal only save work: a decimal that is clearly huge
or tiny would be rounded to infinity or to zero anyway (`magnitude_eq_exactMagnitude`). So a decimal
is always rounded from its exact value.

A shortest decimal is found on a grid, inside the neighbourhood of its magnitude
(`contains_coarsestHit`). A neighbourhood holds just what rounds to its rung
(`contains_neighbourhood_iff`). Together: the shortest decimal of a magnitude is rounded to that
magnitude (`exactMagnitude_shortest`).
-/

namespace TurtleScript

open Binary64

theorem Binary64.scaledUnit_pos : 0 < scaledUnit := Nat.pow_pos (by decide)

namespace Decimal

theorem denominator_pos (d : Decimal) : 0 < d.denominator := Nat.pow_pos (by decide)

/-! ## The tests in front of the rounding -/

theorem exactMagnitude_of_isHuge {d : Decimal} (hd : d.significand ≠ 0) (h : d.isHuge = true) :
    d.exactMagnitude = .infinite := by
  have hexponent : 309 ≤ d.exponent := by simpa [isHuge] using h
  have hten : ∀ e ≤ d.exponent.toNat, 10 ^ e * 2 ^ oneExponent ≤ d.numerator * 2 ^ oneExponent := by
    intro e he
    apply Nat.mul_le_mul_right
    calc 10 ^ e
        ≤ 10 ^ d.exponent.toNat := Nat.pow_le_pow_right (by decide) he
      _ ≤ d.significand * 10 ^ d.exponent.toNat :=
          Nat.le_mul_of_pos_left _ (Nat.pos_of_ne_zero hd)
  have hdenominator : d.denominator = 1 := by
    have hzero : (-d.exponent).toNat = 0 := by omega
    rw [denominator, hzero, Nat.pow_zero]
  have htop : unitsAt topRung ≤ 10 ^ (309 : Nat) * 2 ^ oneExponent := by decide +kernel
  apply nearest_eq_infinite _ d.denominator_pos
  rw [hdenominator, Nat.mul_one]
  exact htop.trans (hten 309 (by omega))

theorem exactMagnitude_of_isTiny {d : Decimal} (h : d.isTiny = true) :
    d.exactMagnitude = .zero := by
  have hexponent : 3 * d.exponent + d.significand.log2 + 1 ≤ -1075 := by simpa [isTiny] using h
  obtain ⟨places, hplaces⟩ : ∃ places : Nat, d.exponent = -places := ⟨(-d.exponent).toNat, by omega⟩
  have hnumerator : d.numerator = d.significand := by
    have hzero : d.exponent.toNat = 0 := by omega
    rw [numerator, hzero, Nat.pow_zero, Nat.mul_one]
  have hdenominator : d.denominator = 10 ^ places := by
    rw [denominator, hplaces, Int.neg_neg, Int.toNat_natCast]
  have hbits : d.significand ≤ 2 ^ (d.significand.log2 + 1) := Nat.lt_log2_self.le
  apply nearest_eq_zero _ d.denominator_pos
  rw [hnumerator, hdenominator]
  calc 2 * (d.significand * 2 ^ oneExponent)
      ≤ 2 * (2 ^ (d.significand.log2 + 1) * 2 ^ oneExponent) :=
        Nat.mul_le_mul_left _ (Nat.mul_le_mul_right _ hbits)
    _ = 2 ^ (d.significand.log2 + 1 + oneExponent + 1) := by
        rw [← Nat.pow_add, Nat.mul_comm, ← Nat.pow_succ]
    _ ≤ 2 ^ (3 * places) := Nat.pow_le_pow_right (by decide) (by rw [oneExponent]; omega)
    _ = 8 ^ places := by rw [Nat.pow_mul]
    _ ≤ 10 ^ places := Nat.pow_le_pow_left (by decide) places

/-- **The tests only save work.** A decimal is rounded from its exact value. -/
theorem magnitude_eq_exactMagnitude (d : Decimal) : d.magnitude = d.exactMagnitude := by
  rw [magnitude]
  split
  next hzero =>
    have hnumerator : d.numerator = 0 := by rw [numerator, hzero, Nat.zero_mul]
    rw [exactMagnitude, hnumerator, Nat.zero_mul, Magnitude.nearest_zero]
  next hd =>
    split
    next hhuge => exact (exactMagnitude_of_isHuge hd hhuge).symm
    next =>
      split
      next htiny => exact (exactMagnitude_of_isTiny htiny).symm
      next => rfl

/-- A decimal is rounded to the rung that its scaled value rounds to. -/
theorem exactMagnitude_eq_of_roundsTo {d : Decimal} {j rung : Nat}
    (hexponent : d.exponent = j - scaleExponent)
    (h : RoundsTo (d.significand * 10 ^ j) scaledUnit rung) :
    d.exactMagnitude = .ofRung rung := by
  have hplaces : d.exponent.toNat + scaleExponent = j + (-d.exponent).toNat := by omega
  have hten : ∀ e : Nat, 2 ^ e * 5 ^ e = 10 ^ e := fun e ↦ (Nat.mul_pow 2 5 e).symm
  have hscale : oneExponent = scaleExponent := rfl
  have hquotient : d.significand * 10 ^ j * d.denominator =
      d.numerator * 2 ^ oneExponent * scaledUnit := by
    rw [Nat.mul_assoc d.numerator, scaledUnit, hscale, hten, denominator, numerator, Nat.mul_assoc,
      Nat.mul_assoc, ← Nat.pow_add, ← Nat.pow_add, hplaces]
  exact nearest_eq_of_roundsTo d.denominator_pos
    (h.congr scaledUnit_pos d.denominator_pos hquotient)

end Decimal

namespace Binary64

/-! ## Neighbourhoods -/

/-- **A neighbourhood holds what rounds to its rung.** -/
theorem contains_neighbourhood_iff {m : Magnitude} {n : Nat} :
    m.neighbourhood.contains n = true ↔ RoundsTo n scaledUnit m.rung := by
  rw [Neighbourhood.contains, Magnitude.neighbourhood, Magnitude.units]
  by_cases hodd : m.rung % 2 = 1
  · have hclosed : ¬decide (m.rung % 2 = 0) = true := by simp [hodd]
    rw [if_neg hclosed, Bool.and_eq_true, decide_eq_true_iff, decide_eq_true_iff]
    exact ⟨fun h ↦ ⟨h.1.le, h.2.le, fun _ ↦ h⟩, fun h ↦ h.odd hodd⟩
  · have hclosed : decide (m.rung % 2 = 0) = true := by
      rw [decide_eq_true_iff]
      omega
    rw [if_pos hclosed, Bool.and_eq_true, decide_eq_true_iff, decide_eq_true_iff]
    exact ⟨fun h ↦ ⟨h.1, h.2, fun h ↦ absurd h hodd⟩, fun h ↦ ⟨h.low, h.high⟩⟩

/-- A magnitude is in its own neighbourhood. -/
theorem contains_scaled (m : Magnitude) : m.neighbourhood.contains m.scaled = true :=
  contains_neighbourhood_iff.mpr (roundsTo_unitsAt m.rung scaledUnit_pos)

/-! ## The search -/

theorem contains_of_nearestOnGrid? {h : Neighbourhood} {n step steps : Nat}
    (hsteps : nearestOnGrid? h n step = some steps) : h.contains (steps * step) = true := by
  simp only [nearestOnGrid?] at hsteps
  split at hsteps
  next hbelow =>
    rw [Bool.and_eq_true] at hbelow
    cases hsteps
    exact hbelow.1
  next =>
    split at hsteps
    next habove =>
      cases hsteps
      exact habove
    next => cases hsteps

/-- What the search finds is in the neighbourhood. -/
theorem contains_coarsestHit {h : Neighbourhood} {n : Nat} (hn : h.contains n = true) (k : Nat) :
    ∃ j : Nat, (coarsestHit h n k).exponent = j - scaleExponent ∧
      h.contains ((coarsestHit h n k).significand * 10 ^ j) = true := by
  induction k with
  | zero =>
    refine ⟨0, ?_, ?_⟩
    · rw [coarsestHit, Int.natCast_zero, Int.zero_sub]
    · rw [coarsestHit, Nat.pow_zero, Nat.mul_one]
      exact hn
  | succ k ih =>
    rw [coarsestHit]
    cases hgrid : nearestOnGrid? h n (10 ^ (k + 1)) with
    | none => exact ih
    | some steps => exact ⟨k + 1, rfl, contains_of_nearestOnGrid? hgrid⟩

/-- **Shortest decimals round back.** -/
theorem exactMagnitude_shortest (m : Magnitude) : m.shortest.exactMagnitude = m := by
  rw [Magnitude.shortest]
  split
  next hzero =>
    have hm : m = .zero := Magnitude.ext hzero
    rw [hm, Decimal.exactMagnitude, Decimal.numerator, Nat.zero_mul, Nat.zero_mul,
      Magnitude.nearest_zero]
  next hpositive =>
    obtain ⟨j, hexponent, hcontains⟩ := contains_coarsestHit (contains_scaled m)
      (coarsestExponent m.neighbourhood.high)
    rw [Decimal.exactMagnitude_eq_of_roundsTo hexponent (contains_neighbourhood_iff.mp hcontains),
      Magnitude.ofRung_rung]

end Binary64

end TurtleScript
