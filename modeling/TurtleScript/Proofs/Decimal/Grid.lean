import TurtleScript.Proofs.Decimal.Shortest

/-!
# The coarsest grid with a hit

The shortest decimal of a magnitude is looked for on one grid after another. A neighbourhood has no
gaps, so if any point of a grid is in it then one of the two points around the magnitude is: a grid
without a hit has no points in the neighbourhood at all, and a hit is the nearest of all points that
have (`natAbs_le_of_nearestOnGrid?`).

The search starts on a grid that is too coarse for any hit (`lt_ten_pow_coarsestExponent`). So what
it finds is on the coarsest grid of all that has a point in the neighbourhood (`coarsestHit_spec`).

Right below a power of ten a finer grid has points with as few digits as the power. Only one
neighbourhood holds both (`scaled_of_contains_power`).
-/

namespace TurtleScript

namespace Binary64

/-! ## Neighbourhoods -/

namespace Neighbourhood

variable {h : Neighbourhood}

/-- What lies in a neighbourhood is not beyond its marks. -/
theorem bounds_of_contains {n : Nat} (hn : h.contains n = true) :
    h.low ≤ 2 * n ∧ 2 * n ≤ h.high := by
  rw [contains] at hn
  split at hn <;>
  · rw [Bool.and_eq_true, decide_eq_true_iff, decide_eq_true_iff] at hn
    omega

/-- A neighbourhood has no gaps. -/
theorem contains_of_between {a b n : Nat} (ha : h.contains a = true) (hb : h.contains b = true)
    (han : a ≤ n) (hnb : n ≤ b) : h.contains n = true := by
  rw [contains] at ha hb ⊢
  split at ha
  next hclosed =>
    rw [if_pos hclosed, Bool.and_eq_true, decide_eq_true_iff, decide_eq_true_iff] at *
    omega
  next hopen =>
    rw [if_neg hopen, Bool.and_eq_true, decide_eq_true_iff, decide_eq_true_iff] at *
    omega

end Neighbourhood

/-! ## One grid -/

section

variable {h : Neighbourhood} {n step : Nat}

/-- A point of a grid is not above the last one up to a number, or not below the next. -/
theorem contains_of_contains_mul (hn : h.contains n = true) (hstep : 0 < step) {steps : Nat}
    (hsteps : h.contains (steps * step) = true) :
    (steps * step ≤ n / step * step ∧ h.contains (n / step * step) = true) ∨
      ((n / step + 1) * step ≤ steps * step ∧ h.contains ((n / step + 1) * step) = true) := by
  have hbelow : n / step * step ≤ n := Nat.div_mul_le_self n step
  have habove : n < (n / step + 1) * step := by
    rw [Nat.mul_comm]
    exact Nat.lt_mul_div_succ n hstep
  rcases Nat.lt_or_ge (n / step) steps with hlt | hle
  · have hle := Nat.mul_le_mul_right step (Nat.succ_le_of_lt hlt)
    exact Or.inr ⟨hle, Neighbourhood.contains_of_between hn hsteps habove.le hle⟩
  · have hle := Nat.mul_le_mul_right step hle
    exact Or.inl ⟨hle, Neighbourhood.contains_of_between hsteps hn hle hbelow⟩

/-- A grid without a hit has no points in the neighbourhood. -/
theorem not_contains_of_nearestOnGrid? (hn : h.contains n = true) (hstep : 0 < step)
    (hnone : nearestOnGrid? h n step = none) (steps : Nat) :
    ¬h.contains (steps * step) = true := by
  intro hsteps
  simp only [nearestOnGrid?] at hnone
  split at hnone
  next => cases hnone
  next hnotBelow =>
    rw [ite_eq_right_iff] at hnone
    have hnotAbove : ¬h.contains ((n / step + 1) * step) = true :=
      fun habove ↦ Option.some_ne_none _ (hnone habove)
    rcases contains_of_contains_mul hn hstep hsteps with ⟨-, hbelow⟩ | ⟨-, habove⟩
    · simp [hbelow, hnotAbove] at hnotBelow
    · exact hnotAbove habove

/-- **A hit is the nearest point.** -/
theorem natAbs_le_of_nearestOnGrid? (hn : h.contains n = true) (hstep : 0 < step) {best : Nat}
    (hbest : nearestOnGrid? h n step = some best) {steps : Nat}
    (hsteps : h.contains (steps * step) = true) :
    ((best * step : Nat) - n : Int).natAbs ≤ ((steps * step : Nat) - n : Int).natAbs := by
  have hdiv : n / step * step + n % step = n := Nat.div_add_mod' n step
  have hmod : n % step < step := Nat.mod_lt n hstep
  have hnext : (n / step + 1) * step = n / step * step + step := Nat.succ_mul _ _
  have hcases := contains_of_contains_mul hn hstep hsteps
  simp only [nearestOnGrid?] at hbest
  rw [hnext] at hbest hcases
  -- Beyond the two points around the number, all others are further away than one of these.
  generalize hpoint : steps * step = point at hcases ⊢
  split at hbest
  next hbelow =>
    cases hbest
    simp only [Bool.and_eq_true, Bool.or_eq_true, Bool.not_eq_true', decide_eq_true_eq] at hbelow
    rcases hcases with ⟨hle, -⟩ | ⟨hle, habove⟩
    · omega
    · have hcloser : 2 * (n % step) < step :=
        hbelow.2.resolve_left (by simp [habove])
      omega
  next hnotBelow =>
    split at hbest
    next habove =>
      cases hbest
      rw [hnext]
      rcases hcases with ⟨hle, hbelow⟩ | ⟨hle, -⟩
      · have hcloser : ¬2 * (n % step) < step := by
          intro hlt
          simp [hbelow, hlt] at hnotBelow
        omega
      · omega
    next => cases hbest

end

/-! ## All grids -/

/-- **The coarsest hit.** What the search finds is on a grid that it has been on, the nearest point
of that grid, and no coarser grid that it has been on has any point in the neighbourhood. -/
theorem coarsestHit_spec {h : Neighbourhood} {n : Nat} (hn : h.contains n = true) (k : Nat) :
    ∃ j : Nat, (coarsestHit h n k).exponent = j - scaleExponent ∧
      (∀ i, j < i → i ≤ k → ∀ steps, ¬h.contains (steps * 10 ^ i) = true) ∧
      ∀ steps, h.contains (steps * 10 ^ j) = true →
        (((coarsestHit h n k).significand * 10 ^ j : Nat) - n : Int).natAbs ≤
          ((steps * 10 ^ j : Nat) - n : Int).natAbs := by
  -- On the grids that are still to be tried. The last of them has every whole number.
  induction k with
  | zero =>
    refine ⟨0, ?_, fun i hi hik ↦ absurd hi (by omega), fun steps _ ↦ ?_⟩
    · rw [coarsestHit, Int.natCast_zero, Int.zero_sub]
    · rw [coarsestHit, Nat.pow_zero]
      dsimp only
      omega
  | succ k ih =>
    have hstep : 0 < 10 ^ (k + 1) := Nat.pow_pos (by decide)
    rw [coarsestHit]
    cases hgrid : nearestOnGrid? h n (10 ^ (k + 1)) with
    | none =>
      obtain ⟨j, hexponent, hcoarser, hnearest⟩ := ih
      refine ⟨j, hexponent, fun i hji hi ↦ ?_, hnearest⟩
      rcases Nat.lt_or_eq_of_le hi with hi | rfl
      · exact hcoarser i hji (Nat.le_of_lt_succ hi)
      · exact not_contains_of_nearestOnGrid? hn hstep hgrid
    | some best =>
      refine ⟨k + 1, rfl, fun i hki hi ↦ absurd hki (by omega), fun steps hsteps ↦ ?_⟩
      exact natAbs_le_of_nearestOnGrid? hn hstep hgrid hsteps

/-! ## The first grid -/

/-- The search begins above the neighbourhood. -/
theorem lt_ten_pow_coarsestExponent (n : Nat) : n < 10 ^ coarsestExponent n := by
  have hbits : n < 2 ^ (n.log2 + 1) := Nat.lt_log2_self
  have hexponent : 28 * (n.log2 + 1) ≤ 93 * coarsestExponent n := by
    rw [coarsestExponent]
    omega
  have hpowers : (2 ^ (n.log2 + 1)) ^ (93 : Nat) ≤ (10 ^ coarsestExponent n) ^ (93 : Nat) := calc
    (2 ^ (n.log2 + 1)) ^ (93 : Nat)
      = (2 ^ (93 : Nat)) ^ (n.log2 + 1) := Nat.pow_right_comm 2 _ _
    _ ≤ (10 ^ (28 : Nat)) ^ (n.log2 + 1) := Nat.pow_le_pow_left (by decide) _
    _ = 10 ^ (28 * (n.log2 + 1)) := (Nat.pow_mul 10 28 _).symm
    _ ≤ 10 ^ (93 * coarsestExponent n) := Nat.pow_le_pow_right (by decide) hexponent
    _ = (10 ^ coarsestExponent n) ^ (93 : Nat) := by rw [Nat.mul_comm, Nat.pow_mul]
  exact hbits.trans_le ((Nat.pow_le_pow_iff_left (by decide)).mp hpowers)

/-! ## Below a power of ten -/

theorem unitsAt_of_le {rung : Nat} (h : rung ≤ 2 * runLength) : unitsAt rung = rung := by
  have hunits := unitsAt_run (Or.inr rfl) h
  rwa [Nat.zero_mul, Nat.zero_add, Nat.pow_zero, Nat.mul_one] at hunits

/-- Only the lowest rungs have marks that are a tenth apart. -/
theorem le_of_marks {rung : Nat}
    (h : 10 * (unitsAt rung + unitsAt (rung + 1)) ≤ 9 * (unitsAt (rung + 1) + unitsAt (rung + 2))) :
    rung ≤ 8 := by
  have hR := runLength_eq
  obtain ⟨k, t, rfl, hlow, hhigh⟩ := exists_run rung
  have hstep := Nat.two_pow_pos k
  have hfirst : unitsAt (k * runLength + t) = t * 2 ^ k := unitsAt_run hlow hhigh.le
  have hsecond : unitsAt (k * runLength + t + 1) = (t + 1) * 2 ^ k := by
    rw [Nat.add_assoc, unitsAt_run (by omega) (by omega)]
  rw [hfirst, hsecond] at h
  by_cases hend : t + 2 ≤ 2 * runLength
  · have hthird : unitsAt (k * runLength + t + 2) = (t + 2) * 2 ^ k := by
      rw [Nat.add_assoc, unitsAt_run (by omega) hend]
    rw [hthird, ← Nat.add_mul, ← Nat.add_mul, ← Nat.mul_assoc, ← Nat.mul_assoc,
      Nat.mul_le_mul_right_iff hstep] at h
    obtain rfl : k = 0 := by omega
    omega
  · -- The third rung is in the next run, where steps are doubled, and all three are far up.
    have hthird : unitsAt (k * runLength + t + 2) = 2 * (runLength + 1) * 2 ^ k := by
      have hrung : k * runLength + t + 2 = (k + 1) * runLength + (runLength + 1) := by
        rw [Nat.add_mul]
        omega
      rw [hrung, unitsAt_run (by omega) (by omega), Nat.pow_succ, Nat.mul_comm (2 ^ k) 2,
        ← Nat.mul_assoc, Nat.mul_comm _ 2]
    rw [hthird, ← Nat.add_mul, ← Nat.add_mul, ← Nat.mul_assoc, ← Nat.mul_assoc,
      Nat.mul_le_mul_right_iff hstep] at h
    omega

/-- The only power of ten of about the size of a unit. -/
theorem eq_of_unit_bounds {k : Nat} (hlow : scaledUnit ≤ 18 * 10 ^ k)
    (hhigh : 20 * 10 ^ k ≤ 19 * scaledUnit) : k = 750 := by
  have hbelow : 18 * 10 ^ (749 : Nat) < scaledUnit := by decide +kernel
  have habove : 19 * scaledUnit < 20 * 10 ^ (751 : Nat) := by decide +kernel
  have hpowers : ∀ {a b : Nat}, a ≤ b → 10 ^ a ≤ 10 ^ b := Nat.pow_le_pow_right (by decide)
  rcases Nat.lt_trichotomy k 750 with hk | hk | hk
  · have hle := hpowers (Nat.le_of_lt_succ hk)
    omega
  · exact hk
  · have hle := hpowers hk
    omega

section

variable {m : Magnitude} {k r : Nat}

/-- The neighbourhoods of the lowest rungs are an odd number of half units away from zero. -/
theorem neighbourhood_of_le (hm : m.rung = r + 1) (hr : r ≤ 8) :
    m.neighbourhood.low = (2 * r + 1) * scaledUnit ∧ m.scaled = (r + 1) * scaledUnit ∧
      m.neighbourhood.high = (2 * r + 3) * scaledUnit := by
  have hR := runLength_eq
  have hbelow : r + (r + 1) = 2 * r + 1 := by omega
  have habove : r + 1 + (r + 2) = 2 * r + 3 := by omega
  rw [Magnitude.neighbourhood, Magnitude.scaled, Magnitude.units, hm, Nat.add_sub_cancel,
    unitsAt_of_le (by omega), unitsAt_of_le (by omega), unitsAt_of_le (by omega)]
  exact ⟨congrArg (· * scaledUnit) hbelow, rfl, congrArg (· * scaledUnit) habove⟩

theorem le_of_contains_power (hm : m.rung = r + 1)
    (hnine : m.neighbourhood.contains (9 * 10 ^ k) = true)
    (hten : m.neighbourhood.contains (10 ^ (k + 1)) = true) : r ≤ 8 := by
  have hlow := (Neighbourhood.bounds_of_contains hnine).1
  have hhigh := (Neighbourhood.bounds_of_contains hten).2
  simp only [Magnitude.neighbourhood, Magnitude.units, hm, Nat.add_sub_cancel] at hlow hhigh
  change 2 * 10 ^ (k + 1) ≤ (unitsAt (r + 1) + unitsAt (r + 2)) * scaledUnit at hhigh
  refine le_of_marks (Nat.le_of_mul_le_mul_right ?_ scaledUnit_pos)
  rw [Nat.mul_assoc, Nat.mul_assoc]
  rw [Nat.pow_succ] at hhigh
  omega

/-- A neighbourhood that reaches from nine tenths of a power of ten up to the power is that of two
units, which are closer to the power. -/
theorem scaled_of_contains_power (hm : m.rung ≠ 0)
    (hnine : m.neighbourhood.contains (9 * 10 ^ k) = true)
    (hten : m.neighbourhood.contains (10 ^ (k + 1)) = true) :
    9 * 10 ^ k ≤ m.scaled ∧ m.scaled ≤ 10 ^ (k + 1) ∧ 19 * 10 ^ k ≤ 2 * m.scaled := by
  obtain ⟨r, hrung⟩ := Nat.exists_eq_succ_of_ne_zero hm
  have hr := le_of_contains_power hrung hnine hten
  obtain ⟨hlow, hscaled, hhigh⟩ := neighbourhood_of_le hrung hr
  have hbelow := (Neighbourhood.bounds_of_contains hnine).1
  have habove := (Neighbourhood.bounds_of_contains hten).2
  have hpower : 10 ^ (k + 1) = 10 * 10 ^ k := by rw [Nat.pow_succ, Nat.mul_comm]
  rw [hlow] at hbelow
  rw [hhigh, hpower] at habove
  rw [hscaled, hpower]
  have hfloor : 1 * scaledUnit ≤ (2 * r + 1) * scaledUnit := Nat.mul_le_mul_right _ (by omega)
  have hceiling : (2 * r + 3) * scaledUnit ≤ 19 * scaledUnit := Nat.mul_le_mul_right _ (by omega)
  obtain rfl : k = 750 := eq_of_unit_bounds (by omega) (by omega)
  -- So the power is little more than two units, and the neighbourhood is about two units.
  have hunit : 494 * 10 ^ (750 : Nat) ≤ 100 * scaledUnit ∧
      100 * scaledUnit ≤ 495 * 10 ^ (750 : Nat) := by decide +kernel
  generalize 10 ^ (750 : Nat) = power at *
  generalize scaledUnit = unit at *
  obtain rfl : r = 1 := by
    rcases Nat.lt_trichotomy r 1 with hlt | heq | hgt
    · obtain rfl : r = 0 := by omega
      omega
    · exact heq
    · have hfive : 5 * unit ≤ (2 * r + 1) * unit := Nat.mul_le_mul_right _ (by omega)
      omega
  omega

end

end Binary64

end TurtleScript
