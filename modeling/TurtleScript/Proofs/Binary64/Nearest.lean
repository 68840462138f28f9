import TurtleScript.Proofs.Binary64.Ladder

/-!
# The nearest rung

A quotient rounds to a rung if it lies between the halfway marks to the rungs below and above; on a
mark itself it goes to the even one of the two (`RoundsTo`). The marks are in order, because the
ladder rises, so a quotient rounds to one rung only (`RoundsTo.unique`). Rounding finds this rung
(`roundsTo_nearestRung`), infinity taking the place of all rungs that are too high. Nothing but the
quotient counts: how it is written as a fraction makes no difference (`RoundsTo.congr`).
-/

namespace TurtleScript

namespace Binary64

/-- Twice the quotient `num / den` of units is not below the sum of the heights of a rung and the
one under it, nor above the sum of its height and that of the next one, and it is one of these sums
only if the rung is even. -/
structure RoundsTo (num den rung : Nat) : Prop where
  /-- It is not below the lower mark. -/
  low : (unitsAt (rung - 1) + unitsAt rung) * den ≤ 2 * num
  /-- It is not above the upper mark. -/
  high : 2 * num ≤ (unitsAt rung + unitsAt (rung + 1)) * den
  /-- It is on none of the marks of an odd rung. -/
  odd : rung % 2 = 1 → (unitsAt (rung - 1) + unitsAt rung) * den < 2 * num ∧
    2 * num < (unitsAt rung + unitsAt (rung + 1)) * den

/-! ## One rung only -/

theorem RoundsTo.not_lt {num den a b : Nat} (hden : 0 < den) (ha : RoundsTo num den a)
    (hb : RoundsTo num den b) : ¬a < b := by
  intro hab
  have hlow : unitsAt a ≤ unitsAt (b - 1) := strictMono_unitsAt.monotone (by omega)
  have hhigh : unitsAt (a + 1) ≤ unitsAt b := strictMono_unitsAt.monotone hab
  have hmarks : (unitsAt a + unitsAt (a + 1)) * den ≤ (unitsAt (b - 1) + unitsAt b) * den :=
    Nat.mul_le_mul_right den (Nat.add_le_add hlow hhigh)
  -- The upper mark of `a` and the lower mark of `b` are one, so both rungs are even neighbours.
  have hupper : 2 * num = (unitsAt a + unitsAt (a + 1)) * den :=
    Nat.le_antisymm ha.high (hmarks.trans hb.low)
  have hlower : 2 * num = (unitsAt (b - 1) + unitsAt b) * den :=
    Nat.le_antisymm (ha.high.trans hmarks) hb.low
  have hsum : unitsAt a + unitsAt (a + 1) = unitsAt (b - 1) + unitsAt b :=
    Nat.eq_of_mul_eq_mul_right hden (hupper.symm.trans hlower)
  have hnext : a + 1 = b := strictMono_unitsAt.injective (by omega)
  have haeven : a % 2 ≠ 1 := fun h ↦ (ha.odd h).2.ne hupper
  have hbeven : b % 2 ≠ 1 := fun h ↦ (hb.odd h).1.ne hlower.symm
  omega

/-- **A quotient rounds to one rung only.** -/
theorem RoundsTo.unique {num den a b : Nat} (hden : 0 < den) (ha : RoundsTo num den a)
    (hb : RoundsTo num den b) : a = b :=
  Nat.le_antisymm (Nat.not_lt.mp (hb.not_lt hden ha)) (Nat.not_lt.mp (ha.not_lt hden hb))

/-- Only the quotient counts. -/
theorem RoundsTo.congr {num den num' den' rung : Nat} (hden : 0 < den) (hden' : 0 < den')
    (hquotient : num * den' = num' * den) (h : RoundsTo num den rung) :
    RoundsTo num' den' rung := by
  have hle : ∀ mark, mark * den ≤ 2 * num ↔ mark * den' ≤ 2 * num' := by
    intro mark
    rw [← Nat.mul_le_mul_right_iff hden', Nat.mul_assoc 2, hquotient, ← Nat.mul_assoc,
      Nat.mul_right_comm mark, Nat.mul_le_mul_right_iff hden]
  have hge : ∀ mark, 2 * num ≤ mark * den ↔ 2 * num' ≤ mark * den' := by
    intro mark
    rw [← Nat.mul_le_mul_right_iff hden', Nat.mul_assoc 2, hquotient, ← Nat.mul_assoc,
      Nat.mul_right_comm mark, Nat.mul_le_mul_right_iff hden]
  refine ⟨(hle _).mp h.low, (hge _).mp h.high, fun hodd ↦ ?_⟩
  obtain ⟨hlow, hhigh⟩ := h.odd hodd
  exact ⟨Nat.lt_of_not_le fun hle' ↦ Nat.not_le.mpr hlow ((hge _).mpr hle'),
    Nat.lt_of_not_le fun hge' ↦ Nat.not_le.mpr hhigh ((hle _).mpr hge')⟩

/-- The height of a rung rounds to that rung. -/
theorem roundsTo_unitsAt (rung : Nat) {den : Nat} (hden : 0 < den) :
    RoundsTo (unitsAt rung * den) den rung := by
  have hsucc : unitsAt rung < unitsAt (rung + 1) := unitsAt_lt_succ rung
  have hpred : unitsAt (rung - 1) ≤ unitsAt rung := strictMono_unitsAt.monotone (by omega)
  have htwice : 2 * (unitsAt rung * den) = (unitsAt rung + unitsAt rung) * den := by
    rw [← Nat.two_mul, Nat.mul_assoc]
  refine ⟨?_, ?_, fun hodd ↦ ?_⟩
  · rw [htwice]
    exact Nat.mul_le_mul_right den (by omega)
  · rw [htwice]
    exact Nat.mul_le_mul_right den (by omega)
  · have hlower : unitsAt (rung - 1) < unitsAt rung := strictMono_unitsAt (by omega)
    rw [htwice]
    exact ⟨Nat.mul_lt_mul_of_pos_right (by omega) hden,
      Nat.mul_lt_mul_of_pos_right (by omega) hden⟩

/-! ## Finding the rung -/

/-- Rounding to a whole number moves a quotient by half at most, and by exactly half only to an even
number. -/
theorem roundHalfEven_bounds (num : Nat) {den : Nat} (hden : 0 < den) :
    2 * num ≤ (2 * roundHalfEven num den + 1) * den ∧
      2 * roundHalfEven num den * den ≤ 2 * num + den ∧
      (roundHalfEven num den % 2 = 1 →
        2 * num < (2 * roundHalfEven num den + 1) * den ∧
          2 * roundHalfEven num den * den < 2 * num + den) := by
  have hdiv := Nat.div_add_mod num den
  have hmod := Nat.mod_lt num hden
  rw [Nat.mul_comm] at hdiv
  have hbelow : roundHalfEven num den = num / den + 1 ∧ den ≤ 2 * (num % den) ∧
      (2 * (num % den) = den → num / den % 2 = 1) ∨
      roundHalfEven num den = num / den ∧ 2 * (num % den) ≤ den ∧
      (2 * (num % den) = den → num / den % 2 = 0) := by
    simp only [roundHalfEven]
    split
    · omega
    · split
      · omega
      · omega
  simp only [Nat.add_mul, Nat.one_mul, Nat.mul_assoc]
  rcases hbelow with ⟨hup, hhalf, heven⟩ | ⟨hdown, hhalf, heven⟩
  · rw [hup, Nat.add_mul, Nat.one_mul]
    omega
  · rw [hdown]
    omega

/-- The rung that rounding finds, before infinity takes its place. -/
def nearestRung (num den : Nat) : Nat :=
  let k := doublingsBelow (num / den)
  k * runLength + roundHalfEven num (den * 2 ^ k)

theorem nearest_eq (num den : Nat) :
    Magnitude.nearest num den = .ofRung (nearestRung num den) := rfl

/-- In the run that rounding chooses, a quotient is not below the first step, unless it is the first
run, and it is below the last step. -/
theorem quotient_in_run (num den : Nat) :
    (runLength ≤ num / (den * 2 ^ doublingsBelow (num / den)) ∨ doublingsBelow (num / den) = 0) ∧
      num / (den * 2 ^ doublingsBelow (num / den)) < 2 * runLength := by
  rw [← Nat.div_div_eq_div_mul]
  generalize num / den = q
  have hR : runLength = 2 ^ (52 : Nat) := rfl
  have hpos := Nat.two_pow_pos (doublingsBelow q)
  rw [Nat.le_div_iff_mul_le hpos, Nat.div_lt_iff_lt_mul hpos]
  have hhigh : q < 2 ^ (q.log2 + 1) := Nat.lt_log2_self
  by_cases hk : doublingsBelow q = 0
  · refine ⟨Or.inr hk, ?_⟩
    have hlog : q.log2 + 1 ≤ 53 := by
      rw [doublingsBelow] at hk
      omega
    rw [hk, hR]
    exact hhigh.trans_le (Nat.pow_le_pow_right Nat.two_pos hlog)
  · have hlog : q.log2 = 52 + doublingsBelow q := by
      rw [doublingsBelow] at hk ⊢
      omega
    have hq : q ≠ 0 := by
      rintro rfl
      exact hk rfl
    have hlow : 2 ^ q.log2 ≤ q := Nat.log2_self_le hq
    rw [hlog, Nat.pow_add, ← hR] at hlow
    rw [hlog, Nat.pow_succ, Nat.pow_add, ← hR, Nat.mul_comm _ 2, ← Nat.mul_assoc] at hhigh
    exact ⟨Or.inl hlow, hhigh⟩

/-- The rung under a step of a run: there is none, or it is one step lower, or it belongs to the run
before. -/
theorem unitsAt_run_pred {k t : Nat} (hlow : runLength ≤ t ∨ k = 0) (hhigh : t ≤ 2 * runLength) :
    (t = 0 ∧ unitsAt (k * runLength + t - 1) = 0) ∨
      unitsAt (k * runLength + t - 1) + 2 ^ k = t * 2 ^ k ∨
      (t = runLength ∧ k ≠ 0 ∧ unitsAt (k * runLength + t - 1) < t * 2 ^ k) := by
  have hR := runLength_eq
  by_cases hzero : t = 0
  · have hk : k = 0 := by omega
    rw [hzero, hk]
    exact Or.inl ⟨rfl, rfl⟩
  · by_cases hfirst : t = runLength ∧ k ≠ 0
    · have hlower : unitsAt (k * runLength + t - 1) < unitsAt (k * runLength + t) :=
        strictMono_unitsAt (by omega)
      rw [unitsAt_run hlow hhigh] at hlower
      exact Or.inr (Or.inr ⟨hfirst.1, hfirst.2, hlower⟩)
    · have hpred : k * runLength + t - 1 = k * runLength + (t - 1) := by omega
      have hstep : (t - 1) * 2 ^ k + 2 ^ k = t * 2 ^ k := by
        rw [← Nat.succ_mul, Nat.succ_eq_add_one, Nat.sub_add_cancel (by omega)]
      rw [hpred, unitsAt_run (by omega) (by omega)]
      exact Or.inr (Or.inl hstep)

/-- The heights about a step of a run in products with a denominator, where a step of the run is
worth `den * 2 ^ k`. -/
theorem heights_about_run {k t : Nat} (hlow : runLength ≤ t ∨ k = 0) (hhigh : t ≤ 2 * runLength)
    {den : Nat} (hden : 0 < den) :
    unitsAt (k * runLength + t) * den = t * (den * 2 ^ k) ∧
      t * (den * 2 ^ k) + den * 2 ^ k ≤ unitsAt (k * runLength + t + 1) * den ∧
      ((t = 0 ∧ unitsAt (k * runLength + t - 1) * den = 0) ∨
        unitsAt (k * runLength + t - 1) * den + den * 2 ^ k = t * (den * 2 ^ k) ∨
        (t = runLength ∧ k ≠ 0 ∧ unitsAt (k * runLength + t - 1) * den < t * (den * 2 ^ k))) := by
  have hscale : ∀ n, n * 2 ^ k * den = n * (den * 2 ^ k) := by
    intro n
    rw [Nat.mul_assoc, Nat.mul_comm (2 ^ k)]
  refine ⟨?_, ?_, ?_⟩
  · rw [unitsAt_run hlow hhigh, hscale]
  · rw [← Nat.succ_mul, ← hscale]
    exact Nat.mul_le_mul_right den (succ_mul_le_unitsAt hlow hhigh)
  · rcases unitsAt_run_pred hlow hhigh with ⟨hzero, hnone⟩ | hlower | ⟨ht, hk, hlower⟩
    · exact Or.inl ⟨hzero, by rw [hnone, Nat.zero_mul]⟩
    · refine Or.inr (Or.inl ?_)
      rw [Nat.mul_comm den (2 ^ k), ← Nat.add_mul, hlower, Nat.mul_assoc]
    · refine Or.inr (Or.inr ⟨ht, hk, ?_⟩)
      rw [← hscale]
      exact Nat.mul_lt_mul_of_pos_right hlower hden

/-- **Rounding finds the rung.** -/
theorem roundsTo_nearestRung (num : Nat) {den : Nat} (hden : 0 < den) :
    RoundsTo num den (nearestRung num den) := by
  obtain ⟨hfirst, hlast⟩ := quotient_in_run num den
  rw [nearestRung]
  generalize doublingsBelow (num / den) = k at hfirst hlast ⊢
  have hstep : 0 < den * 2 ^ k := Nat.mul_pos hden (Nat.two_pow_pos k)
  have hbottom : k ≠ 0 → runLength * (den * 2 ^ k) ≤ num := by
    intro hk
    exact (Nat.le_div_iff_mul_le hstep).mp (hfirst.resolve_right hk)
  obtain ⟨hup, hdown, hodd⟩ := roundHalfEven_bounds num hstep
  have ht := roundHalfEven_eq_or num (den * 2 ^ k)
  generalize roundHalfEven num (den * 2 ^ k) = t at hup hdown hodd ht ⊢
  have hrun : (runLength ≤ t ∨ k = 0) ∧ t ≤ 2 * runLength := by omega
  obtain ⟨hheight, hnext, hpred⟩ := heights_about_run hrun.1 hrun.2 hden
  have hparity : (k * runLength + t) % 2 = t % 2 := by
    rw [runLength_eq]
    omega
  have hdouble : (2 * t + 1) * (den * 2 ^ k) = 2 * (t * (den * 2 ^ k)) + den * 2 ^ k := by
    rw [Nat.succ_mul, Nat.mul_assoc]
  rw [hdouble] at hup hodd
  rw [Nat.mul_assoc] at hdown hodd
  have hnone : t = 0 → t * (den * 2 ^ k) = 0 := by
    rintro rfl
    exact Nat.zero_mul _
  have hfirst : t = runLength → k ≠ 0 → t * (den * 2 ^ k) ≤ num := by
    rintro rfl hk
    exact hbottom hk
  -- What is left is linear in the height of the step.
  generalize t * (den * 2 ^ k) = height at *
  generalize den * 2 ^ k = step at *
  refine ⟨?_, ?_, fun h ↦ ?_⟩
  · rw [Nat.add_mul, hheight]
    omega
  · rw [Nat.add_mul, hheight]
    omega
  · rw [Nat.add_mul, Nat.add_mul, hheight]
    omega

/-! ## Rounding -/

/-- A quotient is rounded to the rung that it rounds to. -/
theorem nearest_eq_of_roundsTo {num den rung : Nat} (hden : 0 < den) (h : RoundsTo num den rung) :
    Magnitude.nearest num den = .ofRung rung := by
  rw [nearest_eq, (roundsTo_nearestRung num hden).unique hden h]

/-- Equal quotients are rounded alike. -/
theorem nearest_congr {num den num' den' : Nat} (hden : 0 < den) (hden' : 0 < den')
    (hquotient : num * den' = num' * den) :
    Magnitude.nearest num den = Magnitude.nearest num' den' := by
  have hrounds := (roundsTo_nearestRung num hden).congr hden hden' hquotient
  rw [nearest_eq_of_roundsTo hden' hrounds, nearest_eq]

/-- A magnitude is nearest to itself. -/
theorem nearest_units (m : Magnitude) : Magnitude.nearest m.units 1 = m := by
  have hrounds := roundsTo_unitsAt m.rung Nat.one_pos
  rw [Nat.mul_one] at hrounds
  rw [Magnitude.units, nearest_eq_of_roundsTo Nat.one_pos hrounds, Magnitude.ofRung_rung]

/-- Less than half a unit is rounded to zero. -/
theorem nearest_eq_zero {num den : Nat} (h : 2 * num ≤ den) (hden : 0 < den) :
    Magnitude.nearest num den = .zero := by
  have hrounds : RoundsTo num den 0 := by
    refine ⟨?_, ?_, fun hodd ↦ absurd hodd (by decide)⟩
    · have hlow : unitsAt (0 - 1) + unitsAt 0 = 0 := by decide
      rw [hlow, Nat.zero_mul]
      exact Nat.zero_le _
    · have hhigh : unitsAt 0 + unitsAt (0 + 1) = 1 := by decide
      rwa [hhigh, Nat.one_mul]
  exact nearest_eq_of_roundsTo hden hrounds

/-- From the height of the rung of infinity on, everything is rounded to infinity. -/
theorem nearest_eq_infinite {num den : Nat} (h : unitsAt topRung * den ≤ num) (hden : 0 < den) :
    Magnitude.nearest num den = .infinite := by
  have hhigh := (roundsTo_nearestRung num hden).high
  have htop : topRung ≤ nearestRung num den := by
    by_contra hlt
    have hnext : unitsAt (nearestRung num den + 1) ≤ unitsAt topRung :=
      strictMono_unitsAt.monotone (by omega)
    have hself : unitsAt (nearestRung num den) < unitsAt topRung := strictMono_unitsAt (by omega)
    have hsum : unitsAt (nearestRung num den) + unitsAt (nearestRung num den + 1) <
        2 * unitsAt topRung := by omega
    have hmul := Nat.mul_lt_mul_of_pos_right hsum hden
    rw [Nat.mul_assoc] at hmul
    omega
  rw [nearest_eq]
  exact Magnitude.ext (Nat.min_eq_right htop)

end Binary64

end TurtleScript
