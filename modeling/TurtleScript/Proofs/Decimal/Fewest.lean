import TurtleScript.Proofs.Decimal.Exact
import TurtleScript.Proofs.Decimal.Grid

/-!
# Fewest digits

The shortest decimal of a magnitude is on the coarsest grid that has a decimal nearest to the
magnitude, and of those on its grid it is the closest (`isCoarsest_shortest`). That is what the
search says. It is not yet what shortest means: a decimal of a finer grid may have as few digits, or
fewer, and may be closer.

The numbers that a magnitude is nearest to have no gaps (`IsNearest.of_between`). So if a decimal of
a finer grid were as short, then a power of ten between the two would round to the magnitude as
well, and that has one digit on a coarser grid yet. What remains are decimals of one digit below a
power of ten. They exist, since 1e-323 could be written 9e-324, but they are not closer
(`abs_le_of_nine_tenths`). So no decimal has fewer digits (`IsCoarsest.lt_of_lt_pow`) and none with
as few is closer (`IsCoarsest.abs_le_of_lt_pow`).
-/

namespace TurtleScript

open Binary64

/-- A decimal of a grid of scaled numbers. -/
theorem Decimal.toRat_eq_scaled {d : Decimal} {j : ℕ} (h : d.exponent = j - scaleExponent) :
    d.toRat = (d.significand * 10 ^ j : ℕ) / 10 ^ scaleExponent := by
  have hcast : ((d.significand * 10 ^ j : ℕ) : ℚ) = d.significand * 10 ^ j := by exact_mod_cast rfl
  rw [Decimal.toRat, h, hcast, zpow_sub₀ (by norm_num), zpow_natCast, zpow_natCast, mul_div_assoc]

namespace Binary64

variable {m : Magnitude}

/-! ## No gaps -/

theorem abs_sub_le_iff_of_lt {q x y : ℚ} (h : x < y) : |q - x| ≤ |q - y| ↔ 2 * q ≤ x + y := by
  rw [← sq_le_sq]
  constructor <;>
  · intro hle
    nlinarith

theorem abs_sub_le_iff_of_gt {q x y : ℚ} (h : y < x) : |q - x| ≤ |q - y| ↔ x + y ≤ 2 * q := by
  rw [← sq_le_sq]
  constructor <;>
  · intro hle
    nlinarith

theorem Magnitude.toRat_injective : Function.Injective toRat :=
  fun _ _ h ↦ ext (strictMono_heightAt.injective h)

/-- What lies between numbers that a magnitude is nearest to is no different. -/
theorem IsNearest.of_between {a b q : ℚ} (hm : m ≠ .infinite) (ha : IsNearest a m)
    (hb : IsNearest b m) (haq : a ≤ q) (hqb : q ≤ b) : IsNearest q m := by
  refine ⟨iff_of_false hm fun hq ↦ hm (hb.infinite_iff.mpr (hq.trans hqb)), ?_, ?_⟩
  · intro _ n hn
    have hale := ha.abs_le hm n hn
    have hble := hb.abs_le hm n hn
    rcases lt_trichotomy m.toRat n.toRat with hlt | heq | hgt
    · rw [abs_sub_le_iff_of_lt hlt] at hble ⊢
      linarith
    · rw [heq]
    · rw [abs_sub_le_iff_of_gt hgt] at hale ⊢
      linarith
  · intro _ n hn hne hequal
    have hale := ha.abs_le hm n hn
    have hble := hb.abs_le hm n hn
    have hleft := hequal.le
    have hright := hequal.ge
    -- A tie is at the end that is turned towards the other magnitude.
    rcases lt_trichotomy m.toRat n.toRat with hlt | heq | hgt
    · rw [abs_sub_le_iff_of_gt hlt] at hleft
      rw [abs_sub_le_iff_of_lt hlt] at hble
      obtain rfl : q = b := by linarith
      exact hb.even hm n hn hne hequal
    · exact absurd (Magnitude.toRat_injective heq).symm hne
    · rw [abs_sub_le_iff_of_lt hgt] at hleft
      rw [abs_sub_le_iff_of_gt hgt] at hale
      obtain rfl : q = a := by linarith
      exact ha.even hm n hn hne hequal

/-! ## Scaled numbers -/

theorem ofUnits_scaledUnit (n : ℕ) : ofUnits n scaledUnit = n / 10 ^ scaleExponent := by
  have hunit : (scaledUnit : ℚ) = 5 ^ scaleExponent := by exact_mod_cast rfl
  have hscale : oneExponent = scaleExponent := rfl
  have hten : (10 : ℚ) = 5 * 2 := by norm_num
  rw [ofUnits, hunit, hscale, div_div, ← mul_pow, ← hten]

/-- A neighbourhood holds what its magnitude is nearest to. -/
theorem isNearest_scaled_iff (hm : m ≠ .infinite) {n : ℕ} :
    IsNearest (n / 10 ^ scaleExponent) m ↔ m.neighbourhood.contains n = true := by
  rw [contains_neighbourhood_iff, ← ofUnits_scaledUnit]
  constructor
  · intro h
    have hrounds := roundsTo_nearestRung n scaledUnit_pos
    have hrung : m = .ofRung (nearestRung n scaledUnit) :=
      h.unique (hrounds.isNearest scaledUnit_pos)
    have hlt := Magnitude.ne_infinite_iff.mp hm
    rw [hrung, Magnitude.rung_ofRung] at hlt ⊢
    rwa [min_eq_left (by omega)]
  · intro h
    have hnearest := h.isNearest scaledUnit_pos
    rwa [Magnitude.ofRung_rung] at hnearest

theorem Magnitude.toRat_eq_scaled (m : Magnitude) : m.toRat = m.scaled / 10 ^ scaleExponent := by
  have hunit : (scaledUnit : ℚ) ≠ 0 := by exact_mod_cast scaledUnit_pos.ne'
  rw [← ofUnits_scaledUnit, ofUnits, scaled, Nat.cast_mul, mul_div_cancel_right₀ _ hunit]
  rfl

/-- Only zero is nearest to zero. -/
theorem IsNearest.pos {q : ℚ} (hm : m.rung ≠ 0) (hq : 0 ≤ q) (h : IsNearest q m) : 0 < q := by
  have hzero : m ≠ .zero := fun hm' ↦ hm (congrArg Magnitude.rung hm')
  rw [Ne, h.eq_zero_iff hq, not_le] at hzero
  have hthreshold : (0 : ℚ) < underflowThreshold := by
    rw [underflowThreshold]
    positivity
  exact hthreshold.trans hzero

theorem IsNearest.significand_pos {d : Decimal} (hm : m.rung ≠ 0) (h : IsNearest d.toRat m) :
    0 < d.significand := by
  by_contra hnone
  have hzero : d.toRat = 0 := by
    rw [Decimal.toRat, Nat.eq_zero_of_not_pos hnone, Nat.cast_zero, zero_mul]
  exact (h.pos hm hzero.ge).ne' hzero

/-! ## The coarsest grid -/

/-- A decimal is on the coarsest grid that has one nearest to a magnitude, and it is the closest of
those on this grid. -/
structure IsCoarsest (m : Magnitude) (d : Decimal) : Prop where
  /-- The magnitude is nearest to it. -/
  nearest : IsNearest d.toRat m
  /-- The magnitude is not nearest to any decimal of a coarser grid. -/
  coarser : ∀ c : Decimal, d.exponent < c.exponent → ¬IsNearest c.toRat m
  /-- No other decimal of this grid is closer. -/
  closest : ∀ c : Decimal, c.exponent = d.exponent → IsNearest c.toRat m →
    |d.toRat - m.toRat| ≤ |c.toRat - m.toRat|

theorem abs_scaled_sub_le {a b n : ℕ} (h : ((a : ℤ) - n).natAbs ≤ ((b : ℤ) - n).natAbs) :
    |(a : ℚ) / 10 ^ scaleExponent - n / 10 ^ scaleExponent| ≤
      |(b : ℚ) / 10 ^ scaleExponent - n / 10 ^ scaleExponent| := by
  have hq : |(a : ℚ) - n| ≤ |(b : ℚ) - n| := by
    have hint : |(a : ℤ) - n| ≤ |(b : ℤ) - n| := by
      rw [Int.abs_eq_natAbs, Int.abs_eq_natAbs]
      exact_mod_cast h
    exact_mod_cast hint
  rw [← sub_div, ← sub_div, abs_div, abs_div]
  gcongr

/-- **The shortest decimal is on the coarsest grid.** -/
theorem isCoarsest_shortest (hm : m ≠ .infinite) (hrung : m.rung ≠ 0) :
    IsCoarsest m m.shortest := by
  have hnearest := isNearest_shortest m
  rw [Magnitude.shortest, if_neg hrung] at hnearest ⊢
  have hstart := lt_ten_pow_coarsestExponent m.neighbourhood.high
  generalize coarsestExponent m.neighbourhood.high = k at hstart hnearest
  obtain ⟨j, hexponent, hcoarser, hclosest⟩ := coarsestHit_spec (contains_scaled m) k
  generalize coarsestHit m.neighbourhood m.scaled k = d at hexponent hnearest hclosest
  refine ⟨hnearest, ?_, ?_⟩
  · intro c hlt hc
    obtain ⟨i, hi⟩ : ∃ i : ℕ, c.exponent = i - scaleExponent :=
      ⟨(c.exponent + scaleExponent).toNat, by omega⟩
    have hpositive := hc.significand_pos hrung
    rw [Decimal.toRat_eq_scaled hi, isNearest_scaled_iff hm] at hc
    by_cases hik : i ≤ k
    · exact hcoarser i (by omega) hik _ hc
    · -- All but zero on such a grid is above the neighbourhood.
      have hpower : 10 ^ k ≤ 10 ^ i := Nat.pow_le_pow_right (by decide) (by omega)
      have hpoint : 10 ^ i ≤ c.significand * 10 ^ i := Nat.le_mul_of_pos_left _ hpositive
      have hbound := (Neighbourhood.bounds_of_contains hc).2
      omega
  · intro c hsame hc
    rw [Decimal.toRat_eq_scaled (hsame.trans hexponent), isNearest_scaled_iff hm] at hc
    rw [Decimal.toRat_eq_scaled hexponent, Decimal.toRat_eq_scaled (hsame.trans hexponent),
      Magnitude.toRat_eq_scaled]
    exact abs_scaled_sub_le (hclosest _ hc)

/-! ## Below a power of ten -/

theorem toRat_one (e : ℤ) : Decimal.toRat ⟨1, e⟩ = 10 ^ e := by
  rw [Decimal.toRat, Nat.cast_one, one_mul]

/-- A power of ten that rounds to something other than zero is one of the scaled numbers. -/
theorem lt_exponent_of_isNearest (hrung : m.rung ≠ 0) {e : ℤ}
    (h : IsNearest (Decimal.toRat ⟨1, e⟩) m) : -scaleExponent < e := by
  by_contra hle
  have hpowers : (2 : ℚ) ^ 1075 ≤ 10 ^ scaleExponent := calc
    (2 : ℚ) ^ 1075 ≤ 2 ^ (3 * scaleExponent) := pow_le_pow_right₀ (by norm_num) (by decide)
    _ = (2 ^ 3) ^ scaleExponent := pow_mul 2 3 scaleExponent
    _ ≤ 10 ^ scaleExponent := pow_le_pow_left₀ (by norm_num) (by norm_num) scaleExponent
  have hsmall : (10 : ℚ) ^ e ≤ underflowThreshold := calc
    (10 : ℚ) ^ e ≤ 10 ^ (-scaleExponent : ℤ) := zpow_le_zpow_right₀ (by norm_num) (by omega)
    _ = 1 / 10 ^ scaleExponent := by rw [zpow_neg, zpow_natCast, one_div]
    _ ≤ underflowThreshold := one_div_le_one_div_of_le (by positivity) hpowers
  rw [toRat_one] at h
  have hzero : m = .zero := (h.eq_zero_iff (by positivity)).mpr hsmall
  exact hrung (congrArg Magnitude.rung hzero)

/-- If nine tenths of a power of ten round to a magnitude as the power does, then the magnitude is
between the two, and not below the middle. -/
theorem toRat_bounds_of_nine_tenths (hm : m ≠ .infinite) (hrung : m.rung ≠ 0) {e : ℤ}
    (hnine : IsNearest (Decimal.toRat ⟨9, e - 1⟩) m) (hten : IsNearest (Decimal.toRat ⟨1, e⟩) m) :
    Decimal.toRat ⟨9, e - 1⟩ ≤ m.toRat ∧ m.toRat ≤ Decimal.toRat ⟨1, e⟩ ∧
      Decimal.toRat ⟨9, e - 1⟩ + Decimal.toRat ⟨1, e⟩ ≤ 2 * m.toRat := by
  have hexponent := lt_exponent_of_isNearest hrung hten
  obtain ⟨k, hk⟩ : ∃ k : ℕ, e - 1 = k - scaleExponent :=
    ⟨(e - 1 + scaleExponent).toNat, by omega⟩
  have hnine_eq : Decimal.toRat ⟨9, e - 1⟩ = (9 * 10 ^ k : ℕ) / 10 ^ scaleExponent :=
    Decimal.toRat_eq_scaled hk
  have hten_eq : Decimal.toRat ⟨1, e⟩ = (10 ^ (k + 1) : ℕ) / 10 ^ scaleExponent := by
    have h : Decimal.toRat ⟨1, e⟩ = (1 * 10 ^ (k + 1) : ℕ) / 10 ^ scaleExponent :=
      Decimal.toRat_eq_scaled (by push_cast; omega)
    rwa [Nat.one_mul] at h
  rw [hnine_eq, isNearest_scaled_iff hm] at hnine
  rw [hten_eq, isNearest_scaled_iff hm] at hten
  obtain ⟨hlow, hhigh, hmiddle⟩ := scaled_of_contains_power hrung hnine hten
  have hsum : 9 * 10 ^ k + 10 ^ (k + 1) ≤ 2 * m.scaled := by
    rw [Nat.pow_succ]
    omega
  rw [hnine_eq, hten_eq, m.toRat_eq_scaled, ← add_div, ← mul_div_assoc]
  have hcast : ((9 * 10 ^ k : ℕ) : ℚ) + (10 ^ (k + 1) : ℕ) ≤ 2 * m.scaled := by
    exact_mod_cast hsum
  refine ⟨?_, ?_, ?_⟩ <;>
  gcongr

/-- Then the power is at least as close as nine tenths of it, and as whatever is below them. -/
theorem abs_le_of_nine_tenths (hm : m ≠ .infinite) (hrung : m.rung ≠ 0) {e : ℤ}
    (hnine : IsNearest (Decimal.toRat ⟨9, e - 1⟩) m) (hten : IsNearest (Decimal.toRat ⟨1, e⟩) m)
    {q : ℚ} (hq : q ≤ Decimal.toRat ⟨9, e - 1⟩) :
    |Decimal.toRat ⟨1, e⟩ - m.toRat| ≤ |q - m.toRat| := by
  obtain ⟨hlow, hhigh, hmiddle⟩ := toRat_bounds_of_nine_tenths hm hrung hnine hten
  rw [abs_of_nonneg (by linarith), abs_of_nonpos (by linarith)]
  linarith

/-! ## Fewest digits -/

section

variable {c d : Decimal} {k l : ℕ}

/-- A bound for the digits is one for the value. -/
theorem toRat_lt_of_lt_pow {e : ℤ} (h : c.significand < 10 ^ l) (he : l + c.exponent ≤ e) :
    c.toRat < Decimal.toRat ⟨1, e⟩ := by
  have hcast : (c.significand : ℚ) < 10 ^ l := by exact_mod_cast h
  rw [toRat_one, Decimal.toRat]
  calc (c.significand : ℚ) * 10 ^ c.exponent
      < 10 ^ l * 10 ^ c.exponent := by gcongr
    _ = 10 ^ (l + c.exponent) := by rw [zpow_add₀ (by norm_num), zpow_natCast]
    _ ≤ 10 ^ e := zpow_le_zpow_right₀ (by norm_num) he

theorem le_toRat_of_pow_le (h : 10 ^ k ≤ d.significand) :
    Decimal.toRat ⟨1, k + d.exponent⟩ ≤ d.toRat := by
  have hcast : (10 : ℚ) ^ k ≤ d.significand := by exact_mod_cast h
  rw [toRat_one, Decimal.toRat, zpow_add₀ (by norm_num), zpow_natCast]
  gcongr

namespace IsCoarsest

/-- A power of ten below a decimal of the coarsest grid, with another decimal that rounds alike
below the power, is on the coarsest grid too, so the decimal has one digit only. -/
theorem eq_zero_of_lt (hm : m ≠ .infinite) (hd : IsCoarsest m d) (hc : IsNearest c.toRat m)
    (hk : 10 ^ k ≤ d.significand) (hl : c.significand < 10 ^ l)
    (hle : l + c.exponent ≤ k + d.exponent) :
    k = 0 ∧ IsNearest (Decimal.toRat ⟨1, d.exponent⟩) m := by
  -- The power lies between the two decimals, so it rounds alike.
  have hpower : IsNearest (Decimal.toRat ⟨1, k + d.exponent⟩) m :=
    hc.of_between hm hd.nearest (toRat_lt_of_lt_pow hl hle).le (le_toRat_of_pow_le hk)
  have hone : k = 0 := by
    by_contra hmore
    have hexponent : d.exponent < k + d.exponent := by omega
    exact hd.coarser ⟨1, k + d.exponent⟩ hexponent hpower
  subst hone
  rw [Nat.cast_zero, zero_add] at hpower
  exact ⟨rfl, hpower⟩

/-- **No decimal has fewer digits.** -/
theorem lt_of_lt_pow (hm : m ≠ .infinite) (hrung : m.rung ≠ 0) (hd : IsCoarsest m d)
    (hc : IsNearest c.toRat m) (hk : 10 ^ k ≤ d.significand) (hl : c.significand < 10 ^ l) :
    k < l := by
  by_contra hle
  have hexponent : c.exponent ≤ d.exponent := not_lt.mp fun hlt ↦ hd.coarser c hlt hc
  obtain ⟨rfl, -⟩ := hd.eq_zero_of_lt hm hc hk hl (by omega)
  obtain rfl : l = 0 := by omega
  have hpositive := hc.significand_pos hrung
  rw [Nat.pow_zero] at hl
  omega

/-- **No decimal with as few digits is closer.** -/
theorem abs_le_of_lt_pow (hm : m ≠ .infinite) (hrung : m.rung ≠ 0) (hd : IsCoarsest m d)
    (hc : IsNearest c.toRat m) (hk : 10 ^ k ≤ d.significand) (hl : c.significand < 10 ^ (k + 1)) :
    |d.toRat - m.toRat| ≤ |c.toRat - m.toRat| := by
  rcases lt_trichotomy c.exponent d.exponent with hfiner | hsame | hcoarser
  · -- Both have one digit, so the finer one is at most nine tenths of a power of ten.
    obtain ⟨rfl, hten⟩ := hd.eq_zero_of_lt hm hc hk hl (by push_cast; omega)
    have hnine_le : c.toRat ≤ Decimal.toRat ⟨9, d.exponent - 1⟩ := by
      have hdigit : (c.significand : ℚ) ≤ (9 : ℕ) := by
        exact_mod_cast Nat.le_of_lt_succ hl
      have hpower : (10 : ℚ) ^ c.exponent ≤ 10 ^ (d.exponent - 1) :=
        zpow_le_zpow_right₀ (by norm_num) (by omega)
      rw [Decimal.toRat, Decimal.toRat]
      gcongr
    have hnine_lt : Decimal.toRat ⟨9, d.exponent - 1⟩ < Decimal.toRat ⟨1, d.exponent⟩ := by
      have hdigit : 9 < 10 ^ (1 : ℕ) := by decide
      have hexponent : (1 : ℕ) + (d.exponent - 1) ≤ d.exponent := by omega
      exact toRat_lt_of_lt_pow hdigit hexponent
    have hnine : IsNearest (Decimal.toRat ⟨9, d.exponent - 1⟩) m :=
      hc.of_between hm hten hnine_le hnine_lt.le
    exact (hd.closest ⟨1, d.exponent⟩ rfl hten).trans
      (abs_le_of_nine_tenths hm hrung hnine hten hnine_le)
  · exact hd.closest c hsame hc
  · exact absurd hc (hd.coarser c hcoarser)

/-- The last digit is not zero, since it would be left out on a coarser grid. -/
theorem mod_ten_ne_zero (hd : IsCoarsest m d) : d.significand % 10 ≠ 0 := by
  intro hzero
  have hcoarser : d.exponent < d.exponent + 1 := by omega
  have hdigits : (d.significand : ℚ) = (d.significand / 10 : ℕ) * 10 := by
    exact_mod_cast (Nat.div_mul_cancel (Nat.dvd_of_mod_eq_zero hzero)).symm
  have hsame : Decimal.toRat ⟨d.significand / 10, d.exponent + 1⟩ = d.toRat := by
    rw [Decimal.toRat, Decimal.toRat, hdigits, zpow_add_one₀ (by norm_num)]
    ring
  exact hd.coarser _ hcoarser (hsame ▸ hd.nearest)

end IsCoarsest

end

end Binary64

end TurtleScript
