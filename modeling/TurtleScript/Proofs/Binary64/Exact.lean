import Mathlib.Data.Rat.Cast.Order
import Mathlib.Tactic.FieldSimp
import Mathlib.Tactic.Linarith
import Mathlib.Tactic.Positivity
import Mathlib.Tactic.Ring
import TurtleScript.Proofs.Binary64.Nearest

/-!
# Exact values

A finite magnitude is a rational number: its units, divided by the number of units in one
(`Magnitude.toRat`). So the magnitude nearest to a rational number can be described without the
arithmetic of this library (`IsNearest`): below the overflow threshold no finite magnitude is
closer, and of two that are equally close it is the one on the even rung; from the threshold on it
is infinity. There is only one (`IsNearest.unique`).

Rounding finds it (`isNearest_nearest`). A number rounds to a rung if it lies between the halfway
marks about the rung, and in rational numbers these are the points that are equally far from two
neighbours.
-/

namespace TurtleScript

namespace Binary64

/-! ## Heights -/

/-- The height of a rung as a rational number. -/
def heightAt (rung : ℕ) : ℚ := unitsAt rung / 2 ^ oneExponent

/-- The exact value of a finite magnitude. -/
def Magnitude.toRat (m : Magnitude) : ℚ := heightAt m.rung

/-- From here on everything is rounded to infinity: half way from the largest finite number to the
power of two behind it. -/
def overflowThreshold : ℚ := 2 ^ 1024 - 2 ^ 970

/-- Up to here everything is rounded to zero: half of the smallest positive number. -/
def underflowThreshold : ℚ := 1 / 2 ^ 1075

theorem strictMono_heightAt : StrictMono heightAt := by
  intro a b hab
  have hunits : (unitsAt a : ℚ) < unitsAt b := by exact_mod_cast strictMono_unitsAt hab
  rw [heightAt, heightAt]
  gcongr

theorem heightAt_zero : heightAt 0 = 0 := by
  have hzero : unitsAt 0 = 0 := by decide
  rw [heightAt, hzero, Nat.cast_zero, zero_div]

/-- The first two heights. -/
theorem heightAt_zero_add_one : heightAt 0 + heightAt 1 = 2 * underflowThreshold := by
  have hone : unitsAt 1 = 1 := by decide
  have htwice : (2 : ℚ) ^ 1075 = 2 ^ oneExponent * 2 := pow_succ 2 oneExponent
  rw [heightAt_zero, heightAt, hone, underflowThreshold, htwice]
  field_simp
  norm_num

/-- The last two heights of a run. -/
theorem heightAt_run_end (k : ℕ) :
    heightAt (k * runLength + (2 * runLength - 1)) + heightAt (k * runLength + 2 * runLength) =
      (2 ^ 54 - 1) * 2 ^ k / 2 ^ oneExponent := by
  have hlast : unitsAt (k * runLength + (2 * runLength - 1)) + 2 ^ k = 2 * runLength * 2 ^ k := by
    rw [unitsAt_run (Or.inl (by decide)) (by decide), ← Nat.succ_mul]
    rfl
  have hend : unitsAt (k * runLength + 2 * runLength) = 2 * runLength * 2 ^ k :=
    unitsAt_run (Or.inl (by decide)) le_rfl
  have hrun : (runLength : ℚ) = 2 ^ 52 := by norm_num [runLength]
  have hlastq : (unitsAt (k * runLength + (2 * runLength - 1)) : ℚ) + 2 ^ k =
      2 * 2 ^ 52 * 2 ^ k := by
    rw [← hrun]
    exact_mod_cast hlast
  have hendq : (unitsAt (k * runLength + 2 * runLength) : ℚ) = 2 * 2 ^ 52 * 2 ^ k := by
    rw [← hrun]
    exact_mod_cast hend
  rw [heightAt, heightAt, ← add_div, hendq, eq_sub_of_add_eq hlastq]
  ring

/-- The last two heights of all. -/
theorem heightAt_pred_add_top :
    heightAt (topRung - 1) + heightAt topRung = 2 * overflowThreshold := by
  have hpower : (2 : ℚ) ^ 2045 = 2 * 2 ^ 970 * 2 ^ oneExponent := by
    rw [oneExponent, ← pow_succ', ← pow_add]
  have hthreshold : (2 : ℚ) ^ 1024 - 2 ^ 970 = (2 ^ 54 - 1) * 2 ^ 970 := by
    rw [sub_mul, ← pow_add, one_mul]
  have hend := heightAt_run_end 2045
  have hlast : 2045 * runLength + (2 * runLength - 1) = topRung - 1 := rfl
  have htop : 2045 * runLength + 2 * runLength = topRung := rfl
  rw [hlast, htop, hpower] at hend
  rw [hend, overflowThreshold, hthreshold]
  field_simp

theorem underflowThreshold_lt_overflowThreshold : underflowThreshold < overflowThreshold := by
  have hfirst := heightAt_zero_add_one
  have hlast := heightAt_pred_add_top
  have hzero : heightAt 0 < heightAt (topRung - 1) := strictMono_heightAt (by decide)
  have hone : heightAt 1 < heightAt topRung := strictMono_heightAt (by decide)
  linarith

/-! ## The nearest magnitude -/

/-- A magnitude is the one nearest to a number that is not negative. -/
structure IsNearest (q : ℚ) (m : Magnitude) : Prop where
  /-- Infinity stands for whatever is not below the threshold. -/
  infinite_iff : m = Magnitude.infinite ↔ overflowThreshold ≤ q
  /-- No finite magnitude is closer. -/
  abs_le : m ≠ .infinite → ∀ n : Magnitude, n ≠ .infinite → |q - m.toRat| ≤ |q - n.toRat|
  /-- If another one is as close, then this one is on an even rung. -/
  even : m ≠ .infinite → ∀ n : Magnitude, n ≠ .infinite → n ≠ m →
    |q - n.toRat| = |q - m.toRat| → m.rung % 2 = 0

theorem Magnitude.ne_infinite_iff {m : Magnitude} : m ≠ .infinite ↔ m.rung < topRung := by
  rw [Ne, Magnitude.ext_iff, Magnitude.rung_infinite]
  have := m.rung_le
  omega

/-- What lies between is closer than one end or the other. -/
theorem abs_sub_lt_or_of_between {q a b c : ℚ} (hab : a < b) (hbc : b < c) :
    |q - b| < |q - a| ∨ |q - b| < |q - c| := by
  rcases le_or_gt q b with hq | hq
  · right
    rw [abs_of_nonpos (by linarith), abs_of_nonpos (by linarith)]
    linarith
  · left
    rw [abs_of_pos (by linarith), abs_of_pos (by linarith)]
    linarith

section

variable {q : ℚ} {m n : Magnitude}

theorem IsNearest.not_lt (hm : IsNearest q m) (hn : IsNearest q n) : ¬m.rung < n.rung := by
  intro hlt
  have hnrung := n.rung_le
  have hmfinite : m ≠ .infinite := Magnitude.ne_infinite_iff.mpr (by omega)
  have hnfinite : n ≠ .infinite := fun h ↦ hmfinite (hm.infinite_iff.mpr (hn.infinite_iff.mp h))
  have hdistance : |q - n.toRat| = |q - m.toRat| :=
    le_antisymm (hn.abs_le hnfinite m hmfinite) (hm.abs_le hmfinite n hnfinite)
  have hne : n ≠ m := fun h ↦ hlt.ne (h ▸ rfl)
  -- Two even rungs have another one between them.
  have hmeven := hm.even hmfinite n hnfinite hne hdistance
  have hneven := hn.even hnfinite m hmfinite hne.symm hdistance.symm
  have hnrung' := Magnitude.ne_infinite_iff.mp hnfinite
  have hbetween : (Magnitude.ofRung (m.rung + 1)).rung = m.rung + 1 :=
    Nat.min_eq_left (by omega)
  have hbetweenfinite : Magnitude.ofRung (m.rung + 1) ≠ .infinite :=
    Magnitude.ne_infinite_iff.mpr (by omega)
  have hlow : m.toRat < (Magnitude.ofRung (m.rung + 1)).toRat :=
    strictMono_heightAt (by omega)
  have hhigh : (Magnitude.ofRung (m.rung + 1)).toRat < n.toRat :=
    strictMono_heightAt (by omega)
  rcases abs_sub_lt_or_of_between (q := q) hlow hhigh with h | h
  · exact absurd (hm.abs_le hmfinite _ hbetweenfinite) (not_le.mpr h)
  · exact absurd (hn.abs_le hnfinite _ hbetweenfinite) (not_le.mpr h)

/-- **There is only one nearest magnitude.** -/
theorem IsNearest.unique (hm : IsNearest q m) (hn : IsNearest q n) : m = n :=
  Magnitude.ext (Nat.le_antisymm (Nat.not_lt.mp (hn.not_lt hm)) (Nat.not_lt.mp (hm.not_lt hn)))

end

/-! ## Halfway marks -/

/-- A quotient of units as a rational number. -/
def ofUnits (num den : ℕ) : ℚ := num / den / 2 ^ oneExponent

theorem add_heightAt (a b : ℕ) :
    heightAt a + heightAt b = (unitsAt a + unitsAt b : ℕ) / 2 ^ oneExponent := by
  rw [heightAt, heightAt, ← add_div, Nat.cast_add]

theorem two_mul_ofUnits (num den : ℕ) :
    2 * ofUnits num den = (2 * num : ℕ) / den / 2 ^ oneExponent := by
  rw [ofUnits, ← mul_div_assoc, ← mul_div_assoc, Nat.cast_mul, Nat.cast_ofNat]

section

variable {num den rung : ℕ}

theorem add_heightAt_le_iff (hden : 0 < den) (a b : ℕ) :
    heightAt a + heightAt b ≤ 2 * ofUnits num den ↔ (unitsAt a + unitsAt b) * den ≤ 2 * num := by
  have hdenq : (0 : ℚ) < den := by exact_mod_cast hden
  rw [add_heightAt, two_mul_ofUnits, div_le_div_iff_of_pos_right (by positivity),
    le_div_iff₀ hdenq]
  exact_mod_cast Iff.rfl

theorem le_add_heightAt_iff (hden : 0 < den) (a b : ℕ) :
    2 * ofUnits num den ≤ heightAt a + heightAt b ↔ 2 * num ≤ (unitsAt a + unitsAt b) * den := by
  have hdenq : (0 : ℚ) < den := by exact_mod_cast hden
  rw [add_heightAt, two_mul_ofUnits, div_le_div_iff_of_pos_right (by positivity),
    div_le_iff₀ hdenq]
  exact_mod_cast Iff.rfl

/-- Every rung below is at least as far away, and no closer than an even rung. -/
theorem RoundsTo.abs_le_of_lt (hden : 0 < den) (h : RoundsTo num den rung) {other : ℕ}
    (hlt : other < rung) :
    |ofUnits num den - heightAt rung| ≤ |ofUnits num den - heightAt other| ∧
      (|ofUnits num den - heightAt other| = |ofUnits num den - heightAt rung| → rung % 2 = 0) := by
  have hmark := (add_heightAt_le_iff hden _ _).mpr h.low
  have hother : heightAt other ≤ heightAt (rung - 1) :=
    strictMono_heightAt.monotone (by omega)
  have hself : heightAt other < heightAt rung := strictMono_heightAt hlt
  have hfar : |ofUnits num den - heightAt other| = ofUnits num den - heightAt other :=
    abs_of_nonneg (by linarith)
  rw [hfar]
  constructor
  · rw [abs_le]
    constructor <;> linarith
  · intro hequal
    by_contra hodd
    have hstrict := not_le.mpr (h.odd (by omega)).1
    rw [← le_add_heightAt_iff hden, not_le] at hstrict
    have hcloser : |ofUnits num den - heightAt rung| < ofUnits num den - heightAt other := by
      rw [abs_lt]
      constructor <;> linarith
    exact hcloser.ne hequal.symm

/-- Every rung above is at least as far away, and no closer than an even rung. -/
theorem RoundsTo.abs_le_of_gt (hden : 0 < den) (h : RoundsTo num den rung) {other : ℕ}
    (hlt : rung < other) :
    |ofUnits num den - heightAt rung| ≤ |ofUnits num den - heightAt other| ∧
      (|ofUnits num den - heightAt other| = |ofUnits num den - heightAt rung| → rung % 2 = 0) := by
  have hmark := (le_add_heightAt_iff hden _ _).mpr h.high
  have hother : heightAt (rung + 1) ≤ heightAt other := strictMono_heightAt.monotone hlt
  have hself : heightAt rung < heightAt other := strictMono_heightAt hlt
  have hfar : |ofUnits num den - heightAt other| = heightAt other - ofUnits num den := by
    rw [abs_sub_comm]
    exact abs_of_nonneg (by linarith)
  rw [hfar]
  constructor
  · rw [abs_le]
    constructor <;> linarith
  · intro hequal
    by_contra hodd
    have hstrict := not_le.mpr (h.odd (by omega)).2
    rw [← add_heightAt_le_iff hden, not_le] at hstrict
    have hcloser : |ofUnits num den - heightAt rung| < heightAt other - ofUnits num den := by
      rw [abs_lt]
      constructor <;> linarith
    exact hcloser.ne hequal.symm

/-- Infinity begins at the threshold. -/
theorem RoundsTo.top_le_iff (hden : 0 < den) (h : RoundsTo num den rung) :
    topRung ≤ rung ↔ overflowThreshold ≤ ofUnits num den := by
  have htop := heightAt_pred_add_top
  constructor
  · intro hle
    have hmark := (add_heightAt_le_iff hden _ _).mpr h.low
    have hpred : heightAt (topRung - 1) ≤ heightAt (rung - 1) :=
      strictMono_heightAt.monotone (by omega)
    have hself : heightAt topRung ≤ heightAt rung := strictMono_heightAt.monotone hle
    linarith
  · intro hle
    by_contra hlt
    have hmark := (le_add_heightAt_iff hden _ _).mpr h.high
    have hself : heightAt rung ≤ heightAt (topRung - 1) := strictMono_heightAt.monotone (by omega)
    have hnext : heightAt (rung + 1) ≤ heightAt topRung := strictMono_heightAt.monotone (by omega)
    -- The threshold itself would be the upper mark of the last rung, which is odd.
    have hlast : rung = topRung - 1 := by
      have hheight : heightAt rung = heightAt (topRung - 1) := by linarith
      exact strictMono_heightAt.injective hheight
    subst hlast
    have hstrict := not_le.mpr (h.odd (by decide)).2
    rw [← add_heightAt_le_iff hden, not_le] at hstrict
    have hsucc : topRung - 1 + 1 = topRung := rfl
    rw [hsucc] at hstrict
    linarith

/-- **The rung that a number rounds to is the nearest one.** -/
theorem RoundsTo.isNearest (hden : 0 < den) (h : RoundsTo num den rung) :
    IsNearest (ofUnits num den) (.ofRung rung) := by
  have hinfinite : Magnitude.ofRung rung = .infinite ↔ topRung ≤ rung := by
    rw [Magnitude.ext_iff, Magnitude.rung_ofRung, Magnitude.rung_infinite]
    exact min_eq_right_iff
  have hfinite : Magnitude.ofRung rung ≠ .infinite → (Magnitude.ofRung rung).rung = rung := by
    intro hne
    exact Nat.min_eq_left (Nat.le_of_not_le (hinfinite.not.mp hne))
  have hother : ∀ other, other ≠ rung →
      |ofUnits num den - heightAt rung| ≤ |ofUnits num den - heightAt other| ∧
        (|ofUnits num den - heightAt other| = |ofUnits num den - heightAt rung| →
          rung % 2 = 0) := by
    intro other hne
    rcases Nat.lt_or_gt_of_ne hne with hlt | hgt
    · exact h.abs_le_of_lt hden hlt
    · exact h.abs_le_of_gt hden hgt
  constructor
  · rw [hinfinite, h.top_le_iff hden]
  · intro hne n _
    rw [Magnitude.toRat, Magnitude.toRat, hfinite hne]
    by_cases hn : n.rung = rung
    · rw [hn]
    · exact (hother n.rung hn).1
  · intro hne n _ hn hequal
    have hrung : n.rung ≠ rung := fun hr ↦ hn (Magnitude.ext (hr.trans (hfinite hne).symm))
    rw [Magnitude.toRat, Magnitude.toRat, hfinite hne] at hequal
    rw [hfinite hne]
    exact (hother n.rung hrung).2 hequal

/-- **Rounding finds the nearest magnitude.** -/
theorem isNearest_nearest (num : ℕ) (hden : 0 < den) :
    IsNearest (ofUnits num den) (.nearest num den) := by
  rw [nearest_eq]
  exact (roundsTo_nearestRung num hden).isNearest hden

end

/-! ## Numbers that vanish -/

/-- Zero is nearest to whatever is not above half of the smallest positive number. -/
theorem IsNearest.eq_zero_iff {q : ℚ} {m : Magnitude} (hq : 0 ≤ q) (h : IsNearest q m) :
    m = .zero ↔ q ≤ underflowThreshold := by
  have hfirst := heightAt_zero_add_one
  have hzero : Magnitude.zero.toRat = 0 := heightAt_zero
  have hone : (Magnitude.ofRung 1).toRat = heightAt 1 := rfl
  rw [heightAt_zero, zero_add] at hfirst
  constructor
  · rintro rfl
    have hle := h.abs_le (by decide) (.ofRung 1) (by decide)
    have hpositive : heightAt 0 < heightAt 1 := strictMono_heightAt Nat.one_pos
    rw [hzero, hone, sub_zero, abs_of_nonneg hq] at hle
    rw [heightAt_zero] at hpositive
    by_contra hlt
    have hcloser : |q - heightAt 1| < q := by
      rw [abs_lt]
      constructor <;> linarith
    exact absurd hle (not_le.mpr hcloser)
  · intro hsmall
    by_contra hne
    have hrung : 0 < m.rung := Nat.pos_of_ne_zero fun hm ↦ hne (Magnitude.ext hm)
    have hheight : heightAt 1 ≤ m.toRat := strictMono_heightAt.monotone hrung
    have hfinite : m ≠ .infinite := by
      intro hm
      have hlarge := h.infinite_iff.mp hm
      exact absurd (hlarge.trans hsmall) (not_le.mpr underflowThreshold_lt_overflowThreshold)
    have hle := h.abs_le hfinite .zero (by decide)
    rw [hzero, sub_zero, abs_of_nonneg hq, abs_sub_comm, abs_of_nonneg (by linarith)] at hle
    -- Then the magnitude is the smallest positive one, as far away as zero, and on an odd rung.
    have hsmallest : m.toRat = heightAt 1 := by linarith
    have hodd : m.rung = 1 := strictMono_heightAt.injective hsmallest
    have heven := h.even hfinite .zero (by decide) (Ne.symm hne) (by
      rw [hzero, sub_zero, abs_of_nonneg hq, abs_sub_comm, abs_of_nonneg (by linarith)]
      linarith)
    omega

end Binary64

end TurtleScript
