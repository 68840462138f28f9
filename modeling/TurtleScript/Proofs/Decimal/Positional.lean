import TurtleScript.Proofs.Decimal.LogText
import TurtleScript.Proofs.Decimal.Significant

/-!
# Plain positional notation

A number is written in digits with a point among them where one is needed: without an exponent,
without a zero in front that could be left out, and without a zero at the end of a fraction
(`DecimalSpelling.IsPlain`). That holds for every decimal whose last digit is not zero, and for
every whole number (`Decimal.exists_plain`).

So the text of a finite magnitude is plain, the magnitude is nearest to what it denotes, and no
spelling that rounds alike has fewer significant digits, or as few and is closer
(`exists_shortest_spelling`).
-/

namespace TurtleScript

open Binary64

/-- Plain positional notation: digits and, for a fraction, a point among them, with no zero that
could be left out. -/
structure DecimalSpelling.IsPlain (d : DecimalSpelling) : Prop where
  /-- There is no exponent. -/
  exponent_eq : d.exponent = none
  /-- There are digits in front of the point. -/
  whole_ne_nil : d.whole ≠ []
  /-- They begin with a zero only if that is all. -/
  no_leading_zero : ∀ digit rest, d.whole = digit :: rest → digit.val = 0 → rest = []
  /-- There are digits behind the point, if there is one, and the last of them is not zero. -/
  no_trailing_zero : ∀ places, d.fraction = some places →
    ∃ others digit, places = others ++ [digit] ∧ digit.val ≠ 0

namespace Decimal

/-- Whole numbers are written without leading zeros. -/
theorem eq_nil_of_toDigits {digit : Fin 10} {rest : DigitRow} {n : ℕ}
    (h : DigitRow.chars (digit :: rest) = Nat.toDigits 10 n) (hzero : digit.val = 0) :
    rest = [] := by
  by_contra hne
  have hvalue : n = rest.value := by
    rw [← ofDigits_toDigits n, ← h, DigitRow.ofDigits_chars, DigitRow.value_cons, hzero,
      Nat.zero_mul, Nat.zero_add]
  have hlength : (Nat.toDigits 10 n).length ≤ rest.length := by
    rw [Nat.length_toDigits_le_iff (by decide) (List.length_pos_iff.mpr hne), hvalue]
    exact rest.value_lt
  rw [← h, DigitRow.length_chars, List.length_cons] at hlength
  omega

/-- The last place of a fraction is the last digit. -/
theorem exists_last_place {d : Decimal} (h : d.exponent < 0) (hlast : d.significand % 10 ≠ 0)
    {places : DigitRow} (hvalue : places.value = d.numerator % d.denominator)
    (hlength : places.length = (-d.exponent).toNat) :
    ∃ others digit, places = others ++ [digit] ∧ digit.val ≠ 0 := by
  obtain ⟨k, hk⟩ : ∃ k, (-d.exponent).toNat = k + 1 := ⟨(-d.exponent).toNat - 1, by omega⟩
  have hne : places ≠ [] := by
    rintro rfl
    rw [hk] at hlength
    cases hlength
  obtain ⟨others, digit, rfl⟩ : ∃ others digit, places = others ++ [digit] :=
    ⟨_, _, (List.dropLast_append_getLast hne).symm⟩
  -- A zero at the end of the fraction would be one at the end of all digits.
  refine ⟨others, digit, rfl, fun hzero ↦ hlast ?_⟩
  have hnumerator : d.numerator = d.significand := by
    have hzero : d.exponent.toNat = 0 := by omega
    rw [numerator, hzero, Nat.pow_zero, Nat.mul_one]
  have hdvd : 10 ∣ d.denominator := by
    rw [denominator, hk, Nat.pow_succ]
    exact Nat.dvd_mul_left _ _
  rw [← hnumerator, ← Nat.mod_mod_of_dvd _ hdvd, ← hvalue, DigitRow.value_concat, hzero,
    Nat.add_zero, Nat.mul_mod_left]

/-- **Decimals are written plainly,** if a fraction does not end in a zero. -/
theorem exists_plain {d : Decimal} (hlast : d.exponent < 0 → d.significand % 10 ≠ 0) :
    ∃ s : DecimalSpelling, s.chars = d.positional ∧ s.quantity = d.toRat ∧ s.IsPlain := by
  by_cases hfraction : d.exponent < 0
  · obtain ⟨s, hchars, hquantity, hexponent, hwhole, places, hplaces, hvalue, hlength⟩ :=
      exists_positional hfraction
    refine ⟨s, hchars, hquantity, hexponent, ?_, ?_, ?_⟩
    · intro hnil
      rw [hnil] at hwhole
      exact Nat.toDigits_ne_nil hwhole.symm
    · intro digit rest hdigits hzero
      rw [hdigits] at hwhole
      exact eq_nil_of_toDigits hwhole hzero
    · intro digits hdigits
      obtain rfl : places = digits := Option.some.inj (hplaces.symm.trans hdigits)
      exact exists_last_place hfraction (hlast hfraction) hvalue hlength
  · have hplaces : (-d.exponent).toNat = 0 := by omega
    have hdenominator : d.denominator = 1 := by rw [denominator, hplaces, Nat.pow_zero]
    obtain ⟨whole, hchars, hvalue, hne⟩ := DigitRow.exists_toDigits d.numerator
    refine ⟨⟨whole, none, none, by simp [hne]⟩, ?_, ?_, rfl, hne, ?_, ?_⟩
    · rw [positional, if_pos hplaces, hdenominator, Nat.div_one, ← hchars]
      rfl
    · change ((whole.value : ℚ) + ((0 : ℕ) : ℚ) / 10 ^ 0) * 10 ^ (0 : ℤ) = d.toRat
      rw [hvalue, Nat.cast_zero, zero_div, add_zero, zpow_zero, mul_one,
        ← d.numerator_div_denominator, hdenominator, Nat.cast_one, div_one]
    · rintro digit rest rfl hzero
      exact eq_nil_of_toDigits hchars hzero
    · rintro places ⟨⟩

end Decimal

namespace Binary64

variable {m : Magnitude}

/-- Zero has no significant digits. -/
theorem exists_spelling_zero : ∃ s : DecimalSpelling, s.chars = Magnitude.zero.shortest.positional ∧
    s.IsPlain ∧ s.quantity = 0 ∧ s.significant = [] := by
  refine ⟨⟨[0], none, none, by decide⟩, by decide, ⟨rfl, by decide, ?_, ?_⟩, ?_, by decide⟩
  · rintro _ rest ⟨⟩ -
    rfl
  · rintro places ⟨⟩
  · change (((0 : ℕ) : ℚ) + ((0 : ℕ) : ℚ) / 10 ^ 0) * 10 ^ (0 : ℤ) = 0
    norm_num

/-- **Magnitudes are written with the fewest digits.** The text of a finite magnitude is plain and
rounds to the magnitude. Whatever else is spelled so that it rounds to the magnitude has no fewer
significant digits, and if it has as few, it is not closer. -/
theorem exists_shortest_spelling (hm : m ≠ .infinite) :
    ∃ s : DecimalSpelling, s.chars = m.shortest.positional ∧ s.IsPlain ∧
      IsNearest s.quantity m ∧
      ∀ other : DecimalSpelling, IsNearest other.quantity m →
        s.significant.length ≤ other.significant.length ∧
        (other.significant.length = s.significant.length →
          |s.quantity - m.toRat| ≤ |other.quantity - m.toRat|) := by
  have hnearest := isNearest_shortest m
  by_cases hrung : m.rung = 0
  · obtain rfl : m = .zero := Magnitude.ext hrung
    obtain ⟨s, hchars, hplain, hquantity, hdigits⟩ := exists_spelling_zero
    have hzero : Magnitude.zero.toRat = 0 := heightAt_zero
    have hshortest : Magnitude.zero.shortest.toRat = 0 := by
      rw [Magnitude.shortest, if_pos hrung, Decimal.toRat, Nat.cast_zero, zero_mul]
    rw [hshortest] at hnearest
    refine ⟨s, hchars, hplain, hquantity ▸ hnearest, fun other _ ↦ ⟨?_, fun _ ↦ ?_⟩⟩
    · rw [hdigits]
      exact Nat.zero_le _
    · rw [hquantity, hzero, sub_zero, abs_zero]
      exact abs_nonneg _
  · have hcoarsest := isCoarsest_shortest hm hrung
    obtain ⟨s, hchars, hquantity, hplain⟩ :=
      Decimal.exists_plain fun _ ↦ hcoarsest.mod_ten_ne_zero
    refine ⟨s, hchars, hplain, hquantity ▸ hnearest, fun other hother ↦ ⟨?_, ?_⟩⟩
    · exact hcoarsest.length_significant_le hm hrung hquantity hother
    · exact hcoarsest.abs_quantity_le hm hrung hquantity hother

end Binary64

end TurtleScript
