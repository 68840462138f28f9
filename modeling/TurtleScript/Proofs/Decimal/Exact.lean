import TurtleScript.Proofs.Binary64.Exact
import TurtleScript.Proofs.Decimal.Spelling

/-!
# What numerals denote

A spelled decimal denotes a rational number: the whole part and the fraction, times the power of ten
that the exponent asks for (`DecimalSpelling.quantity`). Reading it as one whole number of digits
with an exponent of its own loses nothing (`toRat_toDecimal`), and the rounding that follows finds
the magnitude nearest to the rational number (`Decimal.isNearest_magnitude`). So a token is read as
the number nearest to what it denotes, if it is the spelling of a numeral, and not at all otherwise
(`ofText?_eq_some_iff`).
-/

namespace TurtleScript

open Binary64

namespace Decimal

/-- The exact value of a decimal. -/
def toRat (d : Decimal) : ℚ := d.significand * 10 ^ d.exponent

/-- Numerator and denominator are those of the exact value. -/
theorem numerator_div_denominator (d : Decimal) : (d.numerator : ℚ) / d.denominator = d.toRat := by
  have hnumerator : (d.numerator : ℚ) = d.significand * 10 ^ d.exponent.toNat := by
    exact_mod_cast rfl
  have hdenominator : (d.denominator : ℚ) = 10 ^ (-d.exponent).toNat := by exact_mod_cast rfl
  rw [hnumerator, hdenominator, toRat, mul_div_assoc, ← zpow_natCast, ← zpow_natCast,
    ← zpow_sub₀ (by norm_num), Int.toNat_sub_toNat_neg]

/-- **Decimals are rounded to the nearest magnitude.** -/
theorem isNearest_magnitude (d : Decimal) : IsNearest d.toRat d.magnitude := by
  have hunits : ofUnits (d.numerator * 2 ^ oneExponent) d.denominator = d.toRat := by
    have hcast : ((d.numerator * 2 ^ oneExponent : ℕ) : ℚ) = d.numerator * 2 ^ oneExponent := by
      exact_mod_cast rfl
    rw [ofUnits, hcast, mul_div_right_comm, mul_div_assoc, div_self (by positivity), mul_one,
      numerator_div_denominator]
  rw [magnitude_eq_exactMagnitude, ← hunits]
  exact isNearest_nearest _ d.denominator_pos

end Decimal

/-- A magnitude is nearest to its shortest decimal. -/
theorem Binary64.isNearest_shortest (m : Magnitude) : IsNearest m.shortest.toRat m := by
  have h := m.shortest.isNearest_magnitude
  rwa [Decimal.magnitude_eq_exactMagnitude, exactMagnitude_shortest] at h

namespace DecimalSpelling

/-- The rational number that a decimal without its sign denotes. -/
def quantity (d : DecimalSpelling) : ℚ :=
  (d.whole.value + d.places.value / 10 ^ d.places.length) * 10 ^ d.power

theorem quantity_nonneg (d : DecimalSpelling) : 0 ≤ d.quantity := by
  rw [quantity]
  exact mul_nonneg (by positivity) (zpow_nonneg (by norm_num) d.power)

theorem value_append (a b : DigitRow) :
    DigitRow.value (a ++ b) = a.value * 10 ^ b.length + b.value := by
  rw [← DigitRow.ofDigits_chars, DigitRow.chars_append, Decimal.ofDigits_append,
    DigitRow.ofDigits_chars, DigitRow.ofDigits_chars, DigitRow.length_chars]

/-- Digits and exponent together denote the same number. -/
theorem toRat_toDecimal (d : DecimalSpelling) : d.toDecimal.toRat = d.quantity := by
  have hvalue : ((DigitRow.value (d.whole ++ d.places) : ℕ) : ℚ) =
      d.whole.value * 10 ^ d.places.length + d.places.value := by
    exact_mod_cast value_append d.whole d.places
  rw [toDecimal, Decimal.toRat, hvalue, zpow_sub₀ (by norm_num), zpow_natCast, quantity]
  field_simp

end DecimalSpelling

namespace Spelling

/-- A number is what a numeral gives: the nearest one, in the sign of the numeral. -/
def Gives (s : Spelling) (x : Binary64) : Prop :=
  match s.unsigned with
  | .nan _ _ => x = .nan
  | .infinity _ _ => x = .signed s.sign.isMinus .infinite
  | .decimal d => ∃ m, x = .signed s.sign.isMinus m ∧ IsNearest d.quantity m

theorem gives_value (s : Spelling) : s.Gives s.toNumeral.value := by
  rw [Gives, toNumeral]
  cases s.unsigned with
  | nan word h => rfl
  | infinity word h => rfl
  | decimal d =>
    refine ⟨d.toDecimal.magnitude, rfl, ?_⟩
    rw [← d.toRat_toDecimal]
    exact d.toDecimal.isNearest_magnitude

theorem Gives.unique {s : Spelling} {x y : Binary64} (hx : s.Gives x) (hy : s.Gives y) :
    x = y := by
  rw [Gives] at hx hy
  cases hs : s.unsigned with
  | nan word h =>
    rw [hs] at hx hy
    exact hx.trans hy.symm
  | infinity word h =>
    rw [hs] at hx hy
    exact hx.trans hy.symm
  | decimal d =>
    rw [hs] at hx hy
    obtain ⟨m, rfl, hm⟩ := hx
    obtain ⟨n, rfl, hn⟩ := hy
    rw [hm.unique hn]

theorem toList_text (s : Spelling) : s.text.toList = s.chars := String.toList_ofList

/-- A spelling is read as what it gives. -/
theorem ofText?_text (s : Spelling) : ∃ x, ofText? s.text = some x ∧ s.Gives x := by
  refine ⟨s.toNumeral.value, ?_, s.gives_value⟩
  rw [ofText?, toList_text, Numeral.ofChars?_chars, Option.map_some]

end Spelling

/-- **A token is read as what it spells,** and not at all if it spells nothing. -/
theorem Binary64.ofText?_eq_some_iff {token : String} {x : Binary64} :
    ofText? token = some x ↔ ∃ s : Spelling, s.text = token ∧ s.Gives x := by
  constructor
  · intro h
    obtain ⟨n, hn, -⟩ := Option.map_eq_some_iff.mp h
    obtain ⟨s, hs⟩ := Numeral.exists_spelling hn
    have htext : s.text = token := by rw [Spelling.text, hs, String.ofList_toList]
    obtain ⟨y, hy, hgives⟩ := s.ofText?_text
    rw [htext, h, Option.some.injEq] at hy
    exact ⟨s, htext, hy ▸ hgives⟩
  · rintro ⟨s, rfl, hx⟩
    obtain ⟨y, hy, hgives⟩ := s.ofText?_text
    rw [hy, hgives.unique hx]

theorem Binary64.ofText?_eq_none_iff {token : String} :
    ofText? token = none ↔ ∀ s : Spelling, s.text ≠ token := by
  constructor
  · rintro h s rfl
    obtain ⟨x, hx, -⟩ := s.ofText?_text
    rw [h] at hx
    cases hx
  · intro h
    rw [Option.eq_none_iff_forall_ne_some]
    intro x hx
    obtain ⟨s, hs, -⟩ := ofText?_eq_some_iff.mp hx
    exact h s hs

end TurtleScript
