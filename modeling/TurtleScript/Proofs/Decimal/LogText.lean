import TurtleScript.Proofs.Decimal.Exact

/-!
# Numbers of the log are read back

The log writes numbers in a way of its own, now and then in scientific notation, but what it writes
is the spelling of a numeral. Digits, point and exponent together denote the same rational number
as the decimal that is written (`Decimal.spelledBy_logDecimal`). This decimal rounds back to the
number, so every number of the log is read as what it was (`Binary64.ofText?_logText`).
-/

namespace TurtleScript

open Binary64

/-! ## Rows of digits -/

namespace DigitRow

/-- Digits with a value are a row with that value. -/
theorem exists_of_ofDigits {cs : List Char} (h : ∀ c ∈ cs, c.isDigit = true) {n : ℕ}
    (hn : Numeral.ofDigits cs = n) : ∃ digits : DigitRow, digits.chars = cs ∧ digits.value = n := by
  obtain ⟨digits, rfl⟩ := exists_chars h
  exact ⟨digits, rfl, by rw [← ofDigits_chars, hn]⟩

/-- The digits of a whole number are a row of digits. -/
theorem exists_toDigits (n : ℕ) :
    ∃ digits : DigitRow, digits.chars = Nat.toDigits 10 n ∧ digits.value = n ∧ digits ≠ [] := by
  obtain ⟨digits, hchars, hvalue⟩ :=
    exists_of_ofDigits (fun c ↦ isDigit_of_mem_toDigits) (Decimal.ofDigits_toDigits n)
  refine ⟨digits, hchars, hvalue, fun hnil ↦ ?_⟩
  rw [hnil] at hchars
  exact Nat.toDigits_ne_nil hchars.symm

end DigitRow

/-- The exponent of a scientific notation is spelled. -/
theorem ExponentSpelling.exists_exponentDigits (n : ℤ) :
    ∃ e : ExponentSpelling, e.chars = 'e' :: Decimal.exponentDigits n ∧ e.value = n := by
  obtain ⟨digits, hchars, hvalue, hne⟩ := DigitRow.exists_toDigits n.natAbs
  by_cases hn : n < 0
  · refine ⟨⟨false, .minus, digits, hne⟩, ?_, ?_⟩
    · rw [chars, hchars, Decimal.exponentDigits, if_pos hn]
      rfl
    · change -(digits.value : ℤ) = n
      omega
  · refine ⟨⟨false, .omitted, digits, hne⟩, ?_, ?_⟩
    · rw [chars, hchars, Decimal.exponentDigits, if_neg hn]
      rfl
    · change (digits.value : ℤ) = n
      omega

/-! ## Decimals -/

namespace Decimal

/-- Some characters spell a decimal without its sign, exactly. -/
def SpelledBy (d : Decimal) (cs : List Char) : Prop :=
  ∃ s : DecimalSpelling, s.chars = cs ∧ s.quantity = d.toRat

/-- Positional notation spells a fraction by the digits of its whole part and, behind the point,
those of the rest. -/
theorem exists_positional {d : Decimal} (h : d.exponent < 0) :
    ∃ s : DecimalSpelling, s.chars = d.positional ∧ s.quantity = d.toRat ∧ s.exponent = none ∧
      s.whole.chars = Nat.toDigits 10 (d.numerator / d.denominator) ∧
      ∃ places : DigitRow, s.fraction = some places ∧ places.value = d.numerator % d.denominator ∧
        places.length = (-d.exponent).toNat := by
  have hplaces : 0 < (-d.exponent).toNat := by omega
  have hlt : d.numerator % d.denominator < 10 ^ (-d.exponent).toNat :=
    Nat.mod_lt _ d.denominator_pos
  obtain ⟨whole, hwhole, hwholeValue, hne⟩ :=
    DigitRow.exists_toDigits (d.numerator / d.denominator)
  obtain ⟨places, hchars, hvalue⟩ := DigitRow.exists_of_ofDigits
    (fun c ↦ isDigit_of_mem_paddedDigits)
    (ofDigits_paddedDigits (-d.exponent).toNat (d.numerator % d.denominator))
  have hlength : places.length = (-d.exponent).toNat := by
    rw [← DigitRow.length_chars, hchars, length_paddedDigits hplaces hlt]
  refine ⟨⟨whole, some places, none, by simp [hne]⟩, ?_, ?_, rfl, hwhole, places, rfl, hvalue,
    hlength⟩
  · rw [positional, if_neg hplaces.ne', ← hwhole, ← hchars]
    simp [DecimalSpelling.chars, DecimalSpelling.tail]
  · have hdenominator : (10 : ℚ) ^ places.length = d.denominator := by
      rw [hlength]
      exact_mod_cast rfl
    have hpositive : (0 : ℚ) < d.denominator := by exact_mod_cast d.denominator_pos
    have hdivision : (d.denominator : ℚ) * (d.numerator / d.denominator : ℕ) +
        (d.numerator % d.denominator : ℕ) = d.numerator := by
      exact_mod_cast Nat.div_add_mod d.numerator d.denominator
    change ((whole.value : ℚ) + places.value / 10 ^ places.length) * 10 ^ (0 : ℤ) = d.toRat
    rw [hwholeValue, hvalue, hdenominator, zpow_zero, mul_one, ← d.numerator_div_denominator,
      ← hdivision]
    field_simp

/-- A fraction is spelled in positional notation. -/
theorem spelledBy_positional {d : Decimal} (h : d.exponent < 0) : d.SpelledBy d.positional := by
  obtain ⟨s, hchars, hquantity, -⟩ := exists_positional h
  exact ⟨s, hchars, hquantity⟩

/-- A whole number is spelled with a point and a zero behind it. -/
theorem spelledBy_positional_append {d : Decimal} (h : 0 ≤ d.exponent) :
    d.SpelledBy (d.positional ++ ['.', '0']) := by
  have hplaces : (-d.exponent).toNat = 0 := by omega
  have hdenominator : d.denominator = 1 := by rw [denominator, hplaces, Nat.pow_zero]
  obtain ⟨whole, hchars, hvalue, hne⟩ := DigitRow.exists_toDigits d.numerator
  refine ⟨⟨whole, some [0], none, by simp⟩, ?_, ?_⟩
  · rw [positional, if_pos hplaces, hdenominator, Nat.div_one, List.append_nil, ← hchars]
    rfl
  · change ((whole.value : ℚ) + ((0 : ℕ) : ℚ) / 10 ^ 1) * 10 ^ (0 : ℤ) = d.toRat
    rw [hvalue, Nat.cast_zero, zero_div, add_zero, zpow_zero, mul_one,
      ← d.numerator_div_denominator, hdenominator, Nat.cast_one, div_one]

/-- Scientific notation spells the digits as they are and the power of ten of the first. -/
theorem spelledBy_scientific (d : Decimal) : d.SpelledBy d.scientific := by
  obtain ⟨digits, hchars, hvalue, hne⟩ := DigitRow.exists_toDigits d.significand
  obtain ⟨e, hexponent, hpower⟩ := ExponentSpelling.exists_exponentDigits d.order
  obtain ⟨digit, more, rfl⟩ := List.exists_cons_of_ne_nil hne
  have hquantity : ((DigitRow.value [digit] : ℚ) + DigitRow.value more / 10 ^ more.length) *
      10 ^ e.value = d.toRat := by
    have hsignificand : (d.significand : ℚ) =
        DigitRow.value [digit] * 10 ^ more.length + DigitRow.value more := by
      rw [← hvalue]
      exact_mod_cast DecimalSpelling.value_append [digit] more
    have horder : d.order = d.exponent + more.length := by
      rw [order, ← hchars, DigitRow.length_chars, List.length_cons]
      omega
    rw [hpower, horder, toRat, hsignificand, zpow_add₀ (by norm_num), zpow_natCast]
    field_simp
  cases more with
  | nil =>
    refine ⟨⟨[digit], none, some e, by simp⟩, ?_, hquantity⟩
    rw [scientific, ← hchars]
    exact congrArg (Nat.digitChar digit :: ·) hexponent
  | cons second more =>
    refine ⟨⟨[digit], some (second :: more), some e, by simp⟩, ?_, hquantity⟩
    rw [scientific, ← hchars]
    exact congrArg
      (fun rest ↦ Nat.digitChar digit :: '.' :: (DigitRow.chars (second :: more) ++ rest)) hexponent

/-- **What the log writes of a decimal is a spelling of it.** -/
theorem spelledBy_logDecimal (d : Decimal) : d.SpelledBy (logDecimal d) := by
  rw [logDecimal]
  split
  · exact d.spelledBy_scientific
  · split
    next h => exact spelledBy_positional_append h
    next h =>
      rw [List.append_nil]
      exact spelledBy_positional (by omega)

end Decimal

namespace Binary64

/-- **Numbers of the log are read back.** -/
theorem ofText?_logText (x : Binary64) : ofText? x.logText = some x := by
  cases x with
  | nan => rfl
  | signed negative m =>
    by_cases hm : m.isInfinite = true
    · rw [Magnitude.isInfinite_iff.mp hm]
      cases negative <;> rfl
    · obtain ⟨d, hd, hquantity⟩ := m.shortest.spelledBy_logDecimal
      have hnearest : IsNearest d.quantity m := hquantity ▸ isNearest_shortest m
      rw [ofText?_eq_some_iff]
      refine ⟨⟨if negative then .minus else .omitted, .decimal d⟩, ?_, m, ?_, hnearest⟩
      · rw [logText, textWith, if_neg hm, ← hd]
        cases negative <;> rfl
      · cases negative <;> rfl

end Binary64

end TurtleScript
