import TurtleScript.Proofs.Decimal.Fewest

/-!
# Significant digits

The significant digits of a spelled decimal are those from the first to the last that is not zero,
wherever the point stands and whatever the exponent is (`DecimalSpelling.significant`). They are the
digits of a decimal of the same value (`DecimalSpelling.exists_toRat`), and there is only one such
decimal whose last digit is not zero (`Decimal.eq_of_toRat_eq`).

So a spelling of the shortest decimal of a magnitude has the fewest significant digits that any
spelling that rounds to this magnitude can have, and of those with as few it is the closest
(`IsCoarsest.length_significant_le`, `IsCoarsest.abs_quantity_le`).
-/

namespace TurtleScript

open Binary64

/-! ## Rows of digits -/

namespace DigitRow

theorem value_singleton (digit : Fin 10) : value [digit] = digit := Nat.ofDigits_singleton

theorem value_lt (row : DigitRow) : row.value < 10 ^ row.length := by
  have hlength : (row.map Fin.val).reverse.length = row.length := by
    rw [List.length_reverse, List.length_map]
  have hdigits : ∀ n ∈ (row.map Fin.val).reverse, n < 10 := by
    intro n hn
    obtain ⟨digit, -, rfl⟩ := List.mem_map.mp (List.mem_reverse.mp hn)
    exact digit.isLt
  rw [← hlength]
  exact Nat.ofDigits_lt_base_pow_length (by decide) hdigits

theorem value_cons (digit : Fin 10) (row : DigitRow) :
    value (digit :: row) = digit * 10 ^ row.length + row.value := by
  rw [← List.singleton_append, DecimalSpelling.value_append, value_singleton]

theorem value_concat (row : DigitRow) (digit : Fin 10) :
    value (row ++ [digit]) = row.value * 10 + digit := by
  rw [DecimalSpelling.value_append, value_singleton, List.length_singleton, Nat.pow_one]

/-- The digits from the first to the last that is not zero. -/
def significant (row : DigitRow) : DigitRow := (row.dropWhile (·.val = 0)).rdropWhile (·.val = 0)

theorem value_dropWhile (row : DigitRow) : value (row.dropWhile (·.val = 0)) = row.value := by
  induction row with
  | nil => rfl
  | cons digit row ih =>
    rw [List.dropWhile_cons]
    split
    next hzero =>
      rw [decide_eq_true_iff] at hzero
      rw [ih, value_cons, hzero, Nat.zero_mul, Nat.zero_add]
    next => rfl

theorem exists_value_rdropWhile (row : DigitRow) :
    ∃ k, row.value = value (row.rdropWhile (·.val = 0)) * 10 ^ k := by
  induction row using List.reverseRecOn with
  | nil => exact ⟨0, rfl⟩
  | append_singleton row digit ih =>
    rw [List.rdropWhile_concat]
    split
    next hzero =>
      rw [decide_eq_true_iff] at hzero
      obtain ⟨k, hk⟩ := ih
      refine ⟨k + 1, ?_⟩
      rw [value_concat, hzero, Nat.add_zero, hk, Nat.pow_succ, Nat.mul_assoc]
    next => exact ⟨0, by rw [Nat.pow_zero, Nat.mul_one]⟩

/-- The other digits only move the significant ones to their place. -/
theorem exists_value_significant (row : DigitRow) :
    ∃ k, row.value = row.significant.value * 10 ^ k := by
  obtain ⟨k, hk⟩ := exists_value_rdropWhile (row.dropWhile (·.val = 0))
  exact ⟨k, by rw [← value_dropWhile, hk, significant]⟩

theorem head_significant_ne_zero {row rest : DigitRow} {digit : Fin 10}
    (h : row.significant = digit :: rest) : digit.val ≠ 0 := by
  obtain ⟨more, hmore⟩ : digit :: rest <+: row.dropWhile (·.val = 0) :=
    h ▸ List.rdropWhile_prefix _ _
  have hhead := List.head?_dropWhile_not (fun digit : Fin 10 ↦ decide (digit.val = 0)) row
  rw [← hmore] at hhead
  simpa using hhead

/-- Significant digits begin with a digit that counts. -/
theorem pow_le_value_significant {row : DigitRow} {k : ℕ} (h : row.significant.length = k + 1) :
    10 ^ k ≤ row.significant.value := by
  obtain ⟨digit, rest, hrow⟩ := List.exists_cons_of_length_eq_add_one h
  have hdigit : 0 < digit.val := Nat.pos_of_ne_zero (head_significant_ne_zero hrow)
  rw [hrow, List.length_cons, Nat.add_right_cancel_iff] at h
  rw [hrow, value_cons, h]
  exact (Nat.le_mul_of_pos_left _ hdigit).trans (Nat.le_add_right _ _)

/-- Significant digits end in a digit that counts. -/
theorem value_significant_mod_ten {row : DigitRow} (h : row.significant ≠ []) :
    row.significant.value % 10 ≠ 0 := by
  have hlast := List.rdropWhile_last_not (fun digit : Fin 10 ↦ decide (digit.val = 0))
    (row.dropWhile (·.val = 0)) h
  have hconcat := List.dropLast_append_getLast h
  rw [← hconcat, value_concat, Nat.mul_add_mod_self_right, Nat.mod_eq_of_lt (Fin.isLt _)]
  intro hzero
  exact hlast (decide_eq_true hzero)

end DigitRow

/-! ## Decimals without zeros at the end -/

namespace Decimal

theorem exponent_le_of_toRat_eq {c d : Decimal} (hc : c.significand % 10 ≠ 0)
    (h : c.toRat = d.toRat) : d.exponent ≤ c.exponent := by
  by_contra hlt
  obtain ⟨k, hk⟩ : ∃ k : ℕ, d.exponent = k + 1 + c.exponent :=
    ⟨(d.exponent - c.exponent - 1).toNat, by omega⟩
  have hpower : (10 : ℚ) ^ d.exponent = 10 ^ (k + 1) * 10 ^ c.exponent := by
    rw [hk, zpow_add₀ (by norm_num)]
    exact_mod_cast rfl
  have hdigits : c.significand = d.significand * 10 ^ (k + 1) := by
    rw [toRat, toRat, hpower, ← mul_assoc, mul_left_inj' (by positivity)] at h
    exact_mod_cast h
  rw [hdigits, Nat.pow_succ, ← Nat.mul_assoc, Nat.mul_mod_left] at hc
  exact hc rfl

/-- A decimal that does not end in a zero is determined by its value. -/
theorem eq_of_toRat_eq {c d : Decimal} (hc : c.significand % 10 ≠ 0) (hd : d.significand % 10 ≠ 0)
    (h : c.toRat = d.toRat) : c = d := by
  obtain ⟨c, e⟩ := c
  obtain ⟨d, f⟩ := d
  obtain rfl : e = f :=
    le_antisymm (exponent_le_of_toRat_eq hd h.symm) (exponent_le_of_toRat_eq hc h)
  rw [toRat, toRat, mul_left_inj' (by positivity), Nat.cast_inj] at h
  rw [mk.injEq]
  exact ⟨h, rfl⟩

end Decimal

/-! ## Spelled decimals -/

namespace DecimalSpelling

/-- The significant digits of a spelled decimal. -/
def significant (d : DecimalSpelling) : DigitRow := DigitRow.significant (d.whole ++ d.places)

/-- What is spelled is the significant digits with some power of ten. -/
theorem exists_toRat (d : DecimalSpelling) :
    ∃ e : ℤ, Decimal.toRat ⟨d.significant.value, e⟩ = d.quantity := by
  obtain ⟨k, hk⟩ := DigitRow.exists_value_significant (d.whole ++ d.places)
  have hcast : ((DigitRow.value (d.whole ++ d.places) : ℕ) : ℚ) =
      d.significant.value * 10 ^ k := by
    exact_mod_cast hk
  refine ⟨k + (d.power - d.places.length), ?_⟩
  rw [← toRat_toDecimal, toDecimal, Decimal.toRat, Decimal.toRat, hcast, zpow_add₀ (by norm_num),
    zpow_natCast, mul_assoc]

end DecimalSpelling

namespace Binary64.IsCoarsest

variable {m : Magnitude} {d : Decimal} {s other : DecimalSpelling}

/-- The significant digits of the shortest decimal are its digits, as many as it has. -/
theorem exists_pow_le_significand (hrung : m.rung ≠ 0) (hd : IsCoarsest m d)
    (hs : s.quantity = d.toRat) : ∃ k, s.significant.length = k + 1 ∧ 10 ^ k ≤ d.significand := by
  obtain ⟨e, he⟩ := s.exists_toRat
  have hnearest : IsNearest (Decimal.toRat ⟨s.significant.value, e⟩) m := by
    rw [he, hs]
    exact hd.nearest
  have hne : s.significant ≠ [] := by
    intro hnil
    have hpositive : 0 < s.significant.value := hnearest.significand_pos hrung
    rw [hnil] at hpositive
    exact absurd hpositive (by decide)
  -- Neither ends in a zero, and they have one value.
  have hsame : (⟨s.significant.value, e⟩ : Decimal) = d :=
    Decimal.eq_of_toRat_eq (DigitRow.value_significant_mod_ten hne) hd.mod_ten_ne_zero
      (he.trans hs)
  obtain ⟨k, hk⟩ := Nat.exists_eq_add_one.mpr (List.length_pos_iff.mpr hne)
  rw [← hsame]
  exact ⟨k, hk, DigitRow.pow_le_value_significant hk⟩

/-- **No spelling has fewer significant digits.** -/
theorem length_significant_le (hm : m ≠ .infinite) (hrung : m.rung ≠ 0) (hd : IsCoarsest m d)
    (hs : s.quantity = d.toRat) (hother : IsNearest other.quantity m) :
    s.significant.length ≤ other.significant.length := by
  obtain ⟨k, hlength, hdigits⟩ := hd.exists_pow_le_significand hrung hs
  obtain ⟨e, he⟩ := other.exists_toRat
  rw [← he] at hother
  rw [hlength]
  exact hd.lt_of_lt_pow hm hrung hother hdigits (DigitRow.value_lt _)

/-- **No spelling with as few significant digits is closer.** -/
theorem abs_quantity_le (hm : m ≠ .infinite) (hrung : m.rung ≠ 0) (hd : IsCoarsest m d)
    (hs : s.quantity = d.toRat) (hother : IsNearest other.quantity m)
    (hlength : other.significant.length = s.significant.length) :
    |s.quantity - m.toRat| ≤ |other.quantity - m.toRat| := by
  obtain ⟨k, hlength', hdigits⟩ := hd.exists_pow_le_significand hrung hs
  obtain ⟨e, he⟩ := other.exists_toRat
  have hlt := DigitRow.value_lt other.significant
  rw [hlength, hlength'] at hlt
  rw [← he] at hother ⊢
  rw [hs]
  exact hd.abs_le_of_lt_pow hm hrung hother hdigits hlt

end Binary64.IsCoarsest

end TurtleScript
