import TurtleScript.Decimal.Numeral
import TurtleScript.Decimal.Printer
import TurtleScript.Proofs.Decimal.Shortest
import TurtleScript.Proofs.Text.Layout

/-!
# Numbers read back

Positional notation is exact: what it writes is read as a decimal of the same value, if not always
with the same exponent (`decimal?_positional`). With shortest decimals rounding back, every number
is read from its own text (`ofText?_text`): infinities, both zeros and NaN included, and numbers
whose text has hundreds of digits. The text can also stand as a word of a line (`isWord_text`).
-/

namespace TurtleScript

open Binary64

/-! ## Digits -/

theorem isDigit_of_mem_toDigits {n : Nat} {c : Char} (h : c ∈ Nat.toDigits 10 n) :
    c.isDigit = true := Nat.isDigit_of_mem_toDigits (by decide) (by decide) h

theorem Text.isBlank_of_isDigit {c : Char} (hc : c.isDigit = true) : isBlank c = false := by
  obtain ⟨hlow, hhigh⟩ : 48 ≤ c.toNat ∧ c.toNat ≤ 57 := Char.isDigit_iff_toNat.mp hc
  simp [isBlank, inRanges, blankRanges]
  omega

namespace Decimal

theorem isDigit_of_mem_paddedDigits {width n : Nat} {c : Char} (h : c ∈ paddedDigits width n) :
    c.isDigit = true := by
  rcases List.mem_append.mp h with h | h
  · rw [(List.mem_replicate.mp h).2]
    rfl
  · exact isDigit_of_mem_toDigits h

theorem length_paddedDigits {width n : Nat} (hwidth : 0 < width) (h : n < 10 ^ width) :
    (paddedDigits width n).length = width := by
  have hlength : (Nat.toDigits 10 n).length ≤ width :=
    (Nat.length_toDigits_le_iff (by decide) hwidth).mpr h
  rw [paddedDigits, List.length_append, List.length_replicate]
  omega

theorem ofDigits_toDigits (n : Nat) : Numeral.ofDigits (Nat.toDigits 10 n) = n :=
  Nat.ofDigitChars_ten_toDigits

theorem ofDigits_append (a b : List Char) :
    Numeral.ofDigits (a ++ b) = Numeral.ofDigits a * 10 ^ b.length + Numeral.ofDigits b := by
  rw [Numeral.ofDigits, Nat.ofDigitChars_append, Nat.ofDigitChars_eq_ofDigitChars_zero, Nat.mul_comm]
  rfl

theorem ofDigits_paddedDigits (width n : Nat) : Numeral.ofDigits (paddedDigits width n) = n := by
  have hzeros : ∀ k, Numeral.ofDigits (List.replicate k '0') = 0 := by
    intro k
    rw [Numeral.ofDigits, Nat.ofDigitChars_replicate_zero, Nat.mul_zero]
  rw [paddedDigits, ofDigits_append, hzeros, Nat.zero_mul, Nat.zero_add, ofDigits_toDigits]

/-! ## Positional notation -/

theorem splitDigits_append {digits rest : List Char} (hdigits : ∀ c ∈ digits, c.isDigit = true)
    (hrest : ∀ c, rest.head? = some c → ¬c.isDigit = true) :
    Numeral.splitDigits (digits ++ rest) = (digits, rest) := by
  rw [Numeral.splitDigits, List.takeWhile_append_of_pos hdigits,
    List.dropWhile_append_of_pos hdigits]
  cases rest with
  | nil => rw [List.takeWhile_nil, List.dropWhile_nil, List.append_nil]
  | cons c rest =>
    have hc : ¬c.isDigit = true := hrest c rfl
    rw [List.takeWhile_cons_of_neg hc, List.dropWhile_cons_of_neg hc, List.append_nil]

/-- **Positional notation is exact.** All digits are read as one whole number, and those behind the
point count as its places. -/
theorem decimal?_positional (d : Decimal) :
    Numeral.decimal? d.positional = some ⟨d.numerator, -((-d.exponent).toNat : Int)⟩ := by
  have hdenominator : d.denominator = 10 ^ (-d.exponent).toNat := rfl
  have hwhole : ∀ c ∈ Nat.toDigits 10 (d.numerator / d.denominator), c.isDigit = true :=
    fun c ↦ isDigit_of_mem_toDigits
  have hne : Nat.toDigits 10 (d.numerator / d.denominator) ≠ [] := Nat.toDigits_ne_nil
  rw [positional]
  generalize (-d.exponent).toNat = places at hdenominator ⊢
  by_cases hplaces : places = 0
  · have hone : d.denominator = 1 := by rw [hdenominator, hplaces, Nat.pow_zero]
    simp only [if_pos hplaces, Numeral.decimal?]
    rw [splitDigits_append hwhole (by simp)]
    simp [Numeral.splitFraction, Numeral.exponent?, ofDigits_toDigits, hone, hplaces]
  · have hfraction : d.numerator % d.denominator < 10 ^ places :=
      hdenominator ▸ Nat.mod_lt _ d.denominator_pos
    have hlength := length_paddedDigits (Nat.pos_of_ne_zero hplaces) hfraction
    have hdigits : Numeral.splitDigits (paddedDigits places (d.numerator % d.denominator)) =
        (paddedDigits places (d.numerator % d.denominator), []) := by
      have hpadded : ∀ c ∈ paddedDigits places (d.numerator % d.denominator), c.isDigit = true :=
        fun c ↦ isDigit_of_mem_paddedDigits
      have hnil : ∀ c, ([] : List Char).head? = some c → ¬c.isDigit = true := by simp
      have h := splitDigits_append hpadded hnil
      rwa [List.append_nil] at h
    have hvalue : Numeral.ofDigits (Nat.toDigits 10 (d.numerator / d.denominator) ++
        paddedDigits places (d.numerator % d.denominator)) = d.numerator := by
      rw [ofDigits_append, ofDigits_toDigits, hlength, ofDigits_paddedDigits, ← hdenominator,
        Nat.div_add_mod']
    simp only [if_neg hplaces, Numeral.decimal?]
    rw [splitDigits_append hwhole (by rintro c ⟨⟩; decide)]
    simp [Numeral.splitFraction, hdigits, Numeral.exponent?, hne, hvalue, hlength]

/-- What is read from positional notation has the same value. -/
theorem exactMagnitude_places (d : Decimal) :
    (⟨d.numerator, -((-d.exponent).toNat : Int)⟩ : Decimal).exactMagnitude = d.exactMagnitude := by
  have hnumerator : (⟨d.numerator, -((-d.exponent).toNat : Int)⟩ : Decimal).numerator =
      d.numerator := by
    have hzero : (-((-d.exponent).toNat : Int)).toNat = 0 := by omega
    rw [numerator, hzero, Nat.pow_zero, Nat.mul_one]
  have hdenominator : (⟨d.numerator, -((-d.exponent).toNat : Int)⟩ : Decimal).denominator =
      d.denominator := by
    rw [denominator, Int.neg_neg, Int.toNat_natCast, denominator]
  rw [exactMagnitude, hnumerator, hdenominator, exactMagnitude]

theorem exists_positional_eq_cons (d : Decimal) :
    ∃ c cs, d.positional = c :: cs ∧ c.isDigit = true := by
  cases hdigits : Nat.toDigits 10 (d.numerator / d.denominator) with
  | nil => exact absurd hdigits Nat.toDigits_ne_nil
  | cons c cs =>
    have hc : c ∈ Nat.toDigits 10 (d.numerator / d.denominator) :=
      hdigits ▸ List.mem_cons_self
    rw [positional, hdigits, List.cons_append]
    exact ⟨c, _, rfl, isDigit_of_mem_toDigits hc⟩

theorem isDigit_or_eq_point_of_mem_positional {d : Decimal} {c : Char} (h : c ∈ d.positional) :
    c.isDigit = true ∨ c = '.' := by
  rcases List.mem_append.mp h with h | h
  · exact Or.inl (isDigit_of_mem_toDigits h)
  · split at h
    next => cases h
    next =>
      rcases List.mem_cons.mp h with h | h
      · exact Or.inr h
      · exact Or.inl (isDigit_of_mem_paddedDigits h)

end Decimal

/-! ## Numerals -/

namespace Numeral

theorem splitSign_of_isDigit {c : Char} (hc : c.isDigit = true) (cs : List Char) :
    splitSign (c :: cs) = (false, c :: cs) := by
  rw [splitSign]
  · rintro rest ⟨⟩
    cases hc
  · rintro rest ⟨⟩
    cases hc

theorem toLower_of_isDigit {c : Char} (hc : c.isDigit = true) : c.toLower = c := by
  rw [Char.isDigit_iff_toNat] at hc
  have hupper : ¬(c.val ≥ 'A'.val ∧ c.val ≤ 'Z'.val) := by
    rintro ⟨h, -⟩
    have h : 'A'.toNat ≤ c.toNat := h
    exact absurd (h.trans hc.2) (by decide)
  exact dif_neg hupper

/-- Digits behind an optional minus sign are no word. -/
theorem ofChars?_digits (negative : Bool) {c : Char} (hc : c.isDigit = true) (cs : List Char) :
    ofChars? ((if negative then ['-'] else []) ++ c :: cs) =
      (decimal? (c :: cs)).map (decimal negative) := by
  have hsign : splitSign ((if negative then ['-'] else []) ++ c :: cs) = (negative, c :: cs) := by
    cases negative with
    | false => exact splitSign_of_isDigit hc cs
    | true => rfl
  have hn : c ≠ 'n' := by
    rintro rfl
    cases hc
  have hi : c ≠ 'i' := by
    rintro rfl
    cases hc
  rw [ofChars?, hsign]
  simp [toLower_of_isDigit hc, hn, hi]

end Numeral

namespace Binary64

/-- **Numbers are read back.** Every number is what its text says: signs of zeros are kept, and no
finite number is read as infinity or as a neighbour. -/
theorem ofText?_text (x : Binary64) : ofText? x.text = some x := by
  cases x with
  | nan => rfl
  | signed negative m =>
    rw [ofText?, text, textWith, String.toList_ofList]
    by_cases hm : m.isInfinite = true
    · rw [if_pos hm, Magnitude.isInfinite_iff.mp hm]
      cases negative <;> rfl
    · obtain ⟨c, cs, hdigits, hc⟩ := m.shortest.exists_positional_eq_cons
      rw [if_neg hm, hdigits, Numeral.ofChars?_digits negative hc, ← hdigits,
        Decimal.decimal?_positional]
      rw [Option.map_some, Option.map_some, Numeral.value, Decimal.magnitude_eq_exactMagnitude,
        Decimal.exactMagnitude_places, exactMagnitude_shortest]

/-- The text of a number is one word. -/
theorem isWord_text (x : Binary64) : Text.IsWord x.text.toList := by
  cases x with
  | nan => exact Text.isWord_of_all (by decide) (by decide)
  | signed negative m =>
    rw [text, textWith, String.toList_ofList]
    have hsign : ∀ c ∈ (if negative then ['-'] else []), Text.isBlank c = false := by
      intro c hc
      obtain ⟨-, rfl⟩ : negative = true ∧ c = '-' := by simpa using hc
      decide
    by_cases hm : m.isInfinite = true
    · rw [if_pos hm]
      cases negative <;> exact Text.isWord_of_all (by decide) (by decide)
    · rw [if_neg hm]
      obtain ⟨c, cs, hdigits, -⟩ := m.shortest.exists_positional_eq_cons
      refine ⟨by simp [hdigits], fun c hc ↦ ?_⟩
      rcases List.mem_append.mp hc with hc | hc
      · exact hsign c hc
      · rcases Decimal.isDigit_or_eq_point_of_mem_positional hc with hc | rfl
        · exact Text.isBlank_of_isDigit hc
        · decide

end Binary64

end TurtleScript
