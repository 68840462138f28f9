import Mathlib
import TurtleScript.Proofs.Decimal.RoundTrip

/-!
# How numerals are spelled

A numeral is spelled as a sign, if wanted, and behind it one of the words for infinity and NaN or a
decimal: digits, perhaps with a point among or around them, and perhaps with an exponent
(`Spelling`). What is spelled is a structure here, so the only condition left is that there are
digits where digits have to be.

Reading accepts just what can be spelled. Every spelling is read as the numeral that it spells
(`ofChars?_chars`), and whatever is read has a spelling (`exists_spelling`).
-/

namespace TurtleScript

/-! ## Signs and digits -/

/-- A sign, or none. -/
inductive Sign where
  | omitted
  | plus
  | minus
  deriving DecidableEq

namespace Sign

/-- A sign as it is written. -/
def chars : Sign → List Char
  | omitted => []
  | plus => ['+']
  | minus => ['-']

/-- Whether a sign is a minus sign. -/
def isMinus : Sign → Bool
  | minus => true
  | _ => false

end Sign

/-- A row of digits, the one worth most in front. -/
abbrev DigitRow := List (Fin 10)

namespace DigitRow

/-- Digits as they are written. -/
def chars (digits : DigitRow) : List Char := digits.map fun digit : Fin 10 ↦ Nat.digitChar digit.val

/-- The whole number that digits write. -/
def value (digits : DigitRow) : ℕ := Nat.ofDigits 10 (digits.map Fin.val).reverse

end DigitRow

/-! ## Spellings -/

/-- Letters that are those of a word, each of them small or capital. -/
def InAnyCase (word : String) (cs : List Char) : Prop :=
  List.Forall₂ (fun c letter ↦ c = letter ∨ c = letter.toUpper) cs word.toList

/-- An exponent behind a number. -/
structure ExponentSpelling where
  /-- Whether the letter in front is a capital. -/
  capital : Bool
  /-- The sign of the exponent. -/
  sign : Sign
  /-- Its digits. -/
  digits : DigitRow
  /-- There are some. -/
  digits_ne_nil : digits ≠ []

/-- A decimal number without its sign. -/
structure DecimalSpelling where
  /-- The digits of the whole part. -/
  whole : DigitRow
  /-- The digits behind the point, if there is one. -/
  fraction : Option DigitRow
  /-- The exponent, if there is one. -/
  exponent : Option ExponentSpelling
  /-- There are digits in front of the point or behind it. -/
  digits_ne_nil : whole ++ fraction.getD [] ≠ []

/-- A number without its sign. -/
inductive UnsignedSpelling where
  /-- The word for NaN. -/
  | nan (word : List Char) (hword : InAnyCase "nan" word)
  /-- One of the words for infinity. -/
  | infinity (word : List Char) (hword : InAnyCase "inf" word ∨ InAnyCase "infinity" word)
  /-- A decimal number. -/
  | decimal (d : DecimalSpelling)

/-- A numeral. -/
structure Spelling where
  /-- Its sign. -/
  sign : Sign
  /-- What stands behind the sign. -/
  unsigned : UnsignedSpelling

/-! ## What is written -/

/-- An exponent as it is written. -/
def ExponentSpelling.chars (e : ExponentSpelling) : List Char :=
  (if e.capital then 'E' else 'e') :: (e.sign.chars ++ e.digits.chars)

/-- The power of ten that an exponent asks for. -/
def ExponentSpelling.value (e : ExponentSpelling) : ℤ :=
  if e.sign.isMinus then -(e.digits.value : ℤ) else e.digits.value

namespace DecimalSpelling

/-- What is written behind the whole part. -/
def tail (d : DecimalSpelling) : List Char :=
  d.fraction.elim [] (fun digits ↦ '.' :: digits.chars) ++
    d.exponent.elim [] ExponentSpelling.chars

/-- A decimal number as it is written. -/
def chars (d : DecimalSpelling) : List Char := d.whole.chars ++ d.tail

/-- The digits behind the point. -/
def places (d : DecimalSpelling) : DigitRow := d.fraction.getD []

/-- The power of ten that a number is multiplied by. -/
def power (d : DecimalSpelling) : ℤ := d.exponent.elim 0 ExponentSpelling.value

/-- All digits as one whole number, and the power of ten of the last of them. -/
def toDecimal (d : DecimalSpelling) : Decimal :=
  ⟨(d.whole ++ d.places).value, d.power - d.places.length⟩

end DecimalSpelling

/-- A number as it is written, without its sign. -/
def UnsignedSpelling.chars : UnsignedSpelling → List Char
  | nan word _ => word
  | infinity word _ => word
  | decimal d => d.chars

namespace Spelling

/-- A numeral as it is written. -/
def chars (s : Spelling) : List Char := s.sign.chars ++ s.unsigned.chars

/-- A numeral as a word. -/
def text (s : Spelling) : String := String.ofList s.chars

/-- The numeral that is spelled. -/
def toNumeral (s : Spelling) : Numeral :=
  match s.unsigned with
  | .nan _ _ => .nan
  | .infinity _ _ => .infinity s.sign.isMinus
  | .decimal d => .decimal s.sign.isMinus d.toDecimal

end Spelling

/-! ## Digits are read -/

namespace DigitRow

theorem isDigit_of_mem_chars {digits : DigitRow} {c : Char} (h : c ∈ digits.chars) :
    c.isDigit = true := by
  obtain ⟨digit, -, rfl⟩ := List.mem_map.mp h
  rw [Nat.isDigit_digitChar, decide_eq_true_iff]
  exact digit.isLt

theorem length_chars (digits : DigitRow) : digits.chars.length = digits.length :=
  List.length_map _

theorem chars_eq_nil_iff {digits : DigitRow} : digits.chars = [] ↔ digits = [] :=
  List.map_eq_nil_iff

theorem chars_append (a b : DigitRow) : chars (a ++ b) = a.chars ++ b.chars := List.map_append

/-- Digits are read as the number that they write. -/
theorem ofDigits_chars (digits : DigitRow) : Numeral.ofDigits digits.chars = digits.value := by
  induction digits using List.reverseRecOn with
  | nil => rfl
  | append_singleton digits digit ih =>
    have hone : Numeral.ofDigits (chars [digit]) = digit := by
      change 10 * 0 + ((Nat.digitChar digit).toNat - 48) = (digit : ℕ)
      rw [Nat.toNat_digitChar_of_lt_ten digit.isLt]
      omega
    rw [chars_append, Decimal.ofDigits_append, ih, hone, value, value, List.map_append,
      List.reverse_append, List.map_singleton, List.reverse_singleton, List.singleton_append,
      Nat.ofDigits_cons, length_chars, List.length_singleton, Nat.pow_one]
    omega

/-- Whatever consists of digits is a row of digits. -/
theorem exists_chars {cs : List Char} (h : ∀ c ∈ cs, c.isDigit = true) :
    ∃ digits : DigitRow, digits.chars = cs := by
  induction cs with
  | nil => exact ⟨[], rfl⟩
  | cons c cs ih =>
    rw [List.forall_mem_cons] at h
    obtain ⟨digits, rfl⟩ := ih h.2
    obtain ⟨hlow, hhigh⟩ := Char.isDigit_iff_toNat.mp h.1
    have hlow : 48 ≤ c.toNat := hlow
    have hhigh : c.toNat ≤ 57 := hhigh
    have hlt : c.toNat - 48 < 10 := by omega
    refine ⟨⟨c.toNat - 48, hlt⟩ :: digits, ?_⟩
    have hchar : Nat.digitChar (c.toNat - 48) = c := by
      apply Char.toNat_inj.mp
      rw [Nat.toNat_digitChar_of_lt_ten hlt]
      omega
    rw [chars, List.map_cons, hchar, chars]

end DigitRow

/-! ## Words are read -/

/-- A small letter and its capital, and nothing else, are lowered to the small letter. -/
theorem toLower_eq_iff {c letter : Char} (hletter : letter.isLower = true) :
    c.toLower = letter ↔ c = letter ∨ c = letter.toUpper := by
  have hlower : letter.toLower = letter :=
    Char.toLower_eq_of_not_isUpper (Char.not_isUpper_of_isLower hletter)
  constructor
  · rintro rfl
    by_cases hc : c.isUpper = true
    · have hupper : c.toUpper = c :=
        Char.toUpper_eq_of_not_isLower (Char.not_isLower_of_isUpper hc)
      rw [Char.toUpper_toLower_eq_toUpper, hupper]
      exact Or.inr rfl
    · exact Or.inl (Char.toLower_eq_of_not_isUpper hc).symm
  · rintro (rfl | rfl)
    · exact hlower
    · rw [Char.toLower_toUpper_eq_toLower, hlower]

theorem inAnyCase_iff {word : String} {cs : List Char} (h : word.toList.all Char.isLower = true) :
    InAnyCase word cs ↔ cs.map Char.toLower = word.toList := by
  rw [InAnyCase]
  generalize word.toList = letters at h
  induction letters generalizing cs with
  | nil => rw [List.forall₂_nil_right_iff, List.map_eq_nil_iff]
  | cons letter letters ih =>
    rw [List.all_cons, Bool.and_eq_true] at h
    cases cs with
    | nil => simp
    | cons c cs =>
      rw [List.forall₂_cons, List.map_cons, List.cons.injEq, ih h.2, toLower_eq_iff h.1]

namespace Numeral

/-! ## Signs are read -/

/-- What follows a sign that may be left out must not look like one. -/
def StartsUnsigned (cs : List Char) : Prop := ∀ c, cs.head? = some c → c ≠ '-' ∧ c ≠ '+'

theorem splitSign_append (s : Sign) {rest : List Char} (h : StartsUnsigned rest) :
    splitSign (s.chars ++ rest) = (s.isMinus, rest) := by
  cases s with
  | omitted =>
    cases rest with
    | nil => rfl
    | cons c rest =>
      obtain ⟨hminus, hplus⟩ := h c rfl
      change splitSign (c :: rest) = (false, c :: rest)
      rw [splitSign]
      · rintro _ ⟨⟩
        exact hminus rfl
      · rintro _ ⟨⟩
        exact hplus rfl
  | plus => rfl
  | minus => rfl

theorem exists_sign (cs : List Char) :
    ∃ s : Sign, cs = s.chars ++ (splitSign cs).2 ∧ (splitSign cs).1 = s.isMinus := by
  rw [splitSign.eq_def]
  split
  · exact ⟨.minus, rfl, rfl⟩
  · exact ⟨.plus, rfl, rfl⟩
  · exact ⟨.omitted, rfl, rfl⟩

theorem startsUnsigned_chars_append {digits : DigitRow} {rest : List Char}
    (h : StartsUnsigned rest) : StartsUnsigned (digits.chars ++ rest) := by
  intro c hc
  rw [List.head?_append] at hc
  cases hdigits : digits.chars with
  | nil =>
    rw [hdigits] at hc
    exact h c hc
  | cons d ds =>
    rw [hdigits] at hc
    obtain rfl : d = c := by simpa using hc
    have hdigit : d.isDigit = true :=
      DigitRow.isDigit_of_mem_chars (hdigits ▸ List.mem_cons_self)
    constructor
    · rintro rfl
      exact absurd hdigit (by decide)
    · rintro rfl
      exact absurd hdigit (by decide)

/-! ## Exponents are read -/

theorem startsUnsigned_nil : StartsUnsigned [] := by
  intro c hc
  cases hc

/-- A sign and some digits are read as the whole number that they write. -/
theorem wholeNumber?_eq_some_iff {cs : List Char} {n : ℤ} :
    wholeNumber? cs = some n ↔ ∃ (s : Sign) (digits : DigitRow), digits ≠ [] ∧
      cs = s.chars ++ digits.chars ∧
      n = if s.isMinus then -(digits.value : ℤ) else digits.value := by
  constructor
  · intro h
    obtain ⟨s, hcs, hs⟩ := exists_sign cs
    rw [wholeNumber?] at h
    generalize splitSign cs = split at h hcs hs
    obtain ⟨negative, rest⟩ := split
    simp only at h hcs hs
    rw [Option.ite_none_left_eq_some, Option.ite_none_right_eq_some] at h
    obtain ⟨hne, hall, hn⟩ := h
    obtain ⟨digits, rfl⟩ := DigitRow.exists_chars (List.all_eq_true.mp hall)
    refine ⟨s, digits, fun hnil ↦ hne (DigitRow.chars_eq_nil_iff.mpr hnil), hcs, ?_⟩
    rw [← hs, ← DigitRow.ofDigits_chars]
    exact (Option.some.inj hn).symm
  · rintro ⟨s, digits, hne, rfl, rfl⟩
    have hstart : StartsUnsigned digits.chars := by
      have h : StartsUnsigned (digits.chars ++ []) := startsUnsigned_chars_append startsUnsigned_nil
      rwa [List.append_nil] at h
    have hall : digits.chars.all Char.isDigit = true :=
      List.all_eq_true.mpr fun c ↦ DigitRow.isDigit_of_mem_chars
    rw [wholeNumber?, splitSign_append s hstart]
    simp only
    rw [if_neg (DigitRow.chars_eq_nil_iff.not.mpr hne), if_pos hall, DigitRow.ofDigits_chars]

/-- What follows a number is read as the exponent that it spells. -/
theorem exponent?_eq_some_iff {cs : List Char} {n : ℤ} :
    exponent? cs = some n ↔ ∃ e : Option ExponentSpelling,
      cs = e.elim [] ExponentSpelling.chars ∧ n = e.elim 0 ExponentSpelling.value := by
  have hletter : ∀ (capital : Bool) (rest : List Char), wholeNumber? rest = some n →
      ∃ e : Option ExponentSpelling,
        (if capital then 'E' else 'e') :: rest = e.elim [] ExponentSpelling.chars ∧
          n = e.elim 0 ExponentSpelling.value := by
    intro capital rest h
    obtain ⟨s, digits, hne, rfl, hn⟩ := wholeNumber?_eq_some_iff.mp h
    exact ⟨some ⟨capital, s, digits, hne⟩, rfl, hn⟩
  constructor
  · intro h
    rw [exponent?.eq_def] at h
    split at h
    · exact ⟨none, rfl, (Option.some.inj h).symm⟩
    · exact hletter false _ h
    · exact hletter true _ h
    · cases h
  · rintro ⟨e, rfl, rfl⟩
    cases e with
    | none => rfl
    | some e =>
      have h : wholeNumber? (e.sign.chars ++ e.digits.chars) = some e.value :=
        wholeNumber?_eq_some_iff.mpr ⟨e.sign, e.digits, e.digits_ne_nil, rfl, rfl⟩
      cases hcapital : e.capital with
      | false =>
        rw [Option.elim_some, Option.elim_some, ExponentSpelling.chars, hcapital]
        exact h
      | true =>
        rw [Option.elim_some, Option.elim_some, ExponentSpelling.chars, hcapital]
        exact h

/-! ## Decimals are read -/

theorem not_isDigit_of_head?_exponent {e : Option ExponentSpelling} {c : Char}
    (h : (e.elim [] ExponentSpelling.chars).head? = some c) : ¬c.isDigit = true ∧ c ≠ '.' := by
  cases e with
  | none => cases h
  | some e =>
    rw [Option.elim_some, ExponentSpelling.chars, List.head?_cons, Option.some.injEq] at h
    subst h
    split <;> decide

theorem not_isDigit_of_head?_tail {d : DecimalSpelling} {c : Char}
    (h : d.tail.head? = some c) : ¬c.isDigit = true := by
  rw [DecimalSpelling.tail] at h
  cases hfraction : d.fraction with
  | none =>
    rw [hfraction] at h
    exact (not_isDigit_of_head?_exponent h).1
  | some digits =>
    rw [hfraction] at h
    obtain rfl : '.' = c := by simpa using h
    decide

theorem splitFraction_tail (d : DecimalSpelling) :
    splitFraction d.tail = (d.places.chars, d.exponent.elim [] ExponentSpelling.chars) := by
  rw [DecimalSpelling.tail, DecimalSpelling.places]
  cases d.fraction with
  | none =>
    rw [Option.elim_none, List.nil_append, Option.getD_none, splitFraction.eq_def]
    split
    next rest hrest =>
      have hpoint : (d.exponent.elim [] ExponentSpelling.chars).head? = some '.' := by
        rw [hrest, List.head?_cons]
      exact absurd rfl (not_isDigit_of_head?_exponent hpoint).2
    next => rfl
  | some digits =>
    exact Decimal.splitDigits_append (fun c ↦ DigitRow.isDigit_of_mem_chars)
      fun c hc ↦ (not_isDigit_of_head?_exponent hc).1

/-- Every spelling of a decimal is read. -/
theorem decimal?_chars (d : DecimalSpelling) : decimal? d.chars = some d.toDecimal := by
  have hwhole : splitDigits (d.whole.chars ++ d.tail) = (d.whole.chars, d.tail) :=
    Decimal.splitDigits_append (fun c ↦ DigitRow.isDigit_of_mem_chars)
      fun c ↦ not_isDigit_of_head?_tail
  have hpower : exponent? (d.exponent.elim [] ExponentSpelling.chars) = some d.power :=
    exponent?_eq_some_iff.mpr ⟨d.exponent, rfl, rfl⟩
  have hdigits : ¬(decide (d.whole.chars = []) && decide (d.places.chars = [])) = true := by
    rw [Bool.and_eq_true, decide_eq_true_iff, decide_eq_true_iff, DigitRow.chars_eq_nil_iff,
      DigitRow.chars_eq_nil_iff]
    rintro ⟨hw, hp⟩
    exact d.digits_ne_nil (List.append_eq_nil_iff.mpr ⟨hw, hp⟩)
  simp only [DecimalSpelling.chars, decimal?, hwhole, splitFraction_tail]
  rw [if_neg hdigits, hpower, Option.map_some, ← DigitRow.chars_append, DigitRow.ofDigits_chars,
    DigitRow.length_chars, DecimalSpelling.toDecimal]

/-- Digits in front, spelled. -/
theorem exists_splitDigits (cs : List Char) :
    ∃ digits : DigitRow, (splitDigits cs).1 = digits.chars ∧
      cs = digits.chars ++ (splitDigits cs).2 := by
  have hall : ∀ c ∈ cs.takeWhile Char.isDigit, c.isDigit = true := fun c ↦ List.mem_takeWhile_imp
  obtain ⟨digits, hdigits⟩ := DigitRow.exists_chars hall
  refine ⟨digits, hdigits.symm, ?_⟩
  rw [hdigits, splitDigits, List.takeWhile_append_dropWhile]

/-- A point and digits behind it, spelled. -/
theorem exists_splitFraction (cs : List Char) :
    ∃ fraction : Option DigitRow, (splitFraction cs).1 = DigitRow.chars (fraction.getD []) ∧
      cs = fraction.elim [] (fun digits ↦ '.' :: digits.chars) ++ (splitFraction cs).2 := by
  rw [splitFraction.eq_def]
  split
  next rest =>
    obtain ⟨digits, hfirst, hrest⟩ := exists_splitDigits rest
    exact ⟨some digits, hfirst, congrArg ('.' :: ·) hrest⟩
  next => exact ⟨none, rfl, rfl⟩

/-- Every decimal that is read has a spelling. -/
theorem exists_decimalSpelling {cs : List Char} {d : Decimal} (h : decimal? cs = some d) :
    ∃ s : DecimalSpelling, s.chars = cs := by
  obtain ⟨whole, hwhole, hcs⟩ := exists_splitDigits cs
  obtain ⟨fraction, hfraction, htail⟩ := exists_splitFraction (splitDigits cs).2
  simp only [decimal?] at h
  rw [Option.ite_none_left_eq_some, Bool.and_eq_true, decide_eq_true_iff, decide_eq_true_iff,
    hwhole, hfraction, DigitRow.chars_eq_nil_iff, DigitRow.chars_eq_nil_iff] at h
  obtain ⟨hne, hexponent⟩ := h
  obtain ⟨n, hn, -⟩ := Option.map_eq_some_iff.mp hexponent
  obtain ⟨e, he, -⟩ := exponent?_eq_some_iff.mp hn
  refine ⟨⟨whole, fraction, e, fun hnil ↦ hne (List.append_eq_nil_iff.mp hnil)⟩, ?_⟩
  rw [DecimalSpelling.chars, DecimalSpelling.tail, ← he, ← htail, ← hcs]

/-! ## Numerals are read -/

/-- What does not begin with a letter is no word. -/
theorem ofChars?_of_head? (s : Sign) {c : Char} (cs : List Char)
    (hc : c.isDigit = true ∨ c = '.') :
    ofChars? (s.chars ++ c :: cs) = (decimal? (c :: cs)).map (decimal s.isMinus) := by
  have hstart : StartsUnsigned (c :: cs) := by
    rintro _ ⟨⟩
    rcases hc with hc | rfl
    · constructor <;>
      · rintro rfl
        exact absurd hc (by decide)
    · decide
  have hlower : c.toLower = c := by
    rcases hc with hc | rfl
    · exact toLower_of_isDigit hc
    · decide
  have hn : c ≠ 'n' := by
    rintro rfl
    exact absurd hc (by decide)
  have hi : c ≠ 'i' := by
    rintro rfl
    exact absurd hc (by decide)
  rw [ofChars?, splitSign_append s hstart]
  simp [hlower, hn, hi]

theorem head?_decimalSpelling (d : DecimalSpelling) :
    ∃ c cs, d.chars = c :: cs ∧ (c.isDigit = true ∨ c = '.') := by
  cases hwhole : d.whole with
  | nil =>
    cases hfraction : d.fraction with
    | none => exact absurd (by rw [hwhole, hfraction]; rfl) d.digits_ne_nil
    | some digits =>
      rw [DecimalSpelling.chars, DecimalSpelling.tail, hwhole, hfraction]
      exact ⟨'.', _, rfl, Or.inr rfl⟩
  | cons digit digits =>
    rw [DecimalSpelling.chars, hwhole]
    have hmem : Nat.digitChar digit.val ∈ DigitRow.chars [digit] := List.mem_cons_self
    have hdigit := DigitRow.isDigit_of_mem_chars hmem
    exact ⟨Nat.digitChar digit.val, _, rfl, Or.inl hdigit⟩

/-- Letters do not begin with a sign. -/
theorem startsUnsigned_of_inAnyCase {word : String} {cs : List Char}
    (hword : word.toList.all Char.isLower = true) (h : InAnyCase word cs) :
    StartsUnsigned cs := by
  intro c hc
  have hmem : c.toLower ∈ word.toList := by
    rw [← (inAnyCase_iff hword).mp h]
    exact List.mem_map_of_mem (List.mem_of_mem_head? hc)
  have hletter : c.toLower.isLower = true := List.all_eq_true.mp hword _ hmem
  constructor
  · rintro rfl
    exact absurd hletter (by decide)
  · rintro rfl
    exact absurd hletter (by decide)

/-- **Every spelling is read.** -/
theorem ofChars?_chars (s : Spelling) : ofChars? s.chars = some s.toNumeral := by
  have hsplit : ∀ {word : String} {cs : List Char}, word.toList.all Char.isLower = true →
      InAnyCase word cs → splitSign (s.sign.chars ++ cs) = (s.sign.isMinus, cs) :=
    fun hword hcs ↦ splitSign_append s.sign (startsUnsigned_of_inAnyCase hword hcs)
  rw [Spelling.chars, Spelling.toNumeral]
  cases s.unsigned with
  | nan word h =>
    have hlower : word.map Char.toLower = ['n', 'a', 'n'] := (inAnyCase_iff (by decide)).mp h
    simp only [UnsignedSpelling.chars, ofChars?, hsplit (by decide) h, hlower, if_true]
  | infinity word h =>
    rcases h with h | h
    · have hlower : word.map Char.toLower = ['i', 'n', 'f'] := (inAnyCase_iff (by decide)).mp h
      simp only [UnsignedSpelling.chars, ofChars?, hsplit (by decide) h, hlower]
      rfl
    · have hlower : word.map Char.toLower = ['i', 'n', 'f', 'i', 'n', 'i', 't', 'y'] :=
        (inAnyCase_iff (by decide)).mp h
      simp only [UnsignedSpelling.chars, ofChars?, hsplit (by decide) h, hlower]
      rfl
  | decimal d =>
    obtain ⟨c, cs, hcs, hc⟩ := head?_decimalSpelling d
    rw [UnsignedSpelling.chars, hcs, ofChars?_of_head? s.sign cs hc, ← hcs, decimal?_chars,
      Option.map_some]

/-- **Whatever is read has a spelling.** -/
theorem exists_spelling {cs : List Char} {n : Numeral} (h : ofChars? cs = some n) :
    ∃ s : Spelling, s.chars = cs := by
  obtain ⟨sign, hcs, -⟩ := exists_sign cs
  have hspelled : ∀ u : UnsignedSpelling, u.chars = (splitSign cs).2 →
      ∃ s : Spelling, s.chars = cs := by
    intro u hu
    refine ⟨⟨sign, u⟩, ?_⟩
    rw [Spelling.chars, hu, ← hcs]
  simp only [ofChars?] at h
  split at h
  next hnan =>
    have hword : InAnyCase "nan" (splitSign cs).2 := (inAnyCase_iff (by decide)).mpr hnan
    exact hspelled (.nan _ hword) rfl
  next =>
    split at h
    next hinfinity =>
      rw [Bool.or_eq_true, decide_eq_true_iff, decide_eq_true_iff] at hinfinity
      have hword : InAnyCase "inf" (splitSign cs).2 ∨ InAnyCase "infinity" (splitSign cs).2 :=
        hinfinity.imp (inAnyCase_iff (by decide)).mpr (inAnyCase_iff (by decide)).mpr
      exact hspelled (.infinity _ hword) rfl
    next =>
      obtain ⟨d, hd, -⟩ := Option.map_eq_some_iff.mp h
      obtain ⟨spelled, hspelling⟩ := exists_decimalSpelling hd
      exact hspelled (.decimal spelled) hspelling

end Numeral

end TurtleScript
