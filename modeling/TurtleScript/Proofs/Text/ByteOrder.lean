import Mathlib.Data.String.Basic
import TurtleScript.Text.Utf8

/-!
# The order of bytes is the order of texts

Texts are compared character by character, by code point. Their bytes in UTF-8 come in the same
order (`encode_lt_encode`), so it does not matter which of the two a list is sorted by.

## Why it holds

A character takes one to four bytes: a first byte that tells how many follow, and in each of those
six bits more of the code point, the highest bits first (`sequence`). Of two characters of one form
the smaller one is smaller at the first byte that differs. A longer form is for larger code
points, and it has a larger first byte. So two different characters differ at a byte that both of
them have, and whatever follows makes no difference (`utf8EncodeChar_append_lt`).
-/

namespace TurtleScript

namespace Utf8

/-! ## Numbers in bytes -/

/-- A number in bytes: a first byte with a mark, and some more bytes of six bits each. -/
def sequence (mark : Nat) : Nat → Nat → Bytes
  | 0, n => [UInt8.ofNat (n + mark)]
  | more + 1, n => sequence mark more (n / 64) ++ [UInt8.ofNat (n % 64 + 128)]

/-- The part of a number that goes to the first byte. -/
def leading : Nat → Nat → Nat
  | 0, n => n
  | more + 1, n => leading more (n / 64)

theorem ofNat_cons_lt {a b : Nat} (h : a < b) (hb : b < 256) (s t : Bytes) :
    UInt8.ofNat a :: s < UInt8.ofNat b :: t := by
  have hbytes : UInt8.ofNat a < UInt8.ofNat b :=
    (UInt8.ofNat_lt_iff_lt (Nat.lt_trans h hb) hb).mpr h
  exact List.cons_lt_cons_iff.mpr (Or.inl hbytes)

theorem exists_sequence_eq_cons (mark more n : Nat) :
    ∃ rest, sequence mark more n = UInt8.ofNat (leading more n + mark) :: rest := by
  induction more generalizing n with
  | zero => exact ⟨[], rfl⟩
  | succ more ih =>
    obtain ⟨rest, hrest⟩ := ih (n / 64)
    refine ⟨rest ++ [UInt8.ofNat (n % 64 + 128)], ?_⟩
    rw [sequence, hrest]
    rfl

/-- Two numbers of one form. -/
theorem sequence_append_lt {mark more n m : Nat} (h : n < m) (hm : leading more m + mark < 256)
    (s t : Bytes) : sequence mark more n ++ s < sequence mark more m ++ t := by
  induction more generalizing n m s t with
  | zero => exact ofNat_cons_lt (Nat.add_lt_add_right h mark) hm s t
  | succ more ih =>
    rw [sequence, sequence, List.append_assoc, List.append_assoc]
    by_cases hhigh : n / 64 < m / 64
    · exact ih hhigh hm _ _
    · -- The high bits are the same, so the last byte decides.
      have hsame : n / 64 = m / 64 := by omega
      rw [hsame]
      apply List.append_left_lt
      exact ofNat_cons_lt (by omega) (by omega) s t

/-- Two numbers with different first bytes, whatever their forms. -/
theorem sequence_append_lt_of_leading {mark more n mark' more' m : Nat}
    (h : leading more n + mark < leading more' m + mark') (hm : leading more' m + mark' < 256)
    (s t : Bytes) : sequence mark more n ++ s < sequence mark' more' m ++ t := by
  obtain ⟨rest, hrest⟩ := exists_sequence_eq_cons mark more n
  obtain ⟨rest', hrest'⟩ := exists_sequence_eq_cons mark' more' m
  rw [hrest, hrest']
  exact ofNat_cons_lt h hm _ _

/-! ## Characters -/

/-- The form of a code point: the mark of its first byte, and how many bytes follow. -/
inductive HasForm (n : Nat) : Nat → Nat → Prop where
  | one (h : n < 0x80) : HasForm n 0 0
  | two (hlow : 0x80 ≤ n) (h : n < 0x800) : HasForm n 0xC0 1
  | three (hlow : 0x800 ≤ n) (h : n < 0x10000) : HasForm n 0xE0 2
  | four (hlow : 0x10000 ≤ n) (h : n < 0x110000) : HasForm n 0xF0 3

theorem HasForm.leading_lt {n mark more : Nat} (h : HasForm n mark more) :
    leading more n + mark < 256 := by
  cases h <;> simp only [leading] <;> omega

/-- A larger code point has the same form or a larger first byte. -/
theorem HasForm.compare {n m mark more mark' more' : Nat} (hn : HasForm n mark more)
    (hm : HasForm m mark' more') (h : n < m) :
    (mark = mark' ∧ more = more') ∨ leading more n + mark < leading more' m + mark' := by
  cases hn <;> cases hm <;>
    first
    | exact Or.inl ⟨rfl, rfl⟩
    | exact Or.inr (by simp only [leading]; omega)

theorem toNat_lt_0x110000 (c : Char) : c.toNat < 0x110000 := by
  rcases c.valid with h | h
  · exact Nat.lt_trans h (by decide)
  · exact h.2

/-- A character is a sequence of its form. -/
theorem exists_form (c : Char) :
    ∃ mark more, HasForm c.toNat mark more ∧
      String.utf8EncodeChar c = sequence mark more c.toNat := by
  have hc : c.val.toNat < 0x110000 := toNat_lt_0x110000 c
  have htwelve (n : Nat) : n / 64 / 64 = n / 4096 := Nat.div_div_eq_div_mul n 64 64
  have heighteen (n : Nat) : n / 4096 / 64 = n / 262144 := Nat.div_div_eq_div_mul n 4096 64
  rw [String.utf8EncodeChar, Char.toNat]
  generalize c.val.toNat = n at hc
  -- In its range no form cuts bits off its first byte.
  split_ifs
  · exact ⟨_, _, .one (by omega), rfl⟩
  · have hfirst : n / 64 % 32 = n / 64 := by omega
    refine ⟨_, _, .two (by omega) (by omega), ?_⟩
    simp [sequence, hfirst]
  · have hfirst : n / 4096 % 16 = n / 4096 := by omega
    refine ⟨_, _, .three (by omega) (by omega), ?_⟩
    simp [sequence, hfirst, htwelve]
  · have hfirst : n / 262144 % 8 = n / 262144 := by omega
    refine ⟨_, _, .four (by omega) (by omega), ?_⟩
    simp [sequence, hfirst, htwelve, heighteen]

/-- **Characters are in the order of their bytes**, whatever bytes follow. -/
theorem utf8EncodeChar_append_lt {c d : Char} (h : c < d) (s t : Bytes) :
    String.utf8EncodeChar c ++ s < String.utf8EncodeChar d ++ t := by
  obtain ⟨mark, more, hc, hencode⟩ := exists_form c
  obtain ⟨mark', more', hd, hencode'⟩ := exists_form d
  rw [hencode, hencode']
  rcases hc.compare hd h with ⟨rfl, rfl⟩ | hfirst
  · exact sequence_append_lt h hd.leading_lt s t
  · exact sequence_append_lt_of_leading hfirst hd.leading_lt s t

/-! ## Texts -/

private theorem toList_loop (bytes : ByteArray) (i : Nat) (read : Bytes) :
    ByteArray.toList.loop bytes i read = read.reverse ++ bytes.data.toList.drop i := by
  rw [ByteArray.toList.loop]
  by_cases hi : i < bytes.size
  · have hi' : i < bytes.data.toList.length := hi
    have hget : bytes.get! i = bytes.data.toList[i] := getElem!_pos bytes.data i hi
    rw [if_pos hi, toList_loop bytes (i + 1), List.drop_eq_getElem_cons hi', hget]
    simp
  · have hi' : bytes.data.toList.length ≤ i := Nat.not_lt.mp hi
    rw [if_neg hi, List.drop_eq_nil_of_le hi', List.append_nil]
termination_by bytes.size - i

/-- The bytes of a text are those of its characters, in order. -/
theorem encode_eq_flatMap (s : String) : encode s = s.toList.flatMap String.utf8EncodeChar := by
  have hbytes : s.toByteArray = (s.toList.flatMap String.utf8EncodeChar).toByteArray :=
    String.utf8Encode_toList.symm
  rw [encode, String.toUTF8, ByteArray.toList, toList_loop, hbytes, List.toList_data_toByteArray]
  rfl

private theorem flatMap_utf8EncodeChar_lt {s t : List Char} (h : s < t) :
    s.flatMap String.utf8EncodeChar < t.flatMap String.utf8EncodeChar := by
  induction h with
  | @nil d ds =>
    obtain ⟨mark, more, -, hencode⟩ := exists_form d
    obtain ⟨rest, hrest⟩ := exists_sequence_eq_cons mark more d.toNat
    rw [List.flatMap_cons, hencode, hrest]
    exact List.nil_lt_cons _ _
  | cons _ ih =>
    rw [List.flatMap_cons, List.flatMap_cons]
    exact List.append_left_lt ih
  | rel hcd =>
    rw [List.flatMap_cons, List.flatMap_cons]
    exact utf8EncodeChar_append_lt hcd _ _

/-- **Texts are in the order of their bytes.** -/
theorem encode_lt_encode {a b : String} (h : a < b) : encode a < encode b := by
  rw [encode_eq_flatMap, encode_eq_flatMap]
  exact flatMap_utf8EncodeChar_lt (String.lt_iff_toList_lt.mp h)

end Utf8

end TurtleScript
