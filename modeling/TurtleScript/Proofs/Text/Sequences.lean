import TurtleScript.Proofs.Text.ByteOrder

/-!
# Sequences of bytes

The decoder reads one byte at a time. It reads just the sequences that encode a character, as two
statements say.

Whatever encodes a character is read as that character (`decode_utf8EncodeChar_append`). The first
byte of its sequence says how many bytes follow, and bounds the second one by what the code points
of this form allow; each byte behind it adds six bits.

Whatever the decoder holds is the beginning of a sequence that encodes a character (`Holds`). This
is what the bounds are for: they keep out the numbers that have a shorter form, the surrogates and
what lies beyond the last code point, so a byte within the bounds never leads astray. It is an
invariant of reading, from the first byte (`start_cases`) to the last (`Holds.next`,
`Holds.last`).
-/

namespace TurtleScript

namespace Utf8

/-! ## The bytes of a number -/

/-- The bytes of a number behind the first one: six bits each, the highest bits first. -/
def trail : Nat → Nat → Bytes
  | 0, _ => []
  | more + 1, n => UInt8.ofNat (leading more n % 64 + 128) :: trail more n

theorem leading_succ (more n : Nat) : leading (more + 1) n = leading more n / 64 := by
  induction more generalizing n with
  | zero => rfl
  | succ more ih => rw [leading, ih, leading]

theorem exists_leading (more m : Nat) : ∃ n, leading more n = m := by
  induction more with
  | zero => exact ⟨m, rfl⟩
  | succ more ih =>
    obtain ⟨n, hn⟩ := ih
    refine ⟨n * 64, ?_⟩
    rw [leading, Nat.mul_div_cancel n (by decide), hn]

theorem trail_concat (more n : Nat) :
    trail more (n / 64) ++ [UInt8.ofNat (n % 64 + 128)] = trail (more + 1) n := by
  induction more with
  | zero => rfl
  | succ more ih => rw [trail, List.cons_append, ih, ← leading, ← trail]

theorem sequence_eq_cons (mark more n : Nat) :
    sequence mark more n = UInt8.ofNat (leading more n + mark) :: trail more n := by
  induction more generalizing n with
  | zero => rfl
  | succ more ih => rw [sequence, ih, List.cons_append, trail_concat, leading]

/-- The highest bits of a number begin its sequence. -/
theorem sequence_leading_prefix (mark known more n : Nat) :
    sequence mark known (leading more n) <+: sequence mark (known + more) n := by
  induction more generalizing n with
  | zero => exact List.prefix_rfl
  | succ more ih => exact (ih (n / 64)).trans (List.prefix_append _ _)

theorem toNat_ofNat_of_lt {x : Nat} (h : x < 256) : (UInt8.ofNat x).toNat = x := by
  rw [UInt8.toNat_ofNat']
  omega

theorem sequence_zero_sub (b : UInt8) {mark : Nat} (h : mark ≤ b.toNat) :
    sequence mark 0 (b.toNat - mark) = [b] := by
  rw [sequence, Nat.sub_add_cancel h, UInt8.ofNat_toNat]

/-! ## The number of a character -/

theorem HasForm.unique {n mark more mark' more' : Nat} (h : HasForm n mark more)
    (h' : HasForm n mark' more') : mark = mark' ∧ more = more' := by
  cases h <;> cases h' <;>
    first
    | exact ⟨rfl, rfl⟩
    | omega

theorem utf8EncodeChar_ofNat {n mark more : Nat} (hn : n.isValidChar) (h : HasForm n mark more) :
    String.utf8EncodeChar (Char.ofNat n) = sequence mark more n := by
  have hc : (Char.ofNat n).toNat = n := by
    rw [Char.ofNat, dif_pos hn]
    rfl
  obtain ⟨mark', more', hform, hencode⟩ := exists_form (Char.ofNat n)
  rw [hc] at hform hencode
  obtain ⟨rfl, rfl⟩ := h.unique hform
  exact hencode

/-! ## Bounds -/

/-- Bounds that keep some bytes, and only such as stand behind a first byte. -/
def AreBounds (low high : UInt8) : Prop := 0x80 ≤ low ∧ low ≤ high ∧ high ≤ 0xBF

instance (low high : UInt8) : Decidable (AreBounds low high) :=
  inferInstanceAs (Decidable (_ ∧ _))

/-- The byte for the six lowest bits of a number is within bounds. -/
def Between (low high : UInt8) (m : Nat) : Prop :=
  low.toNat ≤ m % 64 + 128 ∧ m % 64 + 128 ≤ high.toNat

section

variable {low high : UInt8} {m : Nat}

theorem between_widest (m : Nat) : Between 0x80 0xBF m := by
  have hlow : (0x80 : UInt8).toNat = 128 := rfl
  have hhigh : (0xBF : UInt8).toNat = 191 := rfl
  rw [Between]
  omega

/-- Bounds that are narrowed only in some cases. -/
theorem between_ite_iff {p q : Prop} [Decidable p] [Decidable q] :
    Between (if p then low else 0x80) (if q then high else 0xBF) m ↔
      (p → low.toNat ≤ m % 64 + 128) ∧ (q → m % 64 + 128 ≤ high.toNat) := by
  obtain ⟨hlow, hhigh⟩ := between_widest m
  rw [Between]
  constructor
  · rintro ⟨hl, hh⟩
    exact ⟨fun hp ↦ by rwa [if_pos hp] at hl, fun hq ↦ by rwa [if_pos hq] at hh⟩
  · rintro ⟨hl, hh⟩
    constructor
    · split
      next hp => exact hl hp
      next => exact hlow
    · split
      next hq => exact hh hq
      next => exact hhigh

theorem areBounds_ite {p q : Prop} [Decidable p] [Decidable q] (hpq : p → ¬q)
    (hlow : AreBounds low 0xBF) (hhigh : AreBounds 0x80 high) :
    AreBounds (if p then low else 0x80) (if q then high else 0xBF) := by
  split
  next hp => rwa [if_neg (hpq hp)]
  next =>
    split
    next => exact hhigh
    next => decide

theorem Between.bounds (h : Between low high m) :
    low ≤ UInt8.ofNat (m % 64 + 128) ∧ UInt8.ofNat (m % 64 + 128) ≤ high := by
  rw [UInt8.le_iff_toNat_le, UInt8.le_iff_toNat_le, toNat_ofNat_of_lt (by omega)]
  exact h

/-- A byte within bounds is the one for the bits that it adds. -/
theorem AreBounds.exists_between (h : AreBounds low high) {b : UInt8} (hlow : low ≤ b)
    (hhigh : b ≤ high) (bits : Nat) :
    ∃ m, m / 64 = bits ∧ Between low high m ∧ b = UInt8.ofNat (m % 64 + 128) := by
  obtain ⟨h80, -, hBF⟩ := h
  rw [UInt8.le_iff_toNat_le] at h80 hBF hlow hhigh
  have hleast : (0x80 : UInt8).toNat = 128 := rfl
  have hmost : (0xBF : UInt8).toNat = 191 := rfl
  have hbyte : (bits * 64 + (b.toNat - 0x80)) % 64 + 128 = b.toNat := by omega
  refine ⟨bits * 64 + (b.toNat - 0x80), by omega, ?_, ?_⟩
  · rw [Between, hbyte]
    exact ⟨hlow, hhigh⟩
  · rw [hbyte, UInt8.ofNat_toNat]

end

/-! ## Reading a byte -/

/-- The state after a byte behind the first one, with all bits read so far. -/
def advanced (m : Nat) : Nat → State × List (Option Char)
  | 0 => (.ready, [some (Char.ofNat m)])
  | more + 1 => (.pending more 0x80 0xBF m, [])

/-- A byte within bounds adds six bits. -/
theorem next_of_between {low high : UInt8} {m : Nat} (h : Between low high m) (more : Nat) :
    next (.pending more low high (m / 64)) (UInt8.ofNat (m % 64 + 128)) = advanced m more := by
  have hbits : m / 64 * 64 + ((UInt8.ofNat (m % 64 + 128)).toNat - 0x80) = m := by
    rw [toNat_ofNat_of_lt (by omega)]
    omega
  rw [next, if_pos h.bounds, hbits]
  cases more <;> rfl

/-- The decoder takes the bytes that are left of a number. -/
theorem decodeFrom_trail_append {more n : Nat} {low high : UInt8}
    (h : Between low high (leading more n)) (rest : Bytes) :
    decodeFrom (.pending more low high (leading (more + 1) n)) (trail (more + 1) n ++ rest) =
      some (Char.ofNat n) :: decode rest := by
  induction more generalizing low high with
  | zero =>
    rw [leading_succ, trail, List.cons_append, decodeFrom_cons, next_of_between h]
    rfl
  | succ more ih =>
    rw [leading_succ, trail, List.cons_append, decodeFrom_cons, next_of_between h]
    exact ih (between_widest _)

/-- Starting, by the value of the byte. -/
theorem start_eq (b : UInt8) :
    start b =
      if b.toNat < 0x80 then (.ready, [some (Char.ofNat b.toNat)])
      else if b.toNat < 0xC2 then (.ready, [none])
      else if b.toNat < 0xE0 then (.pending 0 0x80 0xBF (b.toNat - 0xC0), [])
      else if b.toNat < 0xF0 then
        (.pending 1 (if b.toNat = 0xE0 then 0xA0 else 0x80) (if b.toNat = 0xED then 0x9F else 0xBF)
          (b.toNat - 0xE0), [])
      else if b.toNat < 0xF5 then
        (.pending 2 (if b.toNat = 0xF0 then 0x90 else 0x80) (if b.toNat = 0xF4 then 0x8F else 0xBF)
          (b.toNat - 0xF0), [])
      else (.ready, [none]) := by
  simp only [start, UInt8.lt_iff_toNat_lt, ← UInt8.toNat_inj]
  rfl

private theorem toNat_bounds : (0xA0 : UInt8).toNat = 0xA0 ∧ (0x9F : UInt8).toNat = 0x9F ∧
    (0x90 : UInt8).toNat = 0x90 ∧ (0x8F : UInt8).toNat = 0x8F := ⟨rfl, rfl, rfl, rfl⟩

/-! ## Reading a character -/

/-- The first byte of a character that has more, with bounds that let its second byte pass. -/
theorem exists_start_eq_pending {n mark more : Nat} (hn : n.isValidChar)
    (h : HasForm n mark (more + 1)) :
    ∃ low high, start (UInt8.ofNat (leading (more + 1) n + mark)) =
        (.pending more low high (leading (more + 1) n), []) ∧
      Between low high (leading more n) := by
  have hb := toNat_ofNat_of_lt h.leading_lt
  generalize UInt8.ofNat (leading (more + 1) n + mark) = b at hb
  obtain ⟨hA0, h9F, h90, h8F⟩ := toNat_bounds
  rw [leading_succ] at hb ⊢
  rw [Nat.isValidChar] at hn
  rw [start_eq, hb]
  cases h with
  | two hlow hhigh =>
    rw [leading, if_neg (by omega), if_neg (by omega), if_pos (by omega), Nat.add_sub_cancel]
    exact ⟨_, _, rfl, between_widest _⟩
  | three hlow hhigh =>
    rw [leading, leading, if_neg (by omega), if_neg (by omega), if_neg (by omega),
      if_pos (by omega), Nat.add_sub_cancel]
    exact ⟨_, _, rfl, between_ite_iff.mpr ⟨by omega, by omega⟩⟩
  | four hlow hhigh =>
    rw [leading, leading, leading, if_neg (by omega), if_neg (by omega), if_neg (by omega),
      if_neg (by omega), if_pos (by omega), Nat.add_sub_cancel]
    exact ⟨_, _, rfl, between_ite_iff.mpr ⟨by omega, by omega⟩⟩

/-- **What encodes a character is read as that character**, whatever follows. -/
theorem decode_utf8EncodeChar_append (c : Char) (rest : Bytes) :
    decode (String.utf8EncodeChar c ++ rest) = some c :: decode rest := by
  obtain ⟨mark, more, hform, hencode⟩ := exists_form c
  have hc : some (Char.ofNat c.toNat) :: decode rest = some c :: decode rest :=
    congrArg (some · :: decode rest) c.ofNat_toNat
  rw [← hc, hencode, sequence_eq_cons, decode, List.cons_append, decodeFrom_cons, next]
  rcases more with - | more
  · have hb := toNat_ofNat_of_lt hform.leading_lt
    cases hform with
    | one h =>
      rw [start_eq, hb, leading, Nat.add_zero, if_pos h]
      rfl
  · obtain ⟨low, high, hstart, hbetween⟩ := exists_start_eq_pending c.valid hform
    rw [Char.toNat, hstart]
    exact decodeFrom_trail_append hbetween rest

/-! ## What the decoder holds -/

/-- Every number with these highest bits is a character, if the byte for the next six bits is within
the bounds. -/
def OnlyCharacters (mark known more : Nat) (low high : UInt8) (bits : Nat) : Prop :=
  ∀ n, leading (more + 1) n = bits → Between low high (leading more n) →
    n.isValidChar ∧ HasForm n mark (known + more + 1)

/-- The decoder has read some bytes of a sequence, and has told nothing of them yet. -/
structure Holds (held : Bytes) (more : Nat) (low high : UInt8) (bits : Nat) : Prop where
  /-- The next byte has a choice. -/
  bounds : AreBounds low high
  /-- The state stands for the bytes. -/
  decode_append : ∀ rest, decode (held ++ rest) = decodeFrom (.pending more low high bits) rest
  /-- The bytes go on to be a character. -/
  goes_on : ∃ mark known, held = sequence mark known bits ∧
    OnlyCharacters mark known more low high bits

/-- The first byte of a sequence is held. -/
theorem holds_of_start {b low high : UInt8} {mark more : Nat} (hmark : mark ≤ b.toNat)
    (hstart : start b = (.pending more low high (b.toNat - mark), []))
    (hbounds : AreBounds low high)
    (honly : OnlyCharacters mark 0 more low high (b.toNat - mark)) :
    ∃ more low high bits, start b = (.pending more low high bits, []) ∧
      Holds [b] more low high bits := by
  refine ⟨_, _, _, _, hstart, hbounds, ?_, mark, 0, (sequence_zero_sub b hmark).symm, honly⟩
  intro rest
  rw [List.singleton_append, decode, decodeFrom_cons, next, hstart, List.nil_append]

/-- A byte by itself is a character, or it is no part of one, or it begins a sequence. -/
theorem start_cases (b : UInt8) :
    (∃ c, start b = (.ready, [some c]) ∧ String.utf8EncodeChar c = [b]) ∨
      start b = (.ready, [none]) ∨
      ∃ more low high bits, start b = (.pending more low high bits, []) ∧
        Holds [b] more low high bits := by
  obtain ⟨hA0, h9F, h90, h8F⟩ := toNat_bounds
  have hstart := start_eq b
  by_cases h1 : b.toNat < 0x80
  · have hvalid : b.toNat.isValidChar := Or.inl (by omega)
    rw [if_pos h1] at hstart
    refine Or.inl ⟨_, hstart, ?_⟩
    rw [utf8EncodeChar_ofNat hvalid (.one h1), sequence, Nat.add_zero, UInt8.ofNat_toNat]
  rw [if_neg h1] at hstart
  by_cases h2 : b.toNat < 0xC2
  · rw [if_pos h2] at hstart
    exact Or.inr (Or.inl hstart)
  rw [if_neg h2] at hstart
  by_cases h3 : b.toNat < 0xE0
  · rw [if_pos h3] at hstart
    refine Or.inr (Or.inr (holds_of_start (by omega) hstart (by decide) ?_))
    intro n hbits hbetween
    rw [leading, leading] at hbits
    exact ⟨Or.inl (by omega), .two (by omega) (by omega)⟩
  rw [if_neg h3] at hstart
  by_cases h4 : b.toNat < 0xF0
  · rw [if_pos h4] at hstart
    refine Or.inr (Or.inr (holds_of_start (by omega) hstart ?_ ?_))
    · exact areBounds_ite (by omega) (by decide) (by decide)
    · intro n hbits hbetween
      rw [between_ite_iff, leading, leading] at hbetween
      rw [leading, leading, leading] at hbits
      refine ⟨?_, .three (by omega) (by omega)⟩
      rw [Nat.isValidChar]
      omega
  rw [if_neg h4] at hstart
  by_cases h5 : b.toNat < 0xF5
  · rw [if_pos h5] at hstart
    refine Or.inr (Or.inr (holds_of_start (by omega) hstart ?_ ?_))
    · exact areBounds_ite (by omega) (by decide) (by decide)
    · intro n hbits hbetween
      rw [between_ite_iff, leading, leading, leading] at hbetween
      rw [leading, leading, leading, leading] at hbits
      refine ⟨?_, .four (by omega) (by omega)⟩
      rw [Nat.isValidChar]
      omega
  · rw [if_neg h5] at hstart
    exact Or.inr (Or.inl hstart)

namespace Holds

variable {held : Bytes} {more : Nat} {low high b : UInt8} {bits : Nat}

/-- **The step.** A byte within bounds is held as well, unless it is the last one. -/
theorem next (h : Holds held (more + 1) low high bits) (hlow : low ≤ b) (hhigh : b ≤ high) :
    ∃ m, Utf8.next (.pending (more + 1) low high bits) b = (.pending more 0x80 0xBF m, []) ∧
      Holds (held ++ [b]) more 0x80 0xBF m := by
  obtain ⟨mark, known, hheld, honly⟩ := h.goes_on
  obtain ⟨m, rfl, hbetween, rfl⟩ := h.bounds.exists_between hlow hhigh bits
  have hnext := next_of_between hbetween (more + 1)
  refine ⟨m, hnext, by decide, ?_, mark, known + 1, ?_, ?_⟩
  · intro rest
    rw [List.append_assoc, h.decode_append, List.singleton_append, decodeFrom_cons, hnext]
    rfl
  · rw [sequence, hheld]
  · intro n hn _
    have hhigher : leading (more + 1 + 1) n = m / 64 := by rw [leading_succ, hn]
    have hform := honly n hhigher (by rwa [hn])
    rwa [show known + 1 + more + 1 = known + (more + 1) + 1 from by omega]

/-- The last byte completes a character. -/
theorem last (h : Holds held 0 low high bits) (hlow : low ≤ b) (hhigh : b ≤ high) :
    ∃ c, Utf8.next (.pending 0 low high bits) b = (.ready, [some c]) ∧
      String.utf8EncodeChar c = held ++ [b] := by
  obtain ⟨mark, known, hheld, honly⟩ := h.goes_on
  obtain ⟨m, rfl, hbetween, rfl⟩ := h.bounds.exists_between hlow hhigh bits
  obtain ⟨hvalid, hform⟩ := honly m rfl hbetween
  refine ⟨Char.ofNat m, next_of_between hbetween 0, ?_⟩
  rw [utf8EncodeChar_ofNat hvalid hform, hheld]
  rfl

/-- What is held begins a character. -/
theorem exists_prefix (h : Holds held more low high bits) :
    ∃ c, held <+: String.utf8EncodeChar c := by
  obtain ⟨mark, known, hheld, honly⟩ := h.goes_on
  obtain ⟨m, hm, hbetween, -⟩ := h.bounds.exists_between (UInt8.le_refl low) h.bounds.2.1 bits
  obtain ⟨n, rfl⟩ := exists_leading more m
  have hbits : leading (more + 1) n = bits := by rw [leading_succ, hm]
  obtain ⟨hvalid, hform⟩ := honly n hbits hbetween
  refine ⟨Char.ofNat n, ?_⟩
  rw [utf8EncodeChar_ofNat hvalid hform, hheld, ← hbits]
  exact sequence_leading_prefix mark known (more + 1) n

end Holds

end Utf8

end TurtleScript
