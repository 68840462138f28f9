import TurtleScript.Proofs.Text.FileLines

/-!
# Where newlines come from

A newline is read only where its byte stands (`Utf8.newline_not_mem_lossy`). No other sequence of
bytes encodes it: the first byte of a sequence has a bit set that puts the character beyond all
single bytes, or else the second byte is not allowed to be so small (`Utf8.State.Beyond`).

A line that has been cut out of some bytes has a newline at its end or not at all, and the blanks
there are trimmed. So no newline is left in the text of a line (`Utf8.newline_not_mem_trim_lossy`).
-/

namespace TurtleScript

namespace Utf8

/-! ## Decoding -/

/-- A state whose character will be none that a single byte encodes. -/
def State.Beyond : State → Prop
  | .ready => True
  | .pending more low _ bits => 1 ≤ bits ∨ (1 ≤ more ∧ 0x80 < low)

instance : DecidablePred State.Beyond
  | .ready => inferInstanceAs (Decidable True)
  | .pending .. => inferInstanceAs (Decidable (_ ∨ _))

theorem eq_of_ofNat_eq_newline {n : Nat} (h : Char.ofNat n = '\n') : n = 10 := by
  by_cases hvalid : n.isValidChar
  · rw [Char.ofNat, dif_pos hvalid] at h
    exact congrArg Char.toNat h
  · rw [Char.ofNat, dif_neg hvalid] at h
    cases h

/-- Every byte but one starts something else than a newline. -/
theorem start_of_ne_newline {b : UInt8} (hb : b ≠ newline) :
    (start b).1.Beyond ∧ some '\n' ∉ (start b).2 := by
  have hall : ∀ n < 256, UInt8.ofNat n ≠ newline →
      (start (UInt8.ofNat n)).1.Beyond ∧ some '\n' ∉ (start (UInt8.ofNat n)).2 := by
    decide +kernel
  have hb' := hall b.toNat b.toNat_lt
  rw [UInt8.ofNat_toNat] at hb'
  exact hb' hb

theorem next_of_ne_newline {state : State} (h : state.Beyond) {b : UInt8} (hb : b ≠ newline) :
    (next state b).1.Beyond ∧ some '\n' ∉ (next state b).2 := by
  cases state with
  | ready => exact start_of_ne_newline hb
  | pending more low high bits =>
    rw [next]
    split
    next hbounds =>
      have hlow : low.toNat ≤ b.toNat := UInt8.le_iff_toNat_le.mp hbounds.1
      cases more with
      | zero =>
        -- The bits read so far are more than a newline has.
        have hbits : 1 ≤ bits := h.resolve_right fun h ↦ absurd h.1 (by decide)
        refine ⟨trivial, fun hmem ↦ ?_⟩
        have hchar := eq_of_ofNat_eq_newline (Option.some.inj (List.mem_singleton.mp hmem)).symm
        omega
      | succ more =>
        refine ⟨Or.inl ?_, List.not_mem_nil⟩
        rcases h with hbits | ⟨-, hlow'⟩
        · omega
        · have hmark : (0x80 : UInt8).toNat < low.toNat := UInt8.lt_iff_toNat_lt.mp hlow'
          have hvalue : (0x80 : UInt8).toNat = 128 := rfl
          omega
    next =>
      obtain ⟨hstart, hmem⟩ := start_of_ne_newline hb
      refine ⟨hstart, fun h ↦ hmem ?_⟩
      simpa using h

/-- **A newline needs its byte.** -/
theorem newline_not_mem_decodeFrom {state : State} (h : state.Beyond) {bytes : Bytes}
    (hbytes : newline ∉ bytes) : some '\n' ∉ decodeFrom state bytes := by
  induction bytes generalizing state with
  | nil => cases state <;> simp [flush]
  | cons b bytes ih =>
    rw [List.mem_cons, not_or] at hbytes
    obtain ⟨hnext, hmem⟩ := next_of_ne_newline h (Ne.symm hbytes.1)
    rw [decodeFrom_cons, List.mem_append, not_or]
    exact ⟨hmem, ih hnext hbytes.2⟩

theorem newline_not_mem_lossy {bytes : Bytes} (h : newline ∉ bytes) :
    '\n' ∉ (lossy bytes).toList := by
  have hready : State.ready.Beyond := trivial
  rw [lossy, String.toList_ofList, List.mem_map]
  rintro ⟨item, hitem, hchar⟩
  cases item with
  | none => cases hchar
  | some c =>
    obtain rfl : c = '\n' := hchar
    exact newline_not_mem_decodeFrom hready h hitem

/-! ## Cutting -/

/-- A line ends with its newline, or it has none. -/
theorem newline_of_mem_lines {bytes line : Bytes} (h : line ∈ lines bytes) :
    newline ∉ line ∨ ∃ init, newline ∉ init ∧ line = init ++ [newline] := by
  induction bytes generalizing line with
  | nil => cases h
  | cons b bytes ih =>
    rw [lines_cons] at h
    by_cases hb : b = newline
    · rw [hb, pushByte_newline] at h
      rcases List.mem_cons.mp h with rfl | h
      · exact Or.inr ⟨[], List.not_mem_nil, rfl⟩
      · exact ih h
    · cases hlines : lines bytes with
      | nil =>
        rw [hlines, pushByte, if_neg hb] at h
        rw [List.mem_singleton.mp h, List.mem_singleton]
        exact Or.inl (Ne.symm hb)
      | cons first rest =>
        rw [hlines, pushByte_cons hb] at h
        rw [hlines] at ih
        rcases List.mem_cons.mp h with rfl | h
        · -- The byte goes in front of a line for which this is known.
          rcases ih List.mem_cons_self with hfirst | ⟨init, hinit, rfl⟩
          · exact Or.inl (List.not_mem_cons_of_ne_of_not_mem (Ne.symm hb) hfirst)
          · exact Or.inr ⟨b :: init, List.not_mem_cons_of_ne_of_not_mem (Ne.symm hb) hinit, rfl⟩
        · exact ih (List.mem_cons_of_mem _ h)

/-- No newline is left in the trimmed text of a line. -/
theorem newline_not_mem_trim_lossy {bytes line : Bytes} (h : line ∈ lines bytes) :
    '\n' ∉ (Text.trim (lossy line)).toList := by
  have hinner : ∀ init : Bytes, newline ∉ init → '\n' ∉ (Text.trim (lossy init)).toList :=
    fun init hinit hmem ↦ newline_not_mem_lossy hinit (Text.mem_of_mem_trim hmem)
  rcases newline_of_mem_lines h with hnone | ⟨init, hinit, rfl⟩
  · exact hinner line hnone
  · rw [trim_lossy_concat_newline]
    exact hinner init hinit

end Utf8

end TurtleScript
