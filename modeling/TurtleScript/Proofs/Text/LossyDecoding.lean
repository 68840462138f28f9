import TurtleScript.Proofs.Text.Sequences

/-!
# Lenient reading

What reading leniently means is said here without a machine (`Decodes`). At the front of some bytes
stands either a sequence that encodes a character, which is read as that, or none. In the second
case a piece is taken off, and U+FFFD is read in its place: the longest piece with which a character
may begin, or else a single byte (`IsBroken`).

The decoder reads in this way (`decodes_lossy`), and there is no other (`Decodes.unique`). In
particular it reads the bytes of a text as that text (`lossy_encode`).
-/

namespace TurtleScript

namespace Utf8

/-- Some bytes with which a character may begin. -/
def BeginsCharacter (piece : Bytes) : Prop := ∃ c, piece <+: String.utf8EncodeChar c

/-- A piece at the front of some bytes that is no character, and has to be replaced. -/
structure IsBroken (piece rest : Bytes) : Prop where
  /-- No character stands there. -/
  no_character : ∀ c, ¬String.utf8EncodeChar c <+: piece ++ rest
  /-- There is a piece. -/
  ne_nil : piece ≠ []
  /-- It is the longest with which a character may begin, or else a single byte. -/
  longest :
    (BeginsCharacter piece ∧ ∀ longer, longer <+: piece ++ rest → BeginsCharacter longer →
        longer.length ≤ piece.length) ∨
      (piece.length = 1 ∧ ¬BeginsCharacter piece)

/-- Some bytes are read leniently as some characters. -/
inductive Decodes : Bytes → List Char → Prop where
  | nil : Decodes [] []
  | char (c : Char) {rest : Bytes} {cs : List Char} (hrest : Decodes rest cs) :
    Decodes (String.utf8EncodeChar c ++ rest) (c :: cs)
  | broken {piece rest : Bytes} {cs : List Char} (hpiece : IsBroken piece rest)
    (hrest : Decodes rest cs) : Decodes (piece ++ rest) ('\uFFFD' :: cs)

theorem BeginsCharacter.of_prefix {piece longer : Bytes} (h : BeginsCharacter longer)
    (hpiece : piece <+: longer) : BeginsCharacter piece := by
  obtain ⟨c, hc⟩ := h
  exact ⟨c, hpiece.trans hc⟩

/-! ## One piece -/

section

variable {more bits : Nat} {low high : UInt8} {held rest : Bytes}

/-- The next byte cannot be held as well, or there is none. -/
def Stops (low high : UInt8) (rest : Bytes) : Prop :=
  ∀ b, rest.head? = some b → ¬(low ≤ b ∧ b ≤ high)

theorem decodeFrom_of_stops (h : Stops low high rest) :
    decodeFrom (.pending more low high bits) rest = none :: decode rest := by
  rcases rest with - | ⟨b, rest⟩
  · rfl
  · rw [decodeFrom_cons, next, if_neg (h b rfl)]
    rfl

/-- What the decoder replaces is no character. -/
theorem not_prefix_of_decode {items : List (Option Char)} (h : decode rest = none :: items)
    (c : Char) : ¬String.utf8EncodeChar c <+: rest := by
  rintro ⟨tail, rfl⟩
  rw [decode_utf8EncodeChar_append] at h
  cases h

/-- A byte that begins nothing is broken. -/
theorem isBroken_of_start {b : UInt8} (h : start b = (.ready, [none])) (rest : Bytes) :
    decode (b :: rest) = none :: decode rest ∧ IsBroken [b] rest := by
  have hread : ∀ rest, decode (b :: rest) = none :: decode rest := by
    intro rest
    rw [decode, decodeFrom_cons, next, h]
    rfl
  refine ⟨hread rest, not_prefix_of_decode (hread rest), by simp, Or.inr ⟨rfl, ?_⟩⟩
  rintro ⟨c, tail, hc⟩
  exact not_prefix_of_decode (hread tail) c ⟨[], by simp [← hc]⟩

/-- What is held when reading stops is broken. -/
theorem Holds.isBroken (h : Holds held more low high bits) (hheld : held ≠ [])
    (hstops : Stops low high rest) :
    decode (held ++ rest) = none :: decode rest ∧ IsBroken held rest := by
  have hread : ∀ {tail}, Stops low high tail → decode (held ++ tail) = none :: decode tail := by
    intro tail htail
    rw [h.decode_append, decodeFrom_of_stops htail]
  refine ⟨hread hstops, not_prefix_of_decode (hread hstops), hheld,
    Or.inl ⟨h.exists_prefix, ?_⟩⟩
  intro longer hlonger hbegins
  -- A longer piece would go on with the byte at which reading stops.
  by_contra hlength
  obtain ⟨more, rfl⟩ : held <+: longer :=
    List.prefix_of_prefix_length_le (List.prefix_append held rest) hlonger (by omega)
  rw [List.prefix_append_right_inj] at hlonger
  obtain ⟨c, tail, hc⟩ := hbegins
  have htail : Stops low high (more ++ tail) := by
    rcases more with - | ⟨b, more⟩
    · simp at hlength
    · obtain ⟨after, hafter⟩ := hlonger
      intro b' hb'
      apply hstops b'
      rw [← hafter]
      exact hb'
  exact not_prefix_of_decode (hread htail) c ⟨[], by simp [← hc]⟩

/-- What is taken off the front, and what is told of it. -/
def TakesPiece (bytes : Bytes) : Prop :=
  (∃ c rest, bytes = String.utf8EncodeChar c ++ rest ∧ decode bytes = some c :: decode rest) ∨
    ∃ piece rest, bytes = piece ++ rest ∧ IsBroken piece rest ∧
      decode bytes = none :: decode rest

/-- The induction is on the bytes behind those that are held. -/
theorem Holds.takesPiece (h : Holds held more low high bits) (hheld : held ≠ []) (rest : Bytes) :
    TakesPiece (held ++ rest) := by
  induction rest generalizing held more low high bits with
  | nil =>
    have hstops : Stops low high [] := by
      intro b hb
      cases hb
    obtain ⟨hread, hbroken⟩ := h.isBroken hheld hstops
    exact Or.inr ⟨held, [], rfl, hbroken, hread⟩
  | cons b rest ih =>
    by_cases hb : low ≤ b ∧ b ≤ high
    · rw [List.append_cons]
      rcases more with - | more
      · obtain ⟨c, -, hc⟩ := h.last hb.1 hb.2
        rw [← hc]
        exact Or.inl ⟨c, rest, rfl, decode_utf8EncodeChar_append c rest⟩
      · obtain ⟨m, -, hm⟩ := h.next hb.1 hb.2
        exact ih hm (by simp)
    · have hstops : Stops low high (b :: rest) := by
        intro b' hb'
        rwa [← Option.some.inj hb']
      obtain ⟨hread, hbroken⟩ := h.isBroken hheld hstops
      exact Or.inr ⟨held, b :: rest, rfl, hbroken, hread⟩

/-- **The step.** As long as there are bytes, a piece is taken off their front. -/
theorem takesPiece_cons (b : UInt8) (rest : Bytes) : TakesPiece (b :: rest) := by
  rcases start_cases b with ⟨c, -, hc⟩ | hnone | ⟨more, low, high, bits, -, hholds⟩
  · rw [← List.singleton_append, ← hc]
    exact Or.inl ⟨c, rest, rfl, decode_utf8EncodeChar_append c rest⟩
  · obtain ⟨hread, hbroken⟩ := isBroken_of_start hnone rest
    exact Or.inr ⟨[b], rest, rfl, hbroken, hread⟩
  · exact hholds.takesPiece (by simp) rest

end

/-! ## All pieces -/

theorem toList_lossy (bytes : Bytes) :
    (lossy bytes).toList = (decode bytes).map fun item ↦ item.getD replacement := by
  rw [lossy, String.toList_ofList]

/-- **The decoder reads leniently.** -/
theorem decodes_lossy (bytes : Bytes) : Decodes bytes (lossy bytes).toList := by
  rw [toList_lossy]
  induction hlength : bytes.length using Nat.strongRecOn generalizing bytes with
  | ind length ih =>
    rcases bytes with - | ⟨b, tail⟩
    · exact .nil
    · rcases takesPiece_cons b tail with
        ⟨c, rest, hbytes, hread⟩ | ⟨piece, rest, hbytes, hbroken, hread⟩
      · have hshorter : rest.length < length := by
          have hc := String.length_utf8EncodeChar c
          rw [← hlength, hbytes, List.length_append, hc]
          exact Nat.lt_add_of_pos_left c.utf8Size_pos
        rw [hread, hbytes]
        exact .char c (ih _ hshorter rest rfl)
      · have hshorter : rest.length < length := by
          rw [← hlength, hbytes, List.length_append]
          exact Nat.lt_add_of_pos_left (List.length_pos_iff.mpr hbroken.ne_nil)
        rw [hread, hbytes]
        exact .broken hbroken (ih _ hshorter rest rfl)

/-! ## No other reading -/

section

variable {piece piece' rest rest' : Bytes}

theorem IsBroken.length_le (h : IsBroken piece rest) (h' : IsBroken piece' rest')
    (hsame : piece ++ rest = piece' ++ rest') : piece.length ≤ piece'.length := by
  have hpos := List.length_pos_iff.mpr h'.ne_nil
  have hpiece : piece <+: piece' ++ rest' := ⟨rest, hsame⟩
  rcases h.longest with ⟨hbegins, -⟩ | ⟨hsingle, -⟩
  · rcases h'.longest with ⟨-, hlongest⟩ | ⟨hsingle, hbegins'⟩
    · exact hlongest piece hpiece hbegins
    · by_contra hlength
      apply hbegins'
      apply hbegins.of_prefix
      exact List.prefix_of_prefix_length_le (List.prefix_append piece' rest') hpiece (by omega)
  · rw [hsingle]
    exact hpos

/-- Only one piece can be taken off as broken. -/
theorem IsBroken.unique (h : IsBroken piece rest) (h' : IsBroken piece' rest')
    (hsame : piece ++ rest = piece' ++ rest') : piece = piece' ∧ rest = rest' := by
  apply List.append_inj hsame
  exact Nat.le_antisymm (h.length_le h' hsame) (h'.length_le h hsame.symm)

theorem IsBroken.decode_append (h : IsBroken piece rest) :
    decode (piece ++ rest) = none :: decode rest := by
  obtain ⟨b, tail, hb⟩ := List.exists_cons_of_ne_nil h.ne_nil
  have htakes := takesPiece_cons b (tail ++ rest)
  rw [← List.cons_append, ← hb] at htakes
  rcases htakes with ⟨c, after, hc, -⟩ | ⟨piece', rest', hsame, h', hread⟩
  · exact absurd ⟨after, hc.symm⟩ (h.no_character c)
  · obtain ⟨-, hrest⟩ := h.unique h' hsame
    rw [hread, hrest]

end

/-- **There is no other lenient reading** than the decoder's. -/
theorem Decodes.unique {bytes : Bytes} {cs : List Char} (h : Decodes bytes cs) :
    cs = (lossy bytes).toList := by
  induction h with
  | nil => rfl
  | char c _ ih =>
    rw [toList_lossy, decode_utf8EncodeChar_append, List.map_cons, ih, toList_lossy]
    rfl
  | broken hpiece _ ih =>
    rw [toList_lossy, hpiece.decode_append, List.map_cons, ih, toList_lossy]
    rfl

theorem decodes_iff {bytes : Bytes} {cs : List Char} :
    Decodes bytes cs ↔ cs = (lossy bytes).toList := by
  constructor
  · exact Decodes.unique
  · rintro rfl
    exact decodes_lossy bytes

theorem decodes_flatMap (cs : List Char) : Decodes (cs.flatMap String.utf8EncodeChar) cs := by
  induction cs with
  | nil => exact .nil
  | cons c cs ih => exact .char c ih

/-- **The bytes of a text are read as that text.** -/
theorem lossy_encode (text : String) : lossy (encode text) = text := by
  apply String.toList_injective
  rw [encode_eq_flatMap]
  exact (decodes_flatMap text.toList).unique.symm

end Utf8

end TurtleScript
