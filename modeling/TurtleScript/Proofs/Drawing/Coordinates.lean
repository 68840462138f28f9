import TurtleScript.Drawing.Canvas
import TurtleScript.Proofs.Binary64.Doubling
import TurtleScript.Proofs.Command.Verdict
import TurtleScript.Proofs.Decimal.Positional

/-!
# How coordinates are written

The coordinates of a point are written as a person would write them who wants to be exact and brief
(`Binary64.IsShortestForm`): in plain positional notation, with a minus sign where the number has
one, such that an angle of this text is the same number again, and with as few significant digits as
that allows. Of the decimals with so few digits none is closer to the number.

That is so for every finite number, so the lines of a drawing say exactly where each segment starts
and ends (`coordinates_shortest`).
-/

namespace TurtleScript

open Binary64

/-! ## Signs -/

/-- A rational number, with a minus sign in front of it or not. -/
def signedValue (minus : Bool) (q : ℚ) : ℚ := if minus then -q else q

theorem abs_signedValue_sub (minus : Bool) (p q : ℚ) :
    |signedValue minus p - signedValue minus q| = |p - q| := by
  cases minus with
  | false => rfl
  | true => rw [signedValue, signedValue, if_pos rfl, if_pos rfl, neg_sub_neg, abs_sub_comm]

/-- The exact value of a finite number. -/
def Binary64.exactValue : Binary64 → ℚ
  | nan => 0
  | signed negative m => signedValue negative m.toRat

/-- The sign bit is that of a number with a minus sign. -/
theorem Binary64.signWeight_le_toBits_iff {negative : Bool} {m : Magnitude} :
    signWeight ≤ (signed negative m).toBits.toNat ↔ negative = true := by
  have hbits := ofBits_toBits (signed negative m)
  simp only [ofBits] at hbits
  split at hbits
  next =>
    rw [signed.injEq] at hbits
    exact decide_eq_true_iff.symm.trans (Eq.congr_left hbits.1)
  next => cases hbits

namespace DecimalSpelling

/-- A decimal with its sign as a word. -/
def textWith (sign : Sign) (d : DecimalSpelling) : String := (Spelling.mk sign (.decimal d)).text

/-- The rational number that a decimal with its sign denotes. -/
def quantityWith (sign : Sign) (d : DecimalSpelling) : ℚ := signedValue sign.isMinus d.quantity

/-- A decimal is read as a number if the sign is that of the number and the magnitude is nearest. -/
theorem read_textWith_iff {sign : Sign} {d : DecimalSpelling} {negative : Bool} {m : Magnitude} :
    ArgumentKind.degrees.read (d.textWith sign) = .ok (.degrees (signed negative m)) ↔
      sign.isMinus = negative ∧ IsNearest d.quantity m := by
  obtain ⟨_, hx, n, rfl, hn⟩ := (Spelling.mk sign (.decimal d)).ofText?_text
  rw [textWith, (Means.degrees hx).read, Except.ok.injEq, Argument.degrees.injEq, signed.injEq]
  constructor
  · rintro ⟨rfl, rfl⟩
    exact ⟨rfl, hn⟩
  · rintro ⟨rfl, hm⟩
    exact ⟨rfl, hn.unique hm⟩

end DecimalSpelling

/-! ## Shortest forms -/

/-- A decimal with its sign is the shortest exact form of a finite number. -/
structure Binary64.IsShortestForm (x : Binary64) (sign : Sign) (d : DecimalSpelling) : Prop where
  /-- It is written in plain positional notation. -/
  plain : d.IsPlain
  /-- It has a minus sign if and only if the sign bit is set. -/
  minus_iff : sign = .minus ↔ signWeight ≤ x.toBits.toNat
  /-- There is never a plus sign. -/
  ne_plus : sign ≠ .plus
  /-- As an angle it is read back as the number. -/
  read : ArgumentKind.degrees.read (d.textWith sign) = .ok (.degrees x)
  /-- No decimal that is read as the number has fewer significant digits. -/
  fewest : ∀ (s : Sign) (other : DecimalSpelling),
    ArgumentKind.degrees.read (other.textWith s) = .ok (.degrees x) →
      d.significant.length ≤ other.significant.length
  /-- None that is read as the number and has as few is closer. -/
  closest : ∀ (s : Sign) (other : DecimalSpelling),
    ArgumentKind.degrees.read (other.textWith s) = .ok (.degrees x) →
      other.significant.length = d.significant.length →
        |d.quantityWith sign - x.exactValue| ≤ |other.quantityWith s - x.exactValue|

/-- **Finite numbers are written in their shortest form.** -/
theorem Binary64.exists_isShortestForm {x : Binary64} (hx : x.IsFinite) :
    ∃ (sign : Sign) (d : DecimalSpelling), d.textWith sign = x.text ∧ x.IsShortestForm sign d := by
  cases x with
  | nan => cases hx
  | signed negative m =>
    have hm : m ≠ .infinite := hx
    obtain ⟨d, hchars, hplain, hnearest, hshortest⟩ := exists_shortest_spelling hm
    obtain ⟨sign, hminus, hplus, hisMinus, hsign⟩ : ∃ sign : Sign,
        (sign = .minus ↔ negative = true) ∧ sign ≠ .plus ∧ sign.isMinus = negative ∧
          sign.chars = if negative then ['-'] else [] := by
      cases negative with
      | false => exact ⟨.omitted, by decide, by decide, rfl, rfl⟩
      | true => exact ⟨.minus, by decide, by decide, rfl, rfl⟩
    refine ⟨sign, d, ?_, hplain, ?_, hplus, ?_, ?_, ?_⟩
    · have hfinite : ¬m.isInfinite = true := Magnitude.isInfinite_iff.not.mpr hm
      rw [DecimalSpelling.textWith, Spelling.text, Spelling.chars, UnsignedSpelling.chars, hsign,
        hchars, text, textWith, if_neg hfinite]
    · rw [hminus, signWeight_le_toBits_iff]
    · exact DecimalSpelling.read_textWith_iff.mpr ⟨hisMinus, hnearest⟩
    · intro s other hread
      exact (hshortest other (DecimalSpelling.read_textWith_iff.mp hread).2).1
    · intro s other hread hlength
      -- Both have the sign of the number, so it makes no difference to the distances.
      obtain ⟨hs, hother⟩ := DecimalSpelling.read_textWith_iff.mp hread
      rw [DecimalSpelling.quantityWith, DecimalSpelling.quantityWith, exactValue, hisMinus, hs,
        abs_signedValue_sub, abs_signedValue_sub]
      exact (hshortest other hother).2 hlength

/-! ## Points -/

/-- **Coordinates are written in their shortest form.** A point is written as both of its
coordinates in brackets, and each of them, if it is finite, in its shortest form. In a drawing that
is written as text, every segment is such a line with its two ends. -/
theorem coordinates_shortest :
    (∀ p : Point, p.text = "(" ++ p.x.text ++ ", " ++ p.y.text ++ ")" ∧
      ∀ x, x = p.x ∨ x = p.y → x.IsFinite →
        ∃ (sign : Sign) (d : DecimalSpelling),
          d.textWith sign = x.text ∧ x.IsShortestForm sign d) ∧
    ∀ (written : String) (s : Segment), (Canvas.text written).draw s =
      .text (written ++
        ("line " ++ s.start.text ++ " -> " ++ s.stop.text ++ " " ++ s.colour.name) ++ "\n") :=
  ⟨fun _ ↦ ⟨rfl, fun _ _ hx ↦ exists_isShortestForm hx⟩, fun _ _ ↦ rfl⟩

/-- The second number above zero, and zero with a minus sign. -/
def tinyPoint : Point := ⟨signed false (.ofRung 2), signed true .zero⟩

/-- Two decimals of one digit are read as the second number above zero. The one that is written is
the closer one, although the other has a lower power of ten. -/
theorem coordinates_shortest_tiny :
    (∃ (sign : Sign) (d : DecimalSpelling),
      d.textWith sign = tinyPoint.x.text ∧ tinyPoint.x.IsShortestForm sign d) ∧
    (∃ (sign : Sign) (d : DecimalSpelling),
      d.textWith sign = "-0" ∧ tinyPoint.y.IsShortestForm sign d) ∧
    ArgumentKind.degrees.read "1e-323" = .ok (.degrees tinyPoint.x) ∧
    ArgumentKind.degrees.read "9e-324" = .ok (.degrees tinyPoint.x) :=
  ⟨(coordinates_shortest.1 tinyPoint).2 tinyPoint.x (Or.inl rfl) (by decide),
    (coordinates_shortest.1 tinyPoint).2 tinyPoint.y (Or.inr rfl) (by decide),
    by decide +kernel, by decide +kernel⟩

end TurtleScript
