import TurtleScript.Proofs.Command.Verdict
import TurtleScript.Proofs.Decimal.Exact

/-!
# Numbers as arguments

An angle is any numeral, and means the number nearest to what the numeral denotes
(`angles_read_as_spelled`). A distance is a numeral too, but the number that it is rounded to has to
be above zero. So the numeral has to denote more than half of the smallest positive number:
whatever is closer to zero vanishes in the rounding and is refused like zero itself
(`distances_above_underflow`).
-/

namespace TurtleScript

open Binary64

namespace Spelling

/-- A numeral denotes something above a bound. -/
def IsAbove (s : Spelling) (bound : ℚ) : Prop :=
  match s.unsigned with
  | .nan _ _ => False
  | .infinity _ _ => s.sign.isMinus = false
  | .decimal d => bound < if s.sign.isMinus then -d.quantity else d.quantity

theorem isPositive_signed_iff {minus : Bool} {m : Magnitude} :
    (signed minus m).isPositive = true ↔ minus = false ∧ m ≠ .zero := by
  rw [isPositive_iff]
  constructor
  · rintro ⟨n, hn, hpositive⟩
    cases hn
    exact ⟨rfl, fun hzero ↦ hpositive.ne' (congrArg Magnitude.rung hzero)⟩
  · rintro ⟨rfl, hne⟩
    exact ⟨m, rfl, Nat.pos_of_ne_zero fun hrung ↦ hne (Magnitude.ext hrung)⟩

/-- A numeral gives a number above zero if it denotes more than what vanishes. -/
theorem Gives.isPositive_iff {s : Spelling} {x : Binary64} (h : s.Gives x) :
    x.isPositive = true ↔ s.IsAbove underflowThreshold := by
  rw [Gives] at h
  rw [IsAbove]
  cases hs : s.unsigned with
  | nan word hword =>
    rw [hs] at h
    subst h
    exact iff_of_false (by decide) not_false
  | infinity word hword =>
    rw [hs] at h
    subst h
    rw [isPositive_signed_iff]
    exact and_iff_left (by decide)
  | decimal d =>
    rw [hs] at h
    obtain ⟨m, rfl, hm⟩ := h
    rw [isPositive_signed_iff]
    dsimp only
    cases s.sign.isMinus with
    | false =>
      rw [Ne, hm.eq_zero_iff d.quantity_nonneg, not_le]
      exact and_iff_right rfl
    | true =>
      have hthreshold : (0 : ℚ) ≤ underflowThreshold := by
        rw [underflowThreshold]
        positivity
      have hquantity := d.quantity_nonneg
      refine iff_of_false (fun hand ↦ Bool.noConfusion hand.1) ?_
      rw [if_pos rfl, not_lt]
      linarith

end Spelling

/-! ## Angles -/

section

variable {token : String}

/-- A token spells a numeral and is read, or does neither. -/
theorem spelled_or_unread (token : String) :
    (∃ s : Spelling, ∃ x, s.text = token ∧ s.Gives x ∧ ofText? token = some x) ∨
      (¬∃ s : Spelling, s.text = token) ∧ ofText? token = none := by
  by_cases h : ∃ s : Spelling, s.text = token
  · obtain ⟨s, rfl⟩ := h
    obtain ⟨x, hx, hgives⟩ := s.ofText?_text
    exact Or.inl ⟨s, x, rfl, hgives, hx⟩
  · exact Or.inr ⟨h, ofText?_eq_none_iff.mpr (not_exists.mp h)⟩

theorem read_degrees_eq_ok_iff {a : Argument} :
    ArgumentKind.degrees.read token = .ok a ↔
      ∃ s : Spelling, ∃ x, s.text = token ∧ s.Gives x ∧ a = .degrees x := by
  rcases spelled_or_unread token with ⟨s, x, rfl, hgives, hx⟩ | ⟨hunspelled, hnone⟩
  · rw [(Means.degrees hx).read, Except.ok.injEq]
    constructor
    · rintro rfl
      exact ⟨s, x, rfl, hgives, rfl⟩
    · rintro ⟨t, y, htext, hy, rfl⟩
      have hread : ofText? s.text = some y := ofText?_eq_some_iff.mpr ⟨t, htext, hy⟩
      rw [Option.some.inj (hx.symm.trans hread)]
  · rw [(Spoils.notAnAngle hnone).read]
    exact iff_of_false nofun fun ⟨s, x, htext, _⟩ ↦ hunspelled ⟨s, htext⟩

theorem read_degrees_eq_error_iff {e : ParseError} :
    ArgumentKind.degrees.read token = .error e ↔
      e = .notAnAngle token ∧ ¬∃ s : Spelling, s.text = token := by
  rcases spelled_or_unread token with ⟨s, x, htext, -, hx⟩ | ⟨hunspelled, hnone⟩
  · rw [(Means.degrees hx).read]
    exact iff_of_false nofun fun h ↦ h.2 ⟨s, htext⟩
  · rw [(Spoils.notAnAngle hnone).read, Except.error.injEq, eq_comm]
    exact (and_iff_left hunspelled).symm

theorem read_distance_eq_notADistance_iff {t : String} :
    ArgumentKind.distance.read token = .error (.notADistance t) ↔
      t = token ∧ ¬∃ s : Spelling, s.text = token := by
  rcases spelled_or_unread token with ⟨s, x, htext, -, hx⟩ | ⟨hunspelled, hnone⟩
  · refine iff_of_false ?_ fun h ↦ h.2 ⟨s, htext⟩
    by_cases hpositive : x.isPositive = true
    · rw [(Means.distance hx hpositive).read]
      rintro ⟨⟩
    · rw [(Spoils.nonPositive hx hpositive).read]
      rintro ⟨⟩
  · rw [(Spoils.notADistance hnone).read, Except.error.injEq, ParseError.notADistance.injEq,
      eq_comm]
    exact (and_iff_left hunspelled).symm

end

/-- **Angles are read exactly.** The angles are the spellings of numerals, and each of them means
the number nearest to what it spells; nothing else is an angle, or a distance. A decimal of
whatever length denotes a rational number. It gives the one magnitude nearest to that, which is
infinity just from the overflow threshold on and zero just up to the underflow threshold, and its
sign is kept. -/
theorem angles_read_as_spelled :
    (∀ token a, ArgumentKind.degrees.read token = .ok a ↔
      ∃ s : Spelling, ∃ x, s.text = token ∧ s.Gives x ∧ a = .degrees x) ∧
    (∀ s : Spelling, ∃ x, ArgumentKind.degrees.read s.text = .ok (.degrees x) ∧ s.Gives x) ∧
    (∀ token e, ArgumentKind.degrees.read token = .error e ↔
      e = .notAnAngle token ∧ ¬∃ s : Spelling, s.text = token) ∧
    (∀ token t, ArgumentKind.distance.read token = .error (.notADistance t) ↔
      t = token ∧ ¬∃ s : Spelling, s.text = token) ∧
    ∀ (sign : Sign) (d : DecimalSpelling), ∃ m,
      ArgumentKind.degrees.read (Spelling.mk sign (.decimal d)).text =
        .ok (.degrees (.signed sign.isMinus m)) ∧
      (∀ n, IsNearest d.quantity n ↔ n = m) ∧
      (m = .infinite ↔ overflowThreshold ≤ d.quantity) ∧
      (m = .zero ↔ d.quantity ≤ underflowThreshold) := by
  have hread : ∀ s : Spelling,
      ∃ x, ArgumentKind.degrees.read s.text = .ok (.degrees x) ∧ s.Gives x := by
    intro s
    obtain ⟨x, hx, hgives⟩ := s.ofText?_text
    exact ⟨x, (Means.degrees hx).read, hgives⟩
  refine ⟨fun _ _ ↦ read_degrees_eq_ok_iff, hread, fun _ _ ↦ read_degrees_eq_error_iff,
    fun _ _ ↦ read_distance_eq_notADistance_iff, ?_⟩
  intro sign d
  obtain ⟨_, hx, m, rfl, hm⟩ := hread ⟨sign, .decimal d⟩
  have hunique : ∀ n, IsNearest d.quantity n ↔ n = m := by
    intro n
    constructor
    · exact fun hn ↦ hn.unique hm
    · rintro rfl
      exact hm
  exact ⟨m, hx, hunique, hm.infinite_iff, hm.eq_zero_iff d.quantity_nonneg⟩

/-! ## Distances -/

/-- **A distance denotes more than what vanishes.** Of the numerals just those are distances that
denote more than half of the smallest positive number, and they mean the number that they mean as
angles. The others are refused as not positive. -/
theorem distances_above_underflow (s : Spelling) :
    ∃ x, s.Gives x ∧ ArgumentKind.degrees.read s.text = .ok (.degrees x) ∧
      (∀ a, ArgumentKind.distance.read s.text = .ok a ↔
        s.IsAbove underflowThreshold ∧ a = .distance x) ∧
      ∀ e, ArgumentKind.distance.read s.text = .error e ↔
        ¬s.IsAbove underflowThreshold ∧ e = .nonPositiveDistance s.text := by
  obtain ⟨x, hx, hgives⟩ := s.ofText?_text
  refine ⟨x, hgives, (Means.degrees hx).read, ?_⟩
  rw [← hgives.isPositive_iff]
  by_cases hpositive : x.isPositive = true
  · rw [(Means.distance hx hpositive).read]
    simp [hpositive, eq_comm]
  · rw [(Spoils.nonPositive hx hpositive).read]
    simp [hpositive, eq_comm]

/-- A numeral for a number above zero that vanishes. -/
def vanishing : Spelling :=
  ⟨.omitted, .decimal ⟨[1], none, some ⟨false, .minus, [4, 0, 0], by decide⟩, by decide⟩⟩

theorem vanishing_isAbove_iff (bound : ℚ) : vanishing.IsAbove bound ↔ bound < 1 / 10 ^ 400 := by
  have hquantity : vanishing.IsAbove bound ↔
      bound < (((1 : ℕ) : ℚ) + ((0 : ℕ) : ℚ) / 10 ^ 0) * 10 ^ (-(400 : ℕ) : ℤ) := Iff.rfl
  rw [hquantity, zpow_neg, zpow_natCast, Nat.cast_one, Nat.cast_zero, zero_div, add_zero, one_mul,
    one_div]

/-- A number above zero need not be a distance. -/
theorem vanishing_is_no_distance :
    vanishing.text = "1e-400" ∧ vanishing.IsAbove 0 ∧
      ArgumentKind.distance.read "1e-400" = .error (.nonPositiveDistance "1e-400") := by
  have htext : vanishing.text = "1e-400" := by decide
  have hsmall : ¬vanishing.IsAbove underflowThreshold := by
    have hpowers : (2 : ℚ) ^ 1075 ≤ 10 ^ 400 := calc
      (2 : ℚ) ^ 1075 ≤ 2 ^ (3 * 400) := pow_le_pow_right₀ (by norm_num) (by norm_num)
      _ = (2 ^ 3) ^ 400 := pow_mul 2 3 400
      _ ≤ 10 ^ 400 := pow_le_pow_left₀ (by norm_num) (by norm_num) 400
    rw [vanishing_isAbove_iff, not_lt, underflowThreshold]
    exact one_div_le_one_div_of_le (by positivity) hpowers
  obtain ⟨x, hx, hgives⟩ := vanishing.ofText?_text
  refine ⟨htext, (vanishing_isAbove_iff 0).mpr (by positivity), ?_⟩
  rw [← htext]
  exact (Spoils.nonPositive hx (hgives.isPositive_iff.not.mpr hsmall)).read

end TurtleScript
