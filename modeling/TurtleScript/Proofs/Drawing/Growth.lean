import TurtleScript.Proofs.Drawing.TightestBox

/-!
# Views only grow

Whatever is drawn, be it out of range or not a number at all, the view of a scene stays a view
centred on the origin. It reaches to a magnitude on each axis, perhaps to infinity, so none of its
sides is ever NaN, and its width and its height are twice as far as it reaches
(`View.isSound_reaching`). Showing a point never takes back how far a view reaches
(`View.exists_shown_reaching`), for growing starts from half of the width, and this is how far the
view reaches or, once the width is not finite, further than that.
-/

namespace TurtleScript

open Binary64

/-! ## Doubles -/

namespace Binary64

open Magnitude

/-- Twice as high keeps the order. -/
theorem doubledRung_le_doubledRung {a b : Nat} (h : a ≤ b) : doubledRung a ≤ doubledRung b := by
  have hR := runLength_eq
  rw [doubledRung, doubledRung]
  split <;> split <;> omega

/-- Doubling keeps the order of what is not negative. -/
theorem double_le_double {a b : Magnitude} (h : a.rung ≤ b.rung) :
    (signed false a).double.le (signed false b).double = true := by
  have hle := doubledRung_le_doubledRung h
  rw [double_signed, double_signed, signed_false_le_iff, rung_ofRung, rung_ofRung]
  omega

/-- **Twice a number is the product with two.** -/
theorem ofNat_two_mul (x : Binary64) : ofNat 2 * x = x.double := by
  have htwo : (nearest (2 * 2 ^ oneExponent) 1).units = 2 * 2 ^ oneExponent := by decide +kernel
  have hfinite : (nearest (2 * 2 ^ oneExponent) 1).isInfinite = false := by decide +kernel
  have hnonzero : nearest (2 * 2 ^ oneExponent) 1 ≠ .zero := by decide +kernel
  cases x with
  | nan => rfl
  | signed s m =>
    change mul (ofNat 2) (signed s m) = _
    rw [ofNat, mul, hfinite, Bool.false_or, Bool.false_bne]
    by_cases hm : m = .infinite
    · have hinfinite : infinite.isInfinite = true := rfl
      have hzero : infinite ≠ .zero := by decide
      rw [hm, double, hinfinite, if_pos rfl, if_pos rfl, decide_eq_false hnonzero,
        decide_eq_false hzero, Bool.false_or, if_neg Bool.false_ne_true]
    · have hquotient : nearest (2 * 2 ^ oneExponent * m.units) (2 ^ oneExponent) =
          nearest (2 * m.units) 1 := by
        refine nearest_congr (Nat.two_pow_pos oneExponent) Nat.one_pos ?_
        rw [Nat.mul_one, Nat.mul_right_comm]
      rw [double, isInfinite_eq_false hm, if_neg Bool.false_ne_true, if_neg Bool.false_ne_true,
        htwo, hquotient]

/-- How far a coordinate is from zero. NaN counts as no distance. -/
def distance : Binary64 → Magnitude
  | nan => .zero
  | signed _ m => m

end Binary64

/-- Growing takes a coordinate by its distance. -/
theorem max_half_double_distance (reach : Magnitude) (c : Binary64) :
    (signed false reach).double.half.max c.abs =
      signed false (reachAfter reach c.distance) := by
  cases c with
  | nan =>
    have hzero : ¬reach.rung < Magnitude.zero.rung := Nat.not_lt_zero _
    rw [Binary64.abs, max_nan, distance, reachAfter, if_neg hzero]
    split
    next hover => exact half_double_of_overflows false hover
    next hover => exact half_double false hover
  | signed s m => exact max_half_double reach m

namespace View

/-! ## Sound views -/

/-- The sides of a view are numbers, and the view is centred on the origin. -/
structure IsSound (v : View) : Prop where
  /-- The left side is a number. -/
  x_ne_nan : v.x ≠ nan
  /-- The upper side is a number. -/
  y_ne_nan : v.y ≠ nan
  /-- The width is a number. -/
  width_ne_nan : v.width ≠ nan
  /-- The height is a number. -/
  height_ne_nan : v.height ≠ nan
  /-- The left side is not to the right of the origin. -/
  x_le_zero : v.x.le zero = true
  /-- The upper side is not below the origin. -/
  y_le_zero : v.y.le zero = true
  /-- The right side is as far from the origin as the left one. -/
  width_eq : v.width = ofNat 2 * -v.x
  /-- The lower side is as far from the origin as the upper one. -/
  height_eq : v.height = ofNat 2 * -v.y

/-- A view grows to another one, which lies around it. -/
structure GrowsTo (v w : View) : Prop where
  /-- The left side moves to the left. -/
  x : w.x.le v.x = true
  /-- The upper side moves upwards. -/
  y : w.y.le v.y = true
  /-- The width does not shrink. -/
  width : v.width.le w.width = true
  /-- The height does not shrink. -/
  height : v.height.le w.height = true

theorem isSound_reaching (a b : Magnitude) : (reaching a b).IsSound := by
  have hdouble : ∀ m, (signed false m).double ≠ nan := by
    intro m
    rw [double_signed]
    exact Binary64.noConfusion
  constructor
  · exact Binary64.noConfusion
  · exact Binary64.noConfusion
  · exact hdouble a
  · exact hdouble b
  · exact neg_le_signed false (Nat.zero_le _)
  · exact neg_le_signed false (Nat.zero_le _)
  · rw [ofNat_two_mul]
    rfl
  · rw [ofNat_two_mul]
    rfl

variable {a b c d : Magnitude}

theorem growsTo_reaching (hac : a.rung ≤ c.rung) (hbd : b.rung ≤ d.rung) :
    (reaching a b).GrowsTo (reaching c d) :=
  ⟨neg_le_signed true hac, neg_le_signed true hbd, double_le_double hac, double_le_double hbd⟩

/-! ## Showing points -/

/-- **The step.** To show a point never takes back how far a view reaches. -/
theorem exists_shown_reaching (a b : Magnitude) (p : Point) :
    ∃ c d, (reaching a b).shown p = reaching c d ∧ a.rung ≤ c.rung ∧ b.rung ≤ d.rung := by
  by_cases hin : (reaching a b).contains p = true
  · exact ⟨a, b, shown_of_contains hin, le_rfl, le_rfl⟩
  · refine ⟨reachAfter a p.x.distance, reachAfter b p.y.distance, ?_,
      (le_reachAfter a _).1, (le_reachAfter b _).1⟩
    rw [shown_of_not_contains (Bool.eq_false_iff.mpr hin)]
    exact congrArg₂ centred (max_half_double_distance a p.x) (max_half_double_distance b p.y)

/-- **The run.** Nor do many points. -/
theorem exists_foldl_shown_reaching (a b : Magnitude) (points : List Point) :
    ∃ c d, points.foldl View.shown (reaching a b) = reaching c d ∧
      a.rung ≤ c.rung ∧ b.rung ≤ d.rung := by
  induction points generalizing a b with
  | nil => exact ⟨a, b, rfl, le_rfl, le_rfl⟩
  | cons p points ih =>
    obtain ⟨c, d, hstep, hac, hbd⟩ := exists_shown_reaching a b p
    obtain ⟨c', d', hrun, hcc', hdd'⟩ := ih c d
    refine ⟨c', d', ?_, hac.trans hcc', hbd.trans hdd'⟩
    rw [List.foldl_cons, hstep, hrun]

end View

/-! ## Scenes -/

/-- **The view of a scene only grows.** Whatever segments are drawn, with whatever coordinates, the
view is sound before and after, and the later one lies around the earlier one. -/
theorem Scene.view_only_grows (before after : List Segment) :
    (before.foldl draw empty).view.IsSound ∧
      (before.foldl draw empty).view.GrowsTo ((before ++ after).foldl draw empty).view := by
  obtain ⟨a, b, hview⟩ : ∃ a b, (before.foldl draw empty).view = View.reaching a b := by
    obtain ⟨a, b, hbefore, -, -⟩ := View.exists_foldl_shown_reaching
      (.nearest (100 * 2 ^ oneExponent) 1) (.nearest (100 * 2 ^ oneExponent) 1)
      (before.flatMap Segment.ends)
    exact ⟨a, b, (view_foldl_draw empty before).trans hbefore⟩
  obtain ⟨c, d, hafter, hac, hbd⟩ :=
    View.exists_foldl_shown_reaching a b (after.flatMap Segment.ends)
  rw [List.foldl_append, view_foldl_draw _ after, hview, hafter]
  exact ⟨View.isSound_reaching a b, View.growsTo_reaching hac hbd⟩

end TurtleScript
