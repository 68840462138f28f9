import TurtleScript.Proofs.Drawing.Visibility

/-!
# The tightest view

As long as nothing drawn is further away than half of the largest finite number, the view of a scene
is the tightest box that is centred on the origin and shows all that has been drawn
(`Scene.tightest_box`). On each axis it reaches as far as the furthest coordinate, or as far as the
view of an empty scene if that is further (`IsFurthest`). A coordinate that is NaN asks for
nothing. Its point is never in view, so the other coordinate of the point is always looked at.

Growing takes both axes at once, and only happens at a point that is out of view. That this comes to
the same as following each axis by itself is the step of the argument
(`View.shown_reaching`): an axis on which the point is in view stays as it is, whichever way.
-/

namespace TurtleScript

open Binary64

/-! ## Coordinates -/

/-- A coordinate that asks for no more than a finite width: NaN, or not beyond half of the largest
finite number. -/
def Binary64.IsNear (c : Binary64) : Prop := c = nan ∨ c.abs.le largest.half = true

instance : DecidablePred Binary64.IsNear := fun _ ↦ inferInstanceAs (Decidable (_ ∨ _))

/-- The second number is finite and exactly twice the first. -/
def IsTwice (x y : Binary64) : Prop :=
  ∃ s m d, x = signed s m ∧ y = signed s d ∧ d ≠ .infinite ∧ d.units = 2 * m.units

/-- The largest of a hundred and the distances of some coordinates from zero. -/
structure IsFurthest (coordinates : List Binary64) (reach : Binary64) : Prop where
  /-- It is one of these numbers. -/
  attained : reach = .ofNat 100 ∨ ∃ c ∈ coordinates, c ≠ nan ∧ reach = c.abs
  /-- A hundred is no further. -/
  hundred_le : (ofNat 100).le reach = true
  /-- No coordinate is further away, unless it is NaN. -/
  abs_le : ∀ c ∈ coordinates, c ≠ nan → c.abs.le reach = true

/-- How far a view reaches once a coordinate has been taken into account. -/
def stretched (reach : Magnitude) : Binary64 → Magnitude
  | nan => reach
  | signed _ distance => if reach.rung < distance.rung then distance else reach

theorem Binary64.le_nan (c : Binary64) : c.le nan = false := by
  rw [le]
  split
  next h => cases h
  next => rfl

section

variable {reach : Magnitude} {c : Binary64} {coordinates : List Binary64}

theorem signed_false_le_iff {a b : Magnitude} :
    (signed false a).le (signed false b) = true ↔ a.rung ≤ b.rung := by
  rw [le, place, place, decide_eq_true_iff]
  exact Int.ofNat_le

theorem not_overflows_of_isNear {s : Bool} {m : Magnitude} (h : (signed s m).IsNear) :
    ¬m.Overflows := by
  intro hover
  rw [← lt_half_largest_iff s] at hover
  rcases h with h | h
  · cases h
  · rw [Binary64.abs] at h hover
    have hlargest : largest.half = signed false (.ofRung (topRung - 1 - runLength)) := by
      decide +kernel
    rw [hlargest, signed_false_le_iff] at h
    rw [hlargest, lt, place, place, decide_eq_true_iff, Int.ofNat_lt] at hover
    omega

theorem isTwice_double (h : ¬reach.Overflows) (s : Bool) :
    IsTwice (signed s reach) (signed s reach).double := by
  have hlt : doubledRung reach.rung < topRung := Nat.lt_of_not_le h
  have hrung : (Magnitude.ofRung (doubledRung reach.rung)).rung = doubledRung reach.rung :=
    Nat.min_eq_left hlt.le
  refine ⟨s, reach, .ofRung (doubledRung reach.rung), rfl, double_signed s reach, ?_, ?_⟩
  · intro heq
    rw [heq, Magnitude.rung_infinite] at hrung
    omega
  · rw [Magnitude.units, hrung, unitsAt_doubledRung, Magnitude.units]

/-! ## The furthest coordinate -/

/-- Whatever the order of the coordinates. -/
theorem IsFurthest.congr {others : List Binary64} {w : Binary64} (h : IsFurthest coordinates w)
    (hmem : ∀ c, c ∈ others ↔ c ∈ coordinates) : IsFurthest others w := by
  constructor
  · rcases h.attained with hw | ⟨c, hc, hc'⟩
    · exact Or.inl hw
    · exact Or.inr ⟨c, (hmem c).mpr hc, hc'⟩
  · exact h.hundred_le
  · intro c hc
    exact h.abs_le c ((hmem c).mp hc)

theorem IsFurthest.exists_magnitude {w : Binary64} (h : IsFurthest coordinates w) :
    ∃ m, w = signed false m := by
  rcases h.attained with rfl | ⟨c, -, hc, rfl⟩
  · exact ⟨_, rfl⟩
  · cases c with
    | nan => exact absurd rfl hc
    | signed s m => exact ⟨m, rfl⟩

theorem IsFurthest.le {v w : Binary64} (hv : IsFurthest coordinates v)
    (hw : IsFurthest coordinates w) : v.le w = true := by
  rcases hv.attained with rfl | ⟨c, hc, hnan, rfl⟩
  · exact hw.hundred_le
  · exact hw.abs_le c hc hnan

/-- There is only one furthest distance. -/
theorem IsFurthest.unique {v w : Binary64} (hv : IsFurthest coordinates v)
    (hw : IsFurthest coordinates w) : v = w := by
  have hle := hv.le hw
  have hge := hw.le hv
  obtain ⟨a, rfl⟩ := hv.exists_magnitude
  obtain ⟨b, rfl⟩ := hw.exists_magnitude
  rw [signed_false_le_iff] at hle hge
  rw [Magnitude.ext (Nat.le_antisymm hle hge)]

theorem isFurthest_nil : IsFurthest [] (ofNat 100) := by
  constructor
  · exact Or.inl rfl
  · decide +kernel
  · intro c hc
    cases hc

theorem le_stretched (reach : Magnitude) (c : Binary64) :
    reach.rung ≤ (stretched reach c).rung := by
  cases c with
  | nan => exact Nat.le_refl _
  | signed s m =>
    rw [stretched]
    split <;> omega

theorem abs_le_stretched (reach : Magnitude) (hc : c ≠ nan) :
    c.abs.le (signed false (stretched reach c)) = true := by
  cases c with
  | nan => exact absurd rfl hc
  | signed s m =>
    rw [Binary64.abs, signed_false_le_iff, stretched]
    split <;> omega

theorem stretched_eq_or (reach : Magnitude) (c : Binary64) :
    stretched reach c = reach ∨ c ≠ nan ∧ signed false (stretched reach c) = c.abs := by
  cases c with
  | nan => exact Or.inl rfl
  | signed s m =>
    rw [stretched]
    split
    · exact Or.inr ⟨by simp, rfl⟩
    · exact Or.inl rfl

/-- One coordinate more. -/
theorem IsFurthest.concat (h : IsFurthest coordinates (signed false reach)) (c : Binary64) :
    IsFurthest (coordinates ++ [c]) (signed false (stretched reach c)) := by
  have hstep : ∀ {b : Binary64}, b.le (signed false reach) = true →
      (∃ m, b = signed false m) → b.le (signed false (stretched reach c)) = true := by
    rintro b hb ⟨m, rfl⟩
    rw [signed_false_le_iff] at hb ⊢
    exact hb.trans (le_stretched reach c)
  constructor
  · rcases stretched_eq_or reach c with heq | ⟨hc, heq⟩
    · rw [heq]
      rcases h.attained with hw | ⟨d, hd, hd'⟩
      · exact Or.inl hw
      · exact Or.inr ⟨d, List.mem_append_left _ hd, hd'⟩
    · exact Or.inr ⟨c, List.mem_append_right _ List.mem_cons_self, hc, heq⟩
  · exact hstep h.hundred_le ⟨_, rfl⟩
  · rw [List.forall_mem_append, List.forall_mem_singleton]
    constructor
    · intro d hd hnan
      apply hstep (h.abs_le d hd hnan)
      cases d with
      | nan => exact absurd rfl hnan
      | signed s m => exact ⟨m, rfl⟩
    · exact abs_le_stretched reach

/-- Near coordinates leave the width finite. -/
theorem not_overflows_stretched (hover : ¬reach.Overflows) (hc : c.IsNear) :
    ¬(stretched reach c).Overflows := by
  cases c with
  | nan => exact hover
  | signed s m =>
    rw [stretched]
    split
    · exact not_overflows_of_isNear hc
    · exact hover

end

/-! ## The view -/

namespace View

/-- A view that reaches to given distances from the origin, and is exactly twice as wide and twice
as high. -/
structure IsBox (v : View) (w h : Binary64) : Prop where
  /-- The left side. -/
  x : v.x = -w
  /-- The upper side. -/
  y : v.y = -h
  /-- The right side is as far as the left one. -/
  width : IsTwice w v.width
  /-- The lower side is as far as the upper one. -/
  height : IsTwice h v.height

section

variable {a b : Magnitude}

theorem isBox_reaching (ha : ¬a.Overflows) (hb : ¬b.Overflows) :
    (reaching a b).IsBox (signed false a) (signed false b) :=
  ⟨rfl, rfl, isTwice_double ha false, isTwice_double hb false⟩

theorem max_half_double_abs (ha : ¬a.Overflows) (c : Binary64) :
    (signed false a).double.half.max c.abs = signed false (stretched a c) := by
  cases c with
  | nan => rw [Binary64.abs, max_nan, half_double false ha, stretched]
  | signed s m => rw [Binary64.abs, max_half_double, reachAfter, if_neg ha, stretched]

/-- An axis on which a coordinate is in view need not be stretched. -/
theorem stretched_eq_of_spans (ha : ¬a.Overflows) {c : Binary64}
    (hc : spans (signed false a) c = true) : stretched a c = a := by
  cases c with
  | nan => rfl
  | signed s m =>
    have hle := le_of_spans ha hc
    rw [stretched, if_neg (Nat.not_lt.mpr hle)]

/-- **The step.** To show a point is to take its coordinates into account, each on its axis. -/
theorem shown_reaching (ha : ¬a.Overflows) (hb : ¬b.Overflows) (p : Point) :
    (reaching a b).shown p = reaching (stretched a p.x) (stretched b p.y) := by
  by_cases hin : (reaching a b).contains p = true
  · rw [shown_of_contains hin]
    rw [contains_reaching, Bool.and_eq_true] at hin
    rw [stretched_eq_of_spans ha hin.1, stretched_eq_of_spans hb hin.2]
  · rw [shown_of_not_contains (Bool.eq_false_iff.mpr hin)]
    exact congrArg₂ centred (max_half_double_abs ha p.x) (max_half_double_abs hb p.y)

end

/-- A point with a coordinate that is NaN is in no view. -/
theorem not_contains_of_nan (v : View) (p : Point) (h : p.x = nan ∨ p.y = nan) :
    v.contains p = false := by
  rcases h with h | h
  · rw [contains, h, le_nan, Bool.false_and, Bool.false_and, Bool.false_and]
  · rw [contains, h, le_nan, Bool.and_false, Bool.false_and]

/-- **The run.** A view reaches as far as the furthest coordinates that it has been brought to
show. -/
theorem showing_eq_reaching {points : List Point}
    (hnear : ∀ p ∈ points, p.x.IsNear ∧ p.y.IsNear) :
    ∃ a b : Magnitude, ¬a.Overflows ∧ ¬b.Overflows ∧ showing points = reaching a b ∧
      IsFurthest (points.map Point.x) (signed false a) ∧
      IsFurthest (points.map Point.y) (signed false b) := by
  induction points using List.reverseRecOn with
  | nil =>
    exact ⟨_, _, by decide +kernel, by decide +kernel, rfl, isFurthest_nil, isFurthest_nil⟩
  | append_singleton points p ih =>
    rw [List.forall_mem_append, List.forall_mem_singleton] at hnear
    obtain ⟨hpoints, hx, hy⟩ := hnear
    obtain ⟨a, b, ha, hb, hview, hfurthestX, hfurthestY⟩ := ih hpoints
    refine ⟨stretched a p.x, stretched b p.y, not_overflows_stretched ha hx,
      not_overflows_stretched hb hy, ?_, ?_, ?_⟩
    · rw [showing_concat, hview, shown_reaching ha hb]
    · rw [List.map_append]
      exact hfurthestX.concat p.x
    · rw [List.map_append]
      exact hfurthestY.concat p.y

end View

/-! ## Scenes -/

namespace Scene

/-- A new scene shows the ends of all that is drawn, in order. -/
private theorem view_foldl_draw_empty (segments : List Segment) :
    (segments.foldl draw empty).view = View.showing (segments.flatMap Segment.ends) := by
  rw [view_foldl_draw, view_empty, View.showing]

/-- **The tightest view.** Of all segments, as long as none has a coordinate beyond half of the
largest finite number, a new scene comes to show the box that reaches exactly as far as their
furthest coordinates on each axis, and a hundred at least. A coordinate that is NaN asks for
nothing, although its point is in no view. All segments are kept in order, and any others with the
same ends, in whatever order, would be shown in the same view. -/
theorem tightest_box (segments : List Segment)
    (hnear : ∀ p ∈ segments.flatMap Segment.ends, p.x.IsNear ∧ p.y.IsNear) :
    (∃ w h, IsFurthest ((segments.flatMap Segment.ends).map Point.x) w ∧
        IsFurthest ((segments.flatMap Segment.ends).map Point.y) h ∧
        (segments.foldl draw empty).view.IsBox w h) ∧
      (∀ (v : View) (p : Point), p.x = nan ∨ p.y = nan → v.contains p = false) ∧
      (segments.foldl draw empty).segments.toList = segments ∧
      ∀ others : List Segment,
        (others.flatMap Segment.ends).Perm (segments.flatMap Segment.ends) →
          (others.foldl draw empty).view = (segments.foldl draw empty).view := by
  rw [view_foldl_draw_empty]
  obtain ⟨a, b, ha, hb, hview, hx, hy⟩ := View.showing_eq_reaching hnear
  refine ⟨⟨signed false a, signed false b, hx, hy, ?_⟩, View.not_contains_of_nan, ?_, ?_⟩
  · rw [hview]
    exact View.isBox_reaching ha hb
  · rw [segments_foldl_draw, segments_empty, Array.empty_append]
  · intro others hperm
    have hnear' : ∀ p ∈ others.flatMap Segment.ends, p.x.IsNear ∧ p.y.IsNear := by
      intro p hp
      exact hnear p (hperm.mem_iff.mp hp)
    obtain ⟨a', b', ha', hb', hview', hx', hy'⟩ := View.showing_eq_reaching hnear'
    have hsameX := (hx'.congr fun c ↦ (hperm.map Point.x).mem_iff.symm).unique hx
    have hsameY := (hy'.congr fun c ↦ (hperm.map Point.y).mem_iff.symm).unique hy
    rw [view_foldl_draw_empty, hview, hview']
    exact congrArg₂ View.centred hsameX hsameY

/-- One end is NaN on one axis and far on the other. -/
theorem tightest_box_half_nan :
    let s : Segment := ⟨⟨.nan, .ofNat 400⟩, ⟨-.ofNat 150, .zero⟩, .blue⟩
    (∀ p ∈ [s].flatMap Segment.ends, p.x.IsNear ∧ p.y.IsNear) ∧
      (∃ w h, IsFurthest [.nan, -.ofNat 150] w ∧ IsFurthest [.ofNat 400, .zero] h ∧
        ([s].foldl draw empty).view.IsBox w h) ∧
      ([s].foldl draw empty).view = ⟨-.ofNat 150, -.ofNat 400, .ofNat 300, .ofNat 800⟩ :=
  have hnear := by decide +kernel
  ⟨hnear, (tightest_box _ hnear).1, by decide +kernel⟩

end Scene

end TurtleScript
