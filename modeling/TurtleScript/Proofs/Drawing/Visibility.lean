import Mathlib.Data.List.Induction
import TurtleScript.Proofs.Binary64.Doubling
import TurtleScript.Proofs.Drawing.Canvas

/-!
# What stays in view

The view of a scene is meant to keep every drawn point in sight. It reaches equally far to both
sides on each axis, but what is stored is the side it starts at and how wide it is, so it reaches as
far as half its width. That works as long as the width is finite (`IsClear.contains_shown`).

A view gets too wide as soon as it has to show a point beyond half of the largest finite number
(`isStrained_showing`). Such a view still shows all that it has been brought to show. But the next
point that is out of view makes it grow to half of an infinite width, and then its far side is
minus infinity plus infinity. No point is in such a view, and none will be again
(`IsStrained.foldl_shown`).

So all that is drawn stays visible exactly if nothing drawn after a far point is out of the view
that this point has made (`Scene.every_end_visible_iff`).
-/

namespace TurtleScript

open Binary64

/-! ## One axis -/

/-- Whether a coordinate lies between the sides of a view that reaches as far as `reach` on its
axis. -/
def spans (reach coordinate : Binary64) : Bool :=
  (-reach).le coordinate && coordinate.le (-reach + reach.double)

/-- How far a view reaches once it has been brought to show a coordinate. -/
def reachAfter (reach distance : Magnitude) : Magnitude :=
  if reach.Overflows then .infinite
  else if reach.rung < distance.rung then distance else reach

section

variable {reach distance : Magnitude}

theorem neg_le_signed (s : Bool) (h : distance.rung ≤ reach.rung) :
    (signed true reach).le (signed s distance) = true := by
  cases s <;> rw [le, place, place, decide_eq_true_iff] <;> omega

theorem signed_le (s : Bool) (h : distance.rung ≤ reach.rung) :
    (signed s distance).le (signed false reach) = true := by
  cases s <;> rw [le, place, place, decide_eq_true_iff] <;> omega

/-- What is not further away than a view reaches lies between its sides. -/
theorem spans_of_le (s : Bool) (hreach : reach ≠ .infinite) (h : distance.rung ≤ reach.rung) :
    spans (signed false reach) (signed s distance) = true := by
  rw [spans, Bool.and_eq_true]
  refine ⟨neg_le_signed s h, ?_⟩
  change (signed s distance).le (signed true reach + (signed false reach).double) = true
  by_cases hover : reach.Overflows
  · rw [neg_add_double_of_overflows hover hreach]
    exact signed_le s distance.rung_le
  · rw [neg_add_double hover]
    exact signed_le s h

/-- What lies between the sides of a view is not further away than it reaches, if its width is
finite. -/
theorem le_of_spans {s : Bool} (hover : ¬reach.Overflows)
    (h : spans (signed false reach) (signed s distance) = true) : distance.rung ≤ reach.rung := by
  rw [spans, Bool.and_eq_true] at h
  obtain ⟨hlow, hhigh⟩ := h
  change (signed s distance).le (signed true reach + (signed false reach).double) = true at hhigh
  rw [neg_add_double hover] at hhigh
  change (signed true reach).le (signed s distance) = true at hlow
  cases s with
  | false =>
    rw [le, place, place, decide_eq_true_iff] at hhigh
    omega
  | true =>
    rw [le, place, place, decide_eq_true_iff] at hlow
    omega

/-- Nothing lies between the sides of a view that reaches to infinity. -/
theorem spans_infinite (coordinate : Binary64) :
    spans (signed false .infinite) coordinate = false := by
  have hside : -signed false .infinite + (signed false .infinite).double = nan := rfl
  have hle : coordinate.le nan = false := by
    rw [le]
    cases coordinate.place <;> rfl
  rw [spans, hside, hle, Bool.and_false]

theorem max_signed_false (a b : Magnitude) :
    (signed false a).max (signed false b) = signed false (if a.rung < b.rung then b else a) := by
  have hlt : (signed false a).lt (signed false b) = decide (a.rung < b.rung) :=
    decide_eq_decide.mpr Int.ofNat_lt
  change (if (signed false a).lt (signed false b) = true then _ else _) = _
  rw [hlt]
  simp only [decide_eq_true_eq]
  split <;> rfl

theorem max_half_double (reach distance : Magnitude) :
    (signed false reach).double.half.max (signed false distance) =
      signed false (reachAfter reach distance) := by
  rw [reachAfter]
  by_cases hover : reach.Overflows
  · have hle : ¬Magnitude.infinite.rung < distance.rung := Nat.not_lt.mpr distance.rung_le
    rw [half_double_of_overflows false hover, if_pos hover, max_signed_false, if_neg hle]
  · rw [half_double false hover, if_neg hover, max_signed_false]

/-- A view reaches as far as before, and as far as it has been brought to show. -/
theorem le_reachAfter (reach distance : Magnitude) :
    reach.rung ≤ (reachAfter reach distance).rung ∧
      distance.rung ≤ (reachAfter reach distance).rung := by
  have hreach := reach.rung_le
  have hdistance := distance.rung_le
  rw [reachAfter]
  split
  · exact ⟨hreach, hdistance⟩
  · split <;> omega

theorem reachAfter_ne_infinite (hover : ¬reach.Overflows) (hfinite : distance ≠ .infinite) :
    reachAfter reach distance ≠ .infinite := by
  have hreach : reach ≠ .infinite := fun heq ↦ hover (heq ▸ Magnitude.overflows_infinite)
  rw [reachAfter, if_neg hover]
  split
  · exact hfinite
  · exact hreach

/-- The width of a view is finite until it has to show something whose double is not. -/
theorem overflows_reachAfter (reach distance : Magnitude) :
    (reachAfter reach distance).Overflows ↔ reach.Overflows ∨ distance.Overflows := by
  rw [reachAfter]
  split
  next hover => exact iff_of_true Magnitude.overflows_infinite (Or.inl hover)
  next hover =>
    simp only [Magnitude.overflows_iff] at hover ⊢
    split <;> omega

end

/-! ## Both axes -/

namespace Point

/-- Both coordinates are finite. -/
def IsFinite (p : Point) : Prop := p.x.IsFinite ∧ p.y.IsFinite

/-- A coordinate is beyond half of the largest finite number, on one side or the other. -/
def IsFar (p : Point) : Prop :=
  largest.half.lt p.x.abs = true ∨ largest.half.lt p.y.abs = true

instance : DecidablePred IsFinite := fun _ ↦ inferInstanceAs (Decidable (_ ∧ _))

instance : DecidablePred IsFar := fun _ ↦ inferInstanceAs (Decidable (_ ∨ _))

theorem IsFinite.exists_signed {p : Point} (h : p.IsFinite) :
    ∃ s dx t dy, p = ⟨signed s dx, signed t dy⟩ ∧ dx ≠ .infinite ∧ dy ≠ .infinite := by
  obtain ⟨x, y⟩ := p
  obtain ⟨hx, hy⟩ := h
  cases x with
  | nan => exact hx.elim
  | signed s dx =>
    cases y with
    | nan => exact hy.elim
    | signed t dy => exact ⟨s, dx, t, dy, rfl, hx, hy⟩

theorem isFar_iff {s t : Bool} {dx dy : Magnitude} :
    (mk (signed s dx) (signed t dy)).IsFar ↔ dx.Overflows ∨ dy.Overflows :=
  or_congr (lt_half_largest_iff s dx) (lt_half_largest_iff t dy)

end Point

namespace View

/-- The view that reaches to given distances from the origin. -/
def reaching (reachX reachY : Magnitude) : View :=
  centred (signed false reachX) (signed false reachY)

/-- The width and the height are finite. -/
def IsClear (v : View) : Prop := ∃ a b, v = reaching a b ∧ ¬a.Overflows ∧ ¬b.Overflows

/-- The width or the height is not finite. -/
def IsStrained (v : View) : Prop := ∃ a b, v = reaching a b ∧ (a.Overflows ∨ b.Overflows)

/-- A side is at infinity. -/
def IsBlind (v : View) : Prop := ∃ a b, v = reaching a b ∧ (a = .infinite ∨ b = .infinite)

variable {v : View} {p q : Point}

theorem contains_reaching (a b : Magnitude) (p : Point) :
    (reaching a b).contains p = (spans (signed false a) p.x && spans (signed false b) p.y) :=
  Bool.and_assoc ..

theorem grownTo_reaching (a b dx dy : Magnitude) (s t : Bool) :
    (reaching a b).grownTo ⟨signed s dx, signed t dy⟩ =
      reaching (reachAfter a dx) (reachAfter b dy) :=
  congrArg₂ centred (max_half_double a dx) (max_half_double b dy)

theorem isClear_initial : initial.IsClear := ⟨_, _, rfl, by decide +kernel, by decide +kernel⟩

/-- What is no further away than the view reaches is in it. -/
theorem contains_of_le {a b dx dy : Magnitude} (s t : Bool) (ha : a ≠ .infinite)
    (hb : b ≠ .infinite) (hx : dx.rung ≤ a.rung) (hy : dy.rung ≤ b.rung) :
    (reaching a b).contains ⟨signed s dx, signed t dy⟩ = true := by
  rw [contains_reaching, Bool.and_eq_true]
  exact ⟨spans_of_le s ha hx, spans_of_le t hb hy⟩

/-- Nothing is in a view that has a side at infinity. -/
theorem IsBlind.contains (hv : v.IsBlind) (p : Point) : v.contains p = false := by
  obtain ⟨a, b, rfl, rfl | rfl⟩ := hv
  · rw [contains_reaching, spans_infinite, Bool.false_and]
  · rw [contains_reaching, spans_infinite, Bool.and_false]

/-! ### Showing one point -/

theorem shown_of_contains (h : v.contains p = true) : v.shown p = v := if_pos h

theorem shown_of_not_contains (h : v.contains p = false) : v.shown p = v.grownTo p :=
  if_neg (Bool.eq_false_iff.mp h)

/-- A clear view is brought to show a point, and goes on showing what it has shown. -/
theorem IsClear.contains_shown (hv : v.IsClear) (hp : p.IsFinite) :
    (v.shown p).contains p = true ∧
      ∀ q : Point, q.IsFinite → v.contains q = true → (v.shown p).contains q = true := by
  cases hin : v.contains p with
  | true =>
    rw [shown_of_contains hin]
    exact ⟨hin, fun _ _ hq ↦ hq⟩
  | false =>
    obtain ⟨a, b, rfl, ha, hb⟩ := hv
    obtain ⟨s, dx, t, dy, rfl, hdx, hdy⟩ := hp.exists_signed
    have hfiniteX := reachAfter_ne_infinite ha hdx
    have hfiniteY := reachAfter_ne_infinite hb hdy
    obtain ⟨hreachX, hpointX⟩ := le_reachAfter a dx
    obtain ⟨hreachY, hpointY⟩ := le_reachAfter b dy
    rw [shown_of_not_contains hin, grownTo_reaching]
    refine ⟨contains_of_le s t hfiniteX hfiniteY hpointX hpointY, fun q hq hinq ↦ ?_⟩
    obtain ⟨s', dx', t', dy', rfl, -, -⟩ := hq.exists_signed
    rw [contains_reaching, Bool.and_eq_true] at hinq
    exact contains_of_le s' t' hfiniteX hfiniteY ((le_of_spans ha hinq.1).trans hreachX)
      ((le_of_spans hb hinq.2).trans hreachY)

/-- A clear view stays clear until it has to show a far point. -/
theorem IsClear.shown (hv : v.IsClear) (hp : p.IsFinite) (hnear : ¬p.IsFar) :
    (v.shown p).IsClear := by
  cases hin : v.contains p with
  | true => rwa [shown_of_contains hin]
  | false =>
    obtain ⟨a, b, rfl, ha, hb⟩ := hv
    obtain ⟨s, dx, t, dy, rfl, -, -⟩ := hp.exists_signed
    rw [Point.isFar_iff, not_or] at hnear
    rw [shown_of_not_contains hin, grownTo_reaching]
    exact ⟨_, _, rfl, (overflows_reachAfter a dx).not.mpr (not_or.mpr ⟨ha, hnear.1⟩),
      (overflows_reachAfter b dy).not.mpr (not_or.mpr ⟨hb, hnear.2⟩)⟩

/-- No far point is in a clear view. -/
theorem IsClear.not_contains_of_isFar (hv : v.IsClear) (hp : p.IsFinite) (hfar : p.IsFar) :
    v.contains p = false := by
  obtain ⟨a, b, rfl, ha, hb⟩ := hv
  obtain ⟨s, dx, t, dy, rfl, -, -⟩ := hp.exists_signed
  refine Bool.eq_false_iff.mpr fun hin ↦ ?_
  rw [contains_reaching, Bool.and_eq_true] at hin
  have hx : dx.rung ≤ a.rung := le_of_spans ha hin.1
  have hy : dy.rung ≤ b.rung := le_of_spans hb hin.2
  rw [Point.isFar_iff] at hfar
  rw [Magnitude.overflows_iff] at ha hb
  simp only [Magnitude.overflows_iff] at hfar
  omega

/-- A view that has come to show a far point is strained. -/
theorem IsClear.isStrained_shown (hv : v.IsClear) (hp : p.IsFinite) (hfar : p.IsFar) :
    (v.shown p).IsStrained := by
  rw [shown_of_not_contains (hv.not_contains_of_isFar hp hfar)]
  obtain ⟨a, b, rfl, -, -⟩ := hv
  obtain ⟨s, dx, t, dy, rfl, -, -⟩ := hp.exists_signed
  rw [grownTo_reaching]
  exact ⟨_, _, rfl, (Point.isFar_iff.mp hfar).imp
    (fun h ↦ (overflows_reachAfter a dx).mpr (Or.inr h))
    fun h ↦ (overflows_reachAfter b dy).mpr (Or.inr h)⟩

/-- A strained view that has to grow is blind. -/
theorem IsStrained.isBlind_shown (hv : v.IsStrained) (hp : p.IsFinite)
    (hout : v.contains p = false) : (v.shown p).IsBlind := by
  obtain ⟨a, b, rfl, hover⟩ := hv
  obtain ⟨s, dx, t, dy, rfl, -, -⟩ := hp.exists_signed
  rw [shown_of_not_contains hout, grownTo_reaching]
  exact ⟨_, _, rfl, hover.imp (fun h ↦ if_pos h) fun h ↦ if_pos h⟩

theorem IsBlind.isStrained (hv : v.IsBlind) : v.IsStrained := by
  obtain ⟨a, b, rfl, h⟩ := hv
  refine ⟨a, b, rfl, h.imp ?_ ?_⟩
  · rintro rfl
    exact Magnitude.overflows_infinite
  · rintro rfl
    exact Magnitude.overflows_infinite

/-- A strained view stays strained. -/
theorem IsStrained.shown (hv : v.IsStrained) (hp : p.IsFinite) : (v.shown p).IsStrained := by
  cases hin : v.contains p with
  | true => rwa [shown_of_contains hin]
  | false => exact (hv.isBlind_shown hp hin).isStrained

/-- A blind view stays blind. -/
theorem IsBlind.shown (hv : v.IsBlind) (hp : p.IsFinite) : (v.shown p).IsBlind :=
  hv.isStrained.isBlind_shown hp (hv.contains p)

/-! ### Showing many points -/

theorem foldl_shown_of_contains {points : List Point} (h : ∀ q ∈ points, v.contains q = true) :
    points.foldl View.shown v = v := by
  induction points with
  | nil => rfl
  | cons p points ih =>
    rw [List.forall_mem_cons] at h
    rw [List.foldl_cons, shown_of_contains h.1, ih h.2]

theorem IsBlind.foldl_shown {points : List Point} (hv : v.IsBlind)
    (hfinite : ∀ q ∈ points, q.IsFinite) : (points.foldl View.shown v).IsBlind := by
  induction points generalizing v with
  | nil => exact hv
  | cons p points ih =>
    rw [List.forall_mem_cons] at hfinite
    exact ih (hv.shown hfinite.1) hfinite.2

/-- **A strained view goes blind** at the first point that is not in it. -/
theorem IsStrained.foldl_shown {points : List Point} (hv : v.IsStrained)
    (hfinite : ∀ q ∈ points, q.IsFinite) (hq : q ∈ points) (hout : v.contains q = false) :
    (points.foldl View.shown v).IsBlind := by
  induction points with
  | nil => cases hq
  | cons p points ih =>
    rw [List.forall_mem_cons] at hfinite
    rw [List.foldl_cons]
    cases hin : v.contains p with
    | false => exact (hv.isBlind_shown hfinite.1 hin).foldl_shown hfinite.2
    | true =>
      rcases List.mem_cons.mp hq with rfl | hq
      · rw [hin] at hout
        cases hout
      · rw [shown_of_contains hin]
        exact ih hfinite.2 hq

/-- The view of an empty scene after some points have been brought into it. -/
def showing (points : List Point) : View := points.foldl View.shown initial

theorem showing_append (before after : List Point) :
    showing (before ++ after) = after.foldl View.shown (showing before) := List.foldl_append

theorem showing_concat (before : List Point) (p : Point) :
    showing (before ++ [p]) = (showing before).shown p := showing_append before [p]

/-- What a clear view has shown stays in view with one point more. -/
theorem IsClear.contains_concat {before : List Point} (hclear : (showing before).IsClear)
    (hfinite : ∀ q ∈ before ++ [p], q.IsFinite)
    (hbefore : ∀ q ∈ before, (showing before).contains q = true) :
    ∀ q ∈ before ++ [p], (showing (before ++ [p])).contains q = true := by
  rw [List.forall_mem_append, List.forall_mem_singleton] at hfinite
  obtain ⟨hpoint, hkeeps⟩ := hclear.contains_shown hfinite.2
  rw [showing_concat, List.forall_mem_append, List.forall_mem_singleton]
  exact ⟨fun q hq ↦ hkeeps q (hfinite.1 q hq) (hbefore q hq), hpoint⟩

/-- **Near points stay in view.** -/
theorem isClear_showing {points : List Point} (hfinite : ∀ p ∈ points, p.IsFinite)
    (hnear : ∀ p ∈ points, ¬p.IsFar) :
    (showing points).IsClear ∧ ∀ p ∈ points, (showing points).contains p = true := by
  induction points using List.reverseRecOn with
  | nil => exact ⟨isClear_initial, fun _ hp ↦ nomatch hp⟩
  | append_singleton before p ih =>
    obtain ⟨hfinite', hp⟩ := List.forall_mem_append.mp hfinite
    rw [List.forall_mem_append, List.forall_mem_singleton] at hnear
    rw [List.forall_mem_singleton] at hp
    obtain ⟨hclear, hbefore⟩ := ih hfinite' hnear.1
    refine ⟨?_, hclear.contains_concat hfinite hbefore⟩
    rw [showing_concat]
    exact hclear.shown hp hnear.2

theorem isClear_or_isStrained_showing {points : List Point} (hfinite : ∀ p ∈ points, p.IsFinite) :
    (showing points).IsClear ∨ (showing points).IsStrained := by
  induction points using List.reverseRecOn with
  | nil => exact Or.inl isClear_initial
  | append_singleton before p ih =>
    rw [List.forall_mem_append, List.forall_mem_singleton] at hfinite
    rw [showing_concat]
    rcases ih hfinite.1 with hclear | hstrained
    · by_cases hfar : p.IsFar
      · exact Or.inr (hclear.isStrained_shown hfinite.2 hfar)
      · exact Or.inl (hclear.shown hfinite.2 hfar)
    · exact Or.inr (hstrained.shown hfinite.2)

/-- A view that has had to show a far point is strained. -/
theorem isStrained_showing {before : List Point} (hfinite : ∀ q ∈ before ++ [p], q.IsFinite)
    (hfar : p.IsFar) : (showing (before ++ [p])).IsStrained := by
  rw [List.forall_mem_append, List.forall_mem_singleton] at hfinite
  rw [showing_concat]
  rcases isClear_or_isStrained_showing hfinite.1 with hclear | hstrained
  · exact hclear.isStrained_shown hfinite.2 hfar
  · exact hstrained.shown hfinite.2

/-- Nothing drawn after a far point is out of the view which that point has made. -/
def StaysInFarView (points : List Point) : Prop :=
  ∀ before p after, points = before ++ p :: after → p.IsFar →
    ∀ q ∈ after, (showing (before ++ [p])).contains q = true

variable {points : List Point}

theorem contains_showing (hfinite : ∀ p ∈ points, p.IsFinite) (h : StaysInFarView points) :
    ∀ p ∈ points, (showing points).contains p = true := by
  cases hfar : points.find? (fun p ↦ decide p.IsFar) with
  | none =>
    rw [List.find?_eq_none] at hfar
    exact (isClear_showing hfinite fun p hp ↦ by simpa using hfar p hp).2
  | some p =>
    rw [List.find?_eq_some_iff_append] at hfar
    obtain ⟨hp, before, after, rfl, hnear⟩ := hfar
    have hafter := h before p after rfl (of_decide_eq_true hp)
    rw [List.append_cons] at hfinite ⊢
    rw [List.forall_mem_append] at hfinite
    -- The first far point is brought into a clear view, so nothing is lost yet.
    obtain ⟨hclear, hbefore⟩ :=
      isClear_showing (fun q hq ↦ hfinite.1 q (List.mem_append_left _ hq)) fun q hq ↦ by
        simpa using hnear q hq
    rw [showing_append, foldl_shown_of_contains hafter, List.forall_mem_append]
    exact ⟨hclear.contains_concat hfinite.1 hbefore, hafter⟩

theorem isBlind_showing (hfinite : ∀ p ∈ points, p.IsFinite) (h : ¬StaysInFarView points) :
    (showing points).IsBlind := by
  simp only [StaysInFarView, not_forall] at h
  obtain ⟨before, p, after, rfl, hfar, q, hq, hout⟩ := h
  rw [List.append_cons, List.forall_mem_append] at hfinite
  rw [List.append_cons, showing_append]
  exact (isStrained_showing hfinite.1 hfar).foldl_shown hfinite.2 hq (Bool.eq_false_iff.mpr hout)

end View

/-! ## Scenes -/

namespace Scene

/-- The ends of all segments of a scene are in its view. -/
def EveryEndVisible (scene : Scene) : Prop :=
  ∀ s ∈ scene.segments, scene.view.contains s.start = true ∧ scene.view.contains s.stop = true

instance : DecidablePred EveryEndVisible := fun _ ↦ inferInstanceAs (Decidable (∀ _ ∈ _, _))

theorem everyEndVisible_foldl_draw (segments : List Segment) :
    (segments.foldl draw empty).EveryEndVisible ↔
      ∀ p ∈ segments.flatMap Segment.ends,
        (View.showing (segments.flatMap Segment.ends)).contains p = true := by
  rw [EveryEndVisible, segments_foldl_draw, view_foldl_draw, segments_empty, Array.empty_append,
    List.forall_mem_flatMap]
  simp only [List.mem_toArray, Segment.ends, List.forall_mem_cons, List.not_mem_nil,
    false_implies, implies_true, and_true]
  rfl

/-- **When every drawn point stays visible.** In a new scene on which segments with finite ends are
drawn, all the ends are in view exactly if nothing drawn after a point beyond half of the largest
finite number is out of the view which that point has made. If anything is, the view is lost: no
point at all is in it. As long as no end is that far away, none is ever out of view. -/
theorem every_end_visible_iff (segments : List Segment)
    (hfinite : ∀ p ∈ segments.flatMap Segment.ends, p.IsFinite) :
    ((segments.foldl draw empty).EveryEndVisible ↔
      View.StaysInFarView (segments.flatMap Segment.ends)) ∧
    (¬(segments.foldl draw empty).EveryEndVisible →
      ∀ p, (segments.foldl draw empty).view.contains p = false) ∧
    ((∀ p ∈ segments.flatMap Segment.ends, ¬p.IsFar) →
      (segments.foldl draw empty).EveryEndVisible) := by
  rw [everyEndVisible_foldl_draw, view_foldl_draw]
  have hvisible := View.contains_showing hfinite
  refine ⟨⟨fun h before p after hpoints hfar q hq ↦ ?_, hvisible⟩, fun h ↦ ?_, fun hnear ↦ ?_⟩
  · -- Otherwise the far point itself would have been lost.
    by_contra hout
    have hblind := View.isBlind_showing hfinite fun hstays ↦
      hout (hstays before p after hpoints hfar q hq)
    have hp : p ∈ segments.flatMap Segment.ends := hpoints ▸ by simp
    exact absurd (h p hp) (Bool.eq_false_iff.mp (hblind.contains p))
  · exact (View.isBlind_showing hfinite fun hstays ↦ h (hvisible hstays)).contains
  · exact (View.isClear_showing hfinite hnear).2

/-- A segment that makes the view reach to the right and upwards, but not far. -/
theorem every_end_visible_right_and_up :
    let s : Segment := ⟨⟨.ofNat 100, .zero⟩, ⟨.ofNat 300, -.ofNat 20⟩, .blue⟩
    (∀ p ∈ [s].flatMap Segment.ends, p.IsFinite) ∧ ([s].foldl draw empty).EveryEndVisible :=
  have hfinite := by decide +kernel
  ⟨hfinite, (every_end_visible_iff _ hfinite).2.2 (by decide +kernel)⟩

/-- The start of this segment is finite and makes the view too wide; its stop makes it grow again,
and neither is visible any more. -/
theorem far_start_lost :
    let s : Segment := ⟨⟨.ofNat (10 ^ (308 : Nat)), .zero⟩, ⟨.zero, .ofNat 200⟩, .blue⟩
    (∀ p ∈ s.ends, p.IsFinite) ∧ ¬(empty.draw s).EveryEndVisible := by
  decide +kernel

end Scene

end TurtleScript
