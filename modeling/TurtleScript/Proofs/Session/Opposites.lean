import TurtleScript.Proofs.Decimal.Spelling
import TurtleScript.Proofs.Session.Lines

/-!
# Left and right

Turning left is turning right by the opposite angle, to the last bit, whatever turtle turns and
whatever the angle is (`Registry.perform_turnLeft`). Lines can say it in the same way: with a minus
sign in front, a numeral is read as the opposite number (`Binary64.ofText?_minus`), and so the line
with `left` and the line with `right` and a minus sign come to the same
(`Session.left_is_opposite_right`).

No step rounds differently for it, since signs take part in none: a numeral is rounded without its
sign, a product gets its sign apart from its rounding, and a difference is the sum with the opposite
number.
-/

namespace TurtleScript

/-! ## Numerals with a minus sign -/

namespace Numeral

/-- The numeral with the other sign. -/
def opposite : Numeral → Numeral
  | nan => nan
  | infinity negative => infinity !negative
  | decimal negative d => decimal (!negative) d

theorem value_opposite (n : Numeral) : n.opposite.value = -n.value := by cases n <;> rfl

/-- A minus sign in front of a numeral without a sign. -/
theorem ofChars?_minus {cs : List Char} (h : StartsUnsigned cs) :
    ofChars? ('-' :: cs) = (ofChars? cs).map opposite := by
  have hunsigned : splitSign cs = (false, cs) := splitSign_append .omitted h
  have hminus : splitSign ('-' :: cs) = (true, cs) := rfl
  simp only [ofChars?, hunsigned, hminus]
  split
  · rfl
  · split
    · rfl
    · cases decimal? cs <;> rfl

end Numeral

namespace Binary64

variable {token : String}

/-- **A minus sign gives the opposite number.** -/
theorem ofText?_minus (h : Numeral.StartsUnsigned token.toList) :
    ofText? ("-" ++ token) = (ofText? token).map (- ·) := by
  have hchars : ("-" ++ token).toList = '-' :: token.toList := by simp
  rw [ofText?, ofText?, hchars, Numeral.ofChars?_minus h, Option.map_map, Option.map_map]
  exact congrArg (Option.map · _) (funext Numeral.value_opposite)

end Binary64

section

variable {token : String} {a : Binary64}

theorem readDegrees_eq_ok_iff : readDegrees token = .ok a ↔ Binary64.ofText? token = some a := by
  rw [readDegrees]
  cases Binary64.ofText? token <;> simp

theorem readDegrees_minus (h : Numeral.StartsUnsigned token.toList)
    (ha : readDegrees token = .ok a) :
    readDegrees ("-" ++ token) = .ok (-a) := by
  rw [readDegrees_eq_ok_iff] at ha ⊢
  rw [Binary64.ofText?_minus h, ha, Option.map_some]

end

/-! ## Turtles that turn -/

/-- **Left is right by the opposite angle.** -/
theorem Registry.perform_turnLeft (r : Registry) (n : String) (a : Binary64) :
    (r.perform (.order n (.turnLeft a))).map Deed.registry =
      (r.perform (.order n (.turnRight (-a)))).map Deed.registry := by
  rw [perform, perform]
  cases r.get? n with
  | none => rfl
  | some t => exact congrArg (fun u ↦ Except.ok (r.put n u)) (t.follow_turnLeft a)

namespace Session

variable {s : Session} {text n : String} {o : Order}

/-- A line with an order does nothing if nobody has the name. -/
theorem session_process_of_missing (hw : Asks (Text.words text) (.act (.order n o)))
    (hn : s.registry.get? n = none) (number : Option Nat) :
    (s.process text number).session = s := by
  have hfails : (Action.order n o).work (s.registry.get? n) = .error (.doesNotExist n) := by
    rw [hn]
    rfl
  rw [process_of_failed hw hfails, refuse_session]

/-- A line with an order makes the turtle follow it. -/
theorem session_process_of_present (hw : Asks (Text.words text) (.act (.order n o))) {t : Turtle}
    (hn : s.registry.get? n = some t) (number : Option Nat) :
    (s.process text number).session = { s with registry := s.registry.put n (t.follow o) } := by
  have hdone : (Action.order n o).work (s.registry.get? n) =
      .ok ⟨t.follow o, t.record n o, t.drawing o⟩ := by
    rw [hn]
    rfl
  rw [process_of_done hw hdone, accept_session]
  rfl

/-- **Left is right with a minus sign.** Whatever turtles there are, the orders to turn one of them
left by an angle and right by the opposite angle have one result and leave the same turtles. And in
every session, a line that turns a turtle left by a numeral without a sign comes to the same as one
that turns it right by the numeral with a minus sign: the turtle, if there is one, turns by the
angle that the numeral is read as. -/
theorem left_is_opposite_right :
    (∀ (r : Registry) (n : String) (a : Binary64),
      (r.perform (.order n (.turnLeft a))).map Deed.registry =
        (r.perform (.order n (.turnRight (-a)))).map Deed.registry) ∧
    ∀ (token : String) (a : Binary64),
      Numeral.StartsUnsigned token.toList → readDegrees token = .ok a →
      readDegrees ("-" ++ token) = .ok (-a) ∧
      ∀ (s : Session) (n left right : String) (number number' : Option Nat),
        Text.words left = ["left", n, token] → Text.words right = ["right", n, "-" ++ token] →
        (s.process left number).session = (s.process right number').session ∧
        ∀ t, s.registry.get? n = some t → (s.process left number).session.registry =
          s.registry.put n { t with heading := t.heading - a.radians } := by
  refine ⟨Registry.perform_turnLeft, fun token a hunsigned ha ↦ ?_⟩
  have hminus : readDegrees ("-" ++ token) = .ok (-a) := readDegrees_minus hunsigned ha
  refine ⟨hminus, fun s n left right number number' hleft hright ↦ ?_⟩
  have hasksLeft : Asks (Text.words left) (.act (.order n (.turnLeft a))) := hleft ▸ .left n ha
  have hasksRight : Asks (Text.words right) (.act (.order n (.turnRight (-a)))) :=
    hright ▸ .right n hminus
  cases hn : s.registry.get? n with
  | none =>
    rw [session_process_of_missing hasksLeft hn, session_process_of_missing hasksRight hn]
    exact ⟨rfl, nofun⟩
  | some t =>
    rw [session_process_of_present hasksLeft hn, session_process_of_present hasksRight hn,
      t.follow_turnLeft a]
    refine ⟨rfl, ?_⟩
    rintro _ ⟨⟩
    rw [← t.follow_turnLeft a]
    rfl

/-- An angle that overflows, and a turtle that there is. -/
theorem left_is_opposite_right_beyond_all_angles :
    Numeral.StartsUnsigned "1e999".toList ∧
      readDegrees "1e999" = .ok (.signed false .infinite) ∧
      readDegrees "-1e999" = .ok (.signed true .infinite) ∧
      ((start.process "turtle t" none).session.process "left t 1e999" none).session =
        ((start.process "turtle t" none).session.process " right  t -1e999" (some 2)).session := by
  have hunsigned : Numeral.StartsUnsigned "1e999".toList := by
    rintro c ⟨⟩
    decide
  have hread : readDegrees "1e999" = .ok (.signed false .infinite) := by decide +kernel
  obtain ⟨hminus, hlines⟩ := left_is_opposite_right.2 "1e999" _ hunsigned hread
  exact ⟨hunsigned, hread, hminus, (hlines (start.process "turtle t" none).session "t"
    "left t 1e999" " right  t -1e999" none (some 2) (by decide) (by decide)).1⟩

end Session

end TurtleScript
