import TurtleScript.Binary64.Basic

/-!
# Rounding to the nearest magnitude

Every result of an operation, and every number read from text, is a quotient of two natural numbers
of units rounded once: to the nearest magnitude, and from the midpoint of two magnitudes to the one
on the even rung.

In a run of steps `2 ^ k` units high the rung is the quotient by `2 ^ k`, rounded to a whole number,
plus `k` runs. A quotient that rounds up to the end of its run lands on the first rung of the next
run, and one that rounds past the largest finite magnitude lands on the rung of infinity, so neither
needs a case of its own.
-/

namespace TurtleScript

namespace Binary64

/-- The whole number nearest to `num / den`; a half goes to the even neighbour. -/
def roundHalfEven (num den : Nat) : Nat :=
  let below := num / den
  let left := 2 * (num % den)
  if left < den then below
  else if den < left then below + 1
  else below + below % 2

/-- A quotient is never rounded by more than the step to the next whole number. -/
theorem roundHalfEven_eq_or (num den : Nat) :
    roundHalfEven num den = num / den ∨ roundHalfEven num den = num / den + 1 := by
  simp only [roundHalfEven]
  split
  · exact Or.inl rfl
  · split
    · exact Or.inr rfl
    · omega

/-- How many runs of doubled steps lie below a whole number of units. -/
def doublingsBelow (units : Nat) : Nat := units.log2 - 52

/-- The magnitude nearest to `num / den` units. -/
def Magnitude.nearest (num den : Nat) : Magnitude :=
  let k := doublingsBelow (num / den)
  ofRung (k * runLength + roundHalfEven num (den * 2 ^ k))

@[simp] theorem Magnitude.nearest_zero (den : Nat) : Magnitude.nearest 0 den = .zero := by
  simp [nearest, doublingsBelow, roundHalfEven, ofRung, zero]

end Binary64

end TurtleScript
