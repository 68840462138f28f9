import TurtleScript.Binary64.Rounding

/-!
# Arithmetic on double precision numbers

Sum, difference, product, half and double. Each computes the exact result in units and rounds once.
The sign is settled before the magnitude is rounded, so rounding never sees it: negating both
operands of a sum, or one operand of a product, negates the result.
-/

namespace TurtleScript

namespace Binary64

/-- A whole number. -/
def ofNat (n : Nat) : Binary64 := signed false (.nearest (n * 2 ^ oneExponent) 1)

/-- The sum. Opposite infinities have none, and numbers that cancel leave zero without a sign. -/
def add : Binary64 → Binary64 → Binary64
  | nan, _ => nan
  | _, nan => nan
  | signed s m, signed t n =>
    if m.isInfinite then
      if n.isInfinite && s != t then nan else signed s m
    else if n.isInfinite then signed t n
    else if s = t then signed s (.nearest (m.units + n.units) 1)
    else if m = n then zero
    else if n.rung < m.rung then signed s (.nearest (m.units - n.units) 1)
    else signed t (.nearest (n.units - m.units) 1)

/-- The product. Zero times infinity has none. -/
def mul : Binary64 → Binary64 → Binary64
  | nan, _ => nan
  | _, nan => nan
  | signed s m, signed t n =>
    if m.isInfinite || n.isInfinite then
      if m = .zero || n = .zero then nan else signed (s != t) .infinite
    else signed (s != t) (.nearest (m.units * n.units) (2 ^ oneExponent))

/-- Half a number. -/
def half : Binary64 → Binary64
  | nan => nan
  | signed s m => if m.isInfinite then signed s m else signed s (.nearest m.units 2)

/-- Twice a number. -/
def double : Binary64 → Binary64
  | nan => nan
  | signed s m => if m.isInfinite then signed s m else signed s (.nearest (2 * m.units) 1)

instance : Add Binary64 := ⟨add⟩
instance : Mul Binary64 := ⟨mul⟩
/-- A difference is the sum with the negated number. -/
instance : Sub Binary64 := ⟨fun x y ↦ add x (-y)⟩

theorem sub_eq_add_neg (x y : Binary64) : x - y = x + -y := rfl

@[simp] theorem nan_add (x : Binary64) : nan + x = nan := by cases x <;> rfl

@[simp] theorem add_nan (x : Binary64) : x + nan = nan := by cases x <;> rfl

@[simp] theorem nan_mul (x : Binary64) : nan * x = nan := by cases x <;> rfl

@[simp] theorem mul_nan (x : Binary64) : x * nan = nan := by cases x <;> rfl

/-- The sign of a product does not take part in its rounding. -/
theorem neg_mul (x y : Binary64) : -x * y = -(x * y) := by
  cases x with
  | nan => simp
  | signed s m =>
    cases y with
    | nan => simp
    | signed t n =>
      change mul (signed (!s) m) (signed t n) = -mul (signed s m) (signed t n)
      simp only [mul]
      split
      · split
        · rfl
        · cases s <;> cases t <;> rfl
      · cases s <;> cases t <;> rfl

end Binary64

end TurtleScript
