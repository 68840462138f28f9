/-!
# Double precision numbers

Positions, headings, distances and angles are IEEE 754 double precision numbers. They are a type of
this library, with exact arithmetic on natural numbers underneath, so that every operation can be
reasoned about: what is read, what is computed and what is printed are all functions on `Nat`.

## Rungs

List the magnitudes of all finite numbers in order: zero stands on rung 0, the smallest positive
number on rung 1, and so on up to the largest finite number. The rung above that one is infinity.
A magnitude is its rung, and nothing more: comparing magnitudes is comparing rungs, the next
magnitude up is the next rung, and the rung is also the 63 low bits of the interchange format.

## Units

Every finite magnitude is a whole multiple of the smallest positive one. `unitsAt` gives that
multiple. The rungs come in runs of `2 ^ 52`; the steps of the first two runs are one unit high and
those of each later run twice as high as those of the run before it. Applied to the rung of infinity
the same formula gives the power of two at which rounding gives up, so overflow needs no case of its
own.

There is one NaN. No operation of this library looks at its sign or payload.
-/

namespace TurtleScript

-- In all of this library powers of natural numbers are those of core, whatever others are in scope.
-- Statements on rungs and digits then mean the same wherever they are made.
attribute [scoped instance (1001)] instPowNat

namespace Binary64

/-- The number of rungs in a run of equally high steps. -/
def runLength : Nat := 2 ^ (52 : Nat)

/-- The rung of infinity. -/
def topRung : Nat := 2047 * runLength

/-- How many runs of doubled steps lie below a rung. -/
def doublings (rung : Nat) : Nat := rung / runLength - 1

/-- The magnitude on a rung, counted in smallest positive magnitudes. -/
def unitsAt (rung : Nat) : Nat :=
  (rung - doublings rung * runLength) * 2 ^ doublings rung

/-- The exponent of two in one: `2 ^ oneExponent` units make 1. -/
def oneExponent : Nat := 1074

/-- How far a number is from zero: a finite distance or infinity. -/
structure Magnitude where
  /-- The place in the list of magnitudes. -/
  rung : Nat
  /-- Nothing lies beyond infinity. -/
  rung_le : rung ≤ topRung
  deriving DecidableEq

namespace Magnitude

/-- The magnitude of zero. -/
def zero : Magnitude := ⟨0, Nat.zero_le _⟩

/-- The magnitude of infinity. -/
def infinite : Magnitude := ⟨topRung, Nat.le_refl _⟩

/-- The magnitude on a rung; every rung above that of infinity is infinity as well. -/
def ofRung (rung : Nat) : Magnitude := ⟨min rung topRung, Nat.min_le_right _ _⟩

/-- Whether a magnitude is infinity. -/
def isInfinite (m : Magnitude) : Bool := m.rung = topRung

/-- A magnitude counted in smallest positive magnitudes. -/
def units (m : Magnitude) : Nat := unitsAt m.rung

@[simp] theorem rung_zero : zero.rung = 0 := rfl

@[simp] theorem rung_infinite : infinite.rung = topRung := rfl

@[simp] theorem rung_ofRung (rung : Nat) : (ofRung rung).rung = min rung topRung := rfl

@[ext] theorem ext {m n : Magnitude} (h : m.rung = n.rung) : m = n := by
  cases m; cases n; cases h; rfl

theorem ofRung_rung (m : Magnitude) : ofRung m.rung = m :=
  ext (Nat.min_eq_left m.rung_le)

theorem isInfinite_iff {m : Magnitude} : m.isInfinite = true ↔ m = infinite := by
  rw [isInfinite, decide_eq_true_iff]
  exact ⟨fun h ↦ ext h, fun h ↦ h ▸ rfl⟩

end Magnitude

end Binary64

/-- A double precision number: a sign and a magnitude, or the one NaN. -/
inductive Binary64 where
  /-- Not a number. -/
  | nan
  /-- A number, with zero in both signs. -/
  | signed (negative : Bool) (magnitude : Binary64.Magnitude)
  deriving DecidableEq

namespace Binary64

instance : Inhabited Binary64 := ⟨signed false .zero⟩

/-- Zero without a minus sign. -/
def zero : Binary64 := signed false .zero

/-- Turn the sign around. NaN stays NaN. -/
def neg : Binary64 → Binary64
  | nan => nan
  | signed s m => signed (!s) m

instance : Neg Binary64 := ⟨neg⟩

/-- Drop the sign. NaN stays NaN. -/
def abs : Binary64 → Binary64
  | nan => nan
  | signed _ m => signed false m

@[simp] theorem neg_nan : -nan = nan := rfl

@[simp] theorem neg_signed (s : Bool) (m : Magnitude) : -signed s m = signed (!s) m := rfl

@[simp] theorem neg_neg (x : Binary64) : - -x = x := by
  cases x with
  | nan => rfl
  | signed s m => simp

@[simp] theorem abs_neg (x : Binary64) : (-x).abs = x.abs := by cases x <;> rfl

/-! ## Order

The place of a number on the line of all numbers is its rung, below zero for negative ones; the two
zeros share a place. NaN has none, so it compares with nothing, itself included. -/

/-- The place of a number on the line of all numbers. -/
def place : Binary64 → Option Int
  | nan => none
  | signed false m => some m.rung
  | signed true m => some (-m.rung)

/-- At most, as numbers compare: never with NaN. -/
def le (x y : Binary64) : Bool :=
  match x.place, y.place with
  | some i, some j => i ≤ j
  | _, _ => false

/-- Less than, as numbers compare: never with NaN. -/
def lt (x y : Binary64) : Bool :=
  match x.place, y.place with
  | some i, some j => i < j
  | _, _ => false

/-- Equal as numbers: zero equals its negative, and NaN equals nothing. -/
def same (x y : Binary64) : Bool :=
  match x.place, y.place with
  | some i, some j => i = j
  | _, _ => false

/-- The larger of two numbers. A NaN gives way to the other one. -/
def max (x y : Binary64) : Binary64 :=
  match x, y with
  | nan, y => y
  | x, nan => x
  | x, y => if x.lt y then y else x

/-- Whether a number is above zero; NaN is not. -/
def isPositive (x : Binary64) : Bool := zero.lt x

@[simp] theorem place_nan : nan.place = none := rfl

@[simp] theorem place_neg (x : Binary64) : (-x).place = x.place.map (- ·) := by
  cases x with
  | nan => rfl
  | signed s m => cases s <;> simp [place]

@[simp] theorem nan_max (x : Binary64) : max nan x = x := by cases x <;> rfl

@[simp] theorem max_nan (x : Binary64) : max x nan = x := by cases x <;> rfl

theorem isPositive_iff {x : Binary64} :
    x.isPositive = true ↔ ∃ m, x = signed false m ∧ 0 < m.rung := by
  cases x with
  | nan => simp [isPositive, lt]
  | signed s m =>
    cases s with
    | false => simp [isPositive, lt, place, zero]
    | true =>
      simp only [isPositive, lt, place, zero, Magnitude.rung_zero, decide_eq_true_eq]
      constructor
      · intro h; omega
      · rintro ⟨n, h, -⟩; simp at h

/-! ## The interchange format -/

/-- What the sign bit is worth. -/
def signWeight : Nat := 2 ^ (63 : Nat)

/-- The 64 bits of a number: the sign on top and the rung below it. -/
def toBits : Binary64 → UInt64
  | nan => 0x7FF8000000000000
  | signed s m => UInt64.ofNat (m.rung + if s then signWeight else 0)

/-- The number with the given bits. The patterns past infinity are NaN. -/
def ofBits (bits : UInt64) : Binary64 :=
  let rung := bits.toNat % signWeight
  if h : rung ≤ topRung then signed (signWeight ≤ bits.toNat) ⟨rung, h⟩ else nan

theorem ofBits_toBits (x : Binary64) : ofBits x.toBits = x := by
  cases x with
  | nan => decide
  | signed s m =>
    have hm : m.rung ≤ 0x7FF0000000000000 := m.rung_le
    have hw : signWeight = 0x8000000000000000 := rfl
    cases s with
    | false =>
      have hb : (toBits (signed false m)).toNat = m.rung := by
        simp only [toBits, Bool.false_eq_true, if_false, Nat.add_zero, UInt64.toNat_ofNat']
        omega
      have hr : m.rung % signWeight = m.rung := Nat.mod_eq_of_lt (by omega)
      simp only [ofBits, hb, hr]
      rw [dif_pos m.rung_le, decide_eq_false (by omega : ¬signWeight ≤ m.rung)]
    | true =>
      have hb : (toBits (signed true m)).toNat = m.rung + signWeight := by
        simp only [toBits, if_true, UInt64.toNat_ofNat']
        omega
      have hr : (m.rung + signWeight) % signWeight = m.rung := by
        rw [Nat.add_mod_right, Nat.mod_eq_of_lt (by omega)]
      simp only [ofBits, hb, hr]
      rw [dif_pos m.rung_le, decide_eq_true (Nat.le_add_left signWeight m.rung)]

end Binary64

end TurtleScript
