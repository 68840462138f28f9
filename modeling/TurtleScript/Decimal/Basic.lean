import TurtleScript.Binary64.Basic

/-!
# Decimals

A decimal is a whole number times a power of ten: what a number written in digits denotes. It is
written in one of two ways, positional or scientific. Both are exact, whatever the size: a
positional text may have hundreds of digits.
-/

namespace TurtleScript

/-- The number `significand * 10 ^ exponent`. -/
structure Decimal where
  /-- The digits, as one whole number. -/
  significand : Nat
  /-- How many places the digits are moved to the left. -/
  exponent : Int
  deriving DecidableEq

namespace Decimal

/-- A decimal is the quotient of its numerator by its denominator. -/
def numerator (d : Decimal) : Nat := d.significand * 10 ^ d.exponent.toNat

/-- The power of ten that a decimal is a fraction of. -/
def denominator (d : Decimal) : Nat := 10 ^ (-d.exponent).toNat

/-- The digits of a whole number, filled up with zeros on the left. -/
def paddedDigits (width n : Nat) : List Char :=
  let digits := Nat.toDigits 10 n
  List.replicate (width - digits.length) '0' ++ digits

/-- The digits of the whole part and, if the exponent is negative, after a point those of the
fraction. -/
def positional (d : Decimal) : List Char :=
  let places := (-d.exponent).toNat
  Nat.toDigits 10 (d.numerator / d.denominator) ++
    if places = 0 then [] else '.' :: paddedDigits places (d.numerator % d.denominator)

/-- The power of ten of the leading digit. -/
def order (d : Decimal) : Int := d.exponent + (Nat.toDigits 10 d.significand).length - 1

/-- The digits of an exponent, after a minus sign if it is negative. -/
def exponentDigits (e : Int) : List Char :=
  (if e < 0 then ['-'] else []) ++ Nat.toDigits 10 e.natAbs

/-- One digit, a point before the others if there are any, and the power of ten. -/
def scientific (d : Decimal) : List Char :=
  match Nat.toDigits 10 d.significand with
  | [] => []
  | [digit] => digit :: 'e' :: exponentDigits d.order
  | digit :: more => digit :: '.' :: more ++ 'e' :: exponentDigits d.order

end Decimal

end TurtleScript
