import TurtleScript.Decimal.Rounding

/-!
# Numerals

The numbers of the command language: an optional sign, then either one of the words `inf`,
`infinity` and `nan` in any mixture of cases, or digits with at most one point among or around them,
followed if wanted by `e` or `E` and a whole exponent with its own optional sign. Only the digits
`0` to `9` count. Nothing may stand before, after or in between.

What a token says (`Numeral`) is kept apart from the number nearest to it (`Numeral.value`): two
different numerals may round to one number.
-/

namespace TurtleScript

/-- What a number token says, before anything is rounded. -/
inductive Numeral where
  /-- Not a number, in either sign. -/
  | nan
  /-- An infinity. -/
  | infinity (negative : Bool)
  /-- A number written in digits. Minus zero is written too. -/
  | decimal (negative : Bool) (magnitude : Decimal)
  deriving DecidableEq

namespace Numeral

/-- An optional sign, and what follows it. A minus sign gives `true`. -/
def splitSign : List Char → Bool × List Char
  | '-' :: rest => (true, rest)
  | '+' :: rest => (false, rest)
  | cs => (false, cs)

/-- The digits in front, and what follows them. -/
def splitDigits (cs : List Char) : List Char × List Char :=
  (cs.takeWhile Char.isDigit, cs.dropWhile Char.isDigit)

/-- The whole number that a row of digits writes. -/
def ofDigits (digits : List Char) : Nat := Nat.ofDigitChars 10 digits 0

/-- A whole number with an optional sign. -/
def wholeNumber? (cs : List Char) : Option Int :=
  let (negative, digits) := splitSign cs
  if digits = [] then none
  else if digits.all Char.isDigit then
    some (if negative then -(ofDigits digits : Int) else ofDigits digits)
  else none

/-- The exponent of a number, read from all that follows its digits: nothing stands for zero. -/
def exponent? : List Char → Option Int
  | [] => some 0
  | 'e' :: rest => wholeNumber? rest
  | 'E' :: rest => wholeNumber? rest
  | _ => none

/-- The digits after a point, if there is one, and what follows them. -/
def splitFraction : List Char → List Char × List Char
  | '.' :: rest => splitDigits rest
  | cs => ([], cs)

/-- An unsigned number in digits. Every digit after the point lowers the exponent by one. -/
def decimal? (cs : List Char) : Option Decimal :=
  let (whole, rest) := splitDigits cs
  let (fraction, rest) := splitFraction rest
  if whole = [] && fraction = [] then none
  else (exponent? rest).map fun e ↦ ⟨ofDigits (whole ++ fraction), e - fraction.length⟩

/-- The numeral that a token writes, if it writes one. -/
def ofChars? (cs : List Char) : Option Numeral :=
  let (negative, unsigned) := splitSign cs
  let word := unsigned.map Char.toLower
  if word = ['n', 'a', 'n'] then some nan
  else if word = ['i', 'n', 'f'] || word = ['i', 'n', 'f', 'i', 'n', 'i', 't', 'y'] then
    some (infinity negative)
  else (decimal? unsigned).map (decimal negative)

/-- The double precision number nearest to a numeral. The sign is kept even where the magnitude
rounds to zero. -/
def value : Numeral → Binary64
  | nan => .nan
  | infinity negative => .signed negative .infinite
  | decimal negative d => .signed negative d.magnitude

end Numeral

/-- The number that a token writes, if it is a numeral. -/
def Binary64.ofText? (token : String) : Option Binary64 :=
  (Numeral.ofChars? token.toList).map Numeral.value

end TurtleScript
