import TurtleScript.Text.Ranges

/-!
# Blanks, words and trimming

A character is blank if it has the Unicode property White_Space. A line is read as its words: the
longest stretches of characters that are not blank. Which blanks stand between the words, and how
many, makes no difference.
-/

namespace TurtleScript

namespace Text

/-- The code points with the property White_Space, as ranges of first and last. -/
def blankRanges : List (Nat × Nat) :=
  [(0x9, 0xD), (0x20, 0x20), (0x85, 0x85), (0xA0, 0xA0), (0x1680, 0x1680), (0x2000, 0x200A),
    (0x2028, 0x2029), (0x202F, 0x202F), (0x205F, 0x205F), (0x3000, 0x3000)]

/-- Whether a character is blank. -/
def isBlank (c : Char) : Bool := inRanges blankRanges c.toNat

/-- The pieces between any two neighbouring blanks, which may be empty. -/
def cutAtBlanks : List Char → List (List Char)
  | [] => [[]]
  | c :: cs =>
    if isBlank c then [] :: cutAtBlanks cs
    else
      match cutAtBlanks cs with
      | [] => [[c]]
      | piece :: pieces => (c :: piece) :: pieces

/-- The words of a row of characters. -/
def wordsOf (cs : List Char) : List (List Char) := (cutAtBlanks cs).filter (!·.isEmpty)

/-- The words of a text. -/
def words (s : String) : List String := (wordsOf s.toList).map String.ofList

/-- A row of characters without the blanks at its two ends. -/
def trimmed (cs : List Char) : List Char :=
  ((cs.dropWhile isBlank).reverse.dropWhile isBlank).reverse

/-- A text without the blanks at its two ends. -/
def trim (s : String) : String := String.ofList (trimmed s.toList)

/-- A row of characters that can stand as a word of a line. -/
def IsWord (w : List Char) : Prop := w ≠ [] ∧ ∀ c ∈ w, isBlank c = false

instance (w : List Char) : Decidable (IsWord w) := inferInstanceAs (Decidable (_ ∧ _))

end Text

end TurtleScript
