import TurtleScript.Text.Extending
import TurtleScript.Text.Formless

/-!
# Quoted text

The log shows a text between double quotes. Inside, a quote and a backslash stand behind a
backslash, and the most common controls have letters. Every other character that would not be seen
by itself, because it has no form or is a mark upon the one before it, is written by the hexadecimal
number of its code point.
-/

namespace TurtleScript

namespace Text

/-- Whether a character is written by its number. -/
def isEscaped (c : Char) : Bool := isFormless c || isExtendingMark c

/-- A character by the number of its code point. -/
def byNumber (c : Char) : List Char :=
  ['\\', 'u', '\x7b'] ++ Nat.toDigits 16 c.toNat ++ ['\x7d']

/-- A character inside quotes. -/
def quotedChar (c : Char) : List Char :=
  if c = '"' || c = '\\' then ['\\', c]
  else if c = '\n' then ['\\', 'n']
  else if c = '\r' then ['\\', 'r']
  else if c = '\t' then ['\\', 't']
  else if c = '\x00' then ['\\', '0']
  else if isEscaped c then byNumber c
  else [c]

/-- A text between quotes. -/
def quoted (s : String) : String :=
  String.ofList ('"' :: s.toList.flatMap quotedChar ++ ['"'])

end Text

end TurtleScript
