import TurtleScript.Command.Operation
import TurtleScript.Text.Words

/-!
# Reading command lines

A line is its words. The first one selects the command. The number of the others is checked before
any of them is read, and then they are read from left to right: the first that cannot be read spoils
the line. A line without words is no command and no mistake.

Writing an invocation puts single spaces between its words, and reading the line gives it back.
-/

namespace TurtleScript

/-- Read words as arguments of the given kinds, from left to right. -/
def readArguments : List ArgumentKind → List String → Except ParseError (List Argument)
  | kind :: kinds, token :: tokens =>
    match kind.read token with
    | .error e => .error e
    | .ok argument => (readArguments kinds tokens).map (argument :: ·)
  | _, _ => .ok []

namespace Invocation

/-- The invocation of an operation with its arguments still to be read. -/
def ofOperation (op : Operation) (tokens : List String) : Except ParseError Invocation :=
  if tokens.length < op.arity then .error .tooFewArguments
  else if op.arity < tokens.length then .error .tooManyArguments
  else (readArguments op.signature tokens).map fun arguments ↦ ⟨op.word, op, arguments⟩

/-- The invocation that the words of a line write. -/
def ofWords : List String → Except ParseError (Option Invocation)
  | [] => .ok none
  | word :: tokens =>
    match Operation.ofWord? word with
    | none => .error (.unknownCommand word)
    | some op => (ofOperation op tokens).map some

/-- The invocation that a line writes. -/
def ofLine (line : String) : Except ParseError (Option Invocation) := ofWords (Text.words line)

/-- The words of an invocation. -/
def words (i : Invocation) : List String := i.operation.word :: i.arguments.map Argument.text

/-- The line of an invocation. -/
def line (i : Invocation) : String := " ".intercalate i.words

end Invocation

end TurtleScript
