import TurtleScript.Command.Argument
import TurtleScript.Turtle

/-!
# The command table

There are seven operations. Each has a command word and a signature: the kinds of its arguments, in
order. An invocation is a command with arguments, and it asks for something only if its arguments
fit the signature of its operation.
-/

namespace TurtleScript

/-- What a command can do. -/
inductive Operation where
  | turtle
  | move
  | left
  | right
  | pen
  | colour
  | quit
  deriving DecidableEq

namespace Operation

/-- All operations, in the order of the command table. -/
def table : List Operation := [turtle, move, left, right, pen, colour, quit]

/-- The command word of an operation. -/
def word : Operation → String
  | turtle => "turtle"
  | move => "move"
  | left => "left"
  | right => "right"
  | pen => "pen"
  | colour => "colour"
  | quit => "quit"

/-- The kinds of the arguments that an operation takes. -/
def signature : Operation → List ArgumentKind
  | turtle => [.name]
  | move => [.name, .distance]
  | left => [.name, .degrees]
  | right => [.name, .degrees]
  | pen => [.name, .penState]
  | colour => [.name, .colour]
  | quit => []

/-- How many arguments an operation takes. -/
def arity (op : Operation) : Nat := op.signature.length

/-- The operation of a command word, spelled exactly. -/
def ofWord? (word : String) : Option Operation := table.find? fun op ↦ op.word = word

theorem mem_table (op : Operation) : op ∈ table := by cases op <;> decide

@[simp] theorem ofWord?_word (op : Operation) : ofWord? op.word = some op := by cases op <;> decide

theorem word_of_ofWord? {s : String} {op : Operation} (h : ofWord? s = some op) : op.word = s := by
  simpa using List.find?_some h

end Operation

/-- A command with its arguments. -/
structure Invocation where
  /-- The command as it is called in messages. -/
  command : String
  /-- What it is to do. -/
  operation : Operation
  /-- What with. -/
  arguments : List Argument
  deriving DecidableEq

/-- Something to be done to the turtles. -/
inductive Action where
  /-- Add a new turtle. -/
  | create (name : String)
  /-- Give an order to a turtle. -/
  | order (name : String) (order : Order)
  deriving DecidableEq

/-- The name of the turtle that an action is about. -/
def Action.name : Action → String
  | .create n => n
  | .order n _ => n

/-- What an invocation asks for. -/
inductive Request where
  /-- Do something to the turtles. -/
  | act (action : Action)
  /-- Stop taking commands. -/
  | quit
  deriving DecidableEq

namespace Invocation

/-- Whether the arguments are those that the operation takes. -/
def Fits (i : Invocation) : Prop := i.arguments.map Argument.kind = i.operation.signature

instance (i : Invocation) : Decidable i.Fits := inferInstanceAs (Decidable (_ = _))

/-- What an invocation asks for, if its arguments fit. -/
def request? (i : Invocation) : Option Request :=
  match i.operation, i.arguments with
  | .turtle, [.name n] => some (.act (.create n))
  | .move, [.name n, .distance d] => some (.act (.order n (.move d)))
  | .left, [.name n, .degrees a] => some (.act (.order n (.turnLeft a)))
  | .right, [.name n, .degrees a] => some (.act (.order n (.turnRight a)))
  | .pen, [.name n, .penState down] => some (.act (.order n (.setPen down)))
  | .colour, [.name n, .colour c] => some (.act (.order n (.setColour c)))
  | .quit, [] => some .quit
  | _, _ => none

end Invocation

end TurtleScript
