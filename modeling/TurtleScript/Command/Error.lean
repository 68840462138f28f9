import TurtleScript.Colour

/-!
# What can go wrong with a command

A command line fails for one of two reasons: it is malformed, which is found before anything is
done, or it is well formed but names a turtle that is missing or already there. Every cause has one
wording.
-/

namespace TurtleScript

/-- Why a line is no command. -/
inductive ParseError where
  /-- The first word is no command. -/
  | unknownCommand (word : String)
  /-- Fewer arguments than the command takes. -/
  | tooFewArguments
  /-- More arguments than the command takes. -/
  | tooManyArguments
  /-- The word is no number. -/
  | notADistance (token : String)
  /-- The word is a number, but not above zero. -/
  | nonPositiveDistance (token : String)
  /-- The word is no number. -/
  | notAnAngle (token : String)
  /-- The word is neither `up` nor `down`. -/
  | notAPenState (token : String)
  /-- The word is no name of the palette. -/
  | notAColour (token : String)
  /-- The arguments are not those that the operation of the command takes. -/
  | argumentMismatch (command : String)
  deriving DecidableEq

/-- Why a well-formed command cannot be carried out. -/
inductive TurtleError where
  /-- There is a turtle of that name already. -/
  | alreadyExists (name : String)
  /-- There is no turtle of that name. -/
  | doesNotExist (name : String)
  deriving DecidableEq

/-- Why a command failed. -/
inductive CommandError where
  /-- It is malformed. -/
  | parse (error : ParseError)
  /-- It names the wrong turtle. -/
  | turtle (error : TurtleError)
  deriving DecidableEq

/-- How the user is told. -/
def ParseError.message : ParseError → String
  | unknownCommand word => "Unknown command '" ++ word ++ "'"
  | tooFewArguments => "Too few arguments."
  | tooManyArguments => "Too many arguments."
  | notADistance token => "'" ++ token ++ "' not a distance"
  | nonPositiveDistance token => "'" ++ token ++ "' not a distance: Distance must be positive"
  | notAnAngle token => "'" ++ token ++ "' not a valid angle"
  | notAPenState token => "'" ++ token ++ "' not a valid pen state"
  | notAColour token =>
    "'" ++ token ++ "' is not a valid colour. [Known colours: " ++ Colour.knownNames ++ "]"
  | argumentMismatch command => "Arguments do not match command '" ++ command ++ "'"

/-- How the user is told. -/
def TurtleError.message : TurtleError → String
  | alreadyExists name => "Turtle '" ++ name ++ "' already exists"
  | doesNotExist name => "Turtle '" ++ name ++ "' does not exist"

/-- How the user is told. -/
def CommandError.message : CommandError → String
  | parse error => error.message
  | turtle error => error.message

end TurtleScript
