import TurtleScript.Text.Utf8

/-!
# Command line options

Arguments are read from left to right. Options come first; the first argument that is no option ends
them, and so do two dashes, which are dropped. From there on everything is the path of a command
file, whatever it looks like. A request for help outweighs all that is asked for besides, but
options may not follow it.
-/

namespace TurtleScript

/-- What the program is asked to do. -/
structure Options where
  /-- Whether to take commands from the standard input after the files. -/
  interactive : Bool
  /-- Whether to write every segment to the standard output. -/
  drawLog : Bool
  /-- The command files, in order. -/
  paths : List Bytes
  deriving DecidableEq

/-- What comes of reading the arguments. -/
inductive Task where
  /-- Run commands. -/
  | run (options : Options)
  /-- Explain the options. -/
  | help
  deriving DecidableEq

/-- Why arguments are refused. -/
inductive UsageError where
  /-- An argument is not UTF-8. -/
  | invalidUtf8 (argument : Bytes)
  /-- There is no such option. -/
  | unrecognized (argument : String)
  /-- An option follows a request for help. -/
  | optionAfterHelp
  deriving DecidableEq

namespace Options

/-- The explanation of the options. -/
def usage : String :=
  "Usage: turtle_commands [--no-interactive] [--draw-log] [files...]\n\n" ++
  "Drive drawing turtles with line commands read from files, then from the keyboard.\n\n" ++
  "Options:\n" ++
  "  --no-interactive  don't read commands interactively after the files\n" ++
  "  --draw-log        print every drawn line to standard output\n" ++
  "  --help, help      display usage information\n\n"

/-- Where to find the explanation of the options. -/
def usageHint : String := "Run turtle_commands --help for more information.\n"

/-- What is done if nothing is asked for. -/
def plain : Options := ⟨true, false, []⟩

/-- Whether an argument has the look of an option. -/
def isOption (argument : String) : Bool := ['-'].isPrefixOf argument.toList

/-- Read the arguments that are left, with what has been asked for so far. -/
def scan (helpAsked : Bool) (o : Options) : List String → Except UsageError Task
  | [] => .ok (if helpAsked then .help else .run o)
  | argument :: rest =>
    if argument = "--help" || argument = "help" then scan true o rest
    else if argument = "--" then finish rest
    else if isOption argument then
      if helpAsked then .error .optionAfterHelp
      else if argument = "--no-interactive" then scan false { o with interactive := false } rest
      else if argument = "--draw-log" then scan false { o with drawLog := true } rest
      else .error (.unrecognized argument)
    else finish (argument :: rest)
where
  /-- All that is left are paths. -/
  finish (paths : List String) : Except UsageError Task :=
    .ok (if helpAsked then .help else .run { o with paths := paths.map Utf8.encode })

/-- The texts of the arguments, all of which must be UTF-8. -/
def texts : List Bytes → Except UsageError (List String)
  | [] => .ok []
  | argument :: rest =>
    match Utf8.strict? argument with
    | none => .error (.invalidUtf8 argument)
    | some text => (texts rest).map (text :: ·)

/-- Read the arguments of the program. -/
def ofArguments (arguments : List Bytes) : Except UsageError Task :=
  match texts arguments with
  | .error e => .error e
  | .ok ts => scan false plain ts

end Options

/-- How the user is told. -/
def UsageError.message : UsageError → String
  | invalidUtf8 argument => "Invalid utf8: " ++ Utf8.lossy argument ++ "\n"
  | unrecognized argument => "Unrecognized argument: " ++ argument ++ "\n\n" ++ Options.usageHint
  | optionAfterHelp => "Trailing arguments are not allowed after `help`.\n" ++ Options.usageHint

end TurtleScript
