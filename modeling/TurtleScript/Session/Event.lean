import TurtleScript.Command.Error
import TurtleScript.Files.Opening
import TurtleScript.Registry.Journal

/-!
# Events

All that a session does to the world around it, in order: what it draws, what it tells the user, and
what it notes for the log. A session only produces events; what becomes of them is decided
elsewhere.
-/

namespace TurtleScript

/-- Something for the log. -/
inductive Note where
  /-- A turtle has changed. -/
  | changed (change : Change)
  /-- A line has failed. -/
  | failed (line : String) (error : CommandError)
  /-- A command file cannot be opened. -/
  | cannotOpen (path : Bytes) (failure : OpenFailure)
  /-- A command file has turned out to be a directory. -/
  | cannotRead (path : Bytes)
  /-- The command to stop has been given. -/
  | quit
  /-- There is no more input. -/
  | inputClosed
  deriving DecidableEq

/-- Something that the user is told, or that the user's console is asked for. -/
inductive Feedback where
  /-- A line has been carried out, or a file is being read. -/
  | echo (text : String)
  /-- Something has gone wrong. -/
  | error (text : String)
  /-- Nothing more will be taken. -/
  | shutdown
  deriving DecidableEq

/-- Something that a session does. -/
inductive Event where
  /-- It notes something for the log. -/
  | noted (note : Note)
  /-- It draws a segment. -/
  | drew (segment : Segment)
  /-- It tells the user something. -/
  | told (feedback : Feedback)
  deriving DecidableEq

namespace Event

/-- The feedback of an event. -/
def feedback? : Event → Option Feedback
  | told f => some f
  | _ => none

/-- The segment of an event. -/
def segment? : Event → Option Segment
  | drew s => some s
  | _ => none

end Event

end TurtleScript
