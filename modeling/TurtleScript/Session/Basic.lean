import TurtleScript.Command.Parser
import TurtleScript.Session.Event

/-!
# Sessions

A session holds the turtles and whether the command to stop has been given. It takes command lines,
one by one or from files. Every line is handled on its own: it is carried out completely and echoed,
or it changes nothing and one message says why, or it is blank and nothing happens at all.

## Files

A file is cut into lines before it is decoded, so a byte sequence that is not UTF-8 spoils no other
line. Lines are counted from 1 in every file, blank ones included. A path that cannot be opened is
reported and passed over. Once the command to stop has been carried out no further line is read and
no further file opened; a single line is still taken when it is handed in.
-/

namespace TurtleScript

/-- The turtles, and whether the command to stop has been given. -/
structure Session where
  /-- The turtles. -/
  registry : Registry
  /-- Whether the command to stop has been given. -/
  finished : Bool
  deriving DecidableEq

/-- A session after something has been handed to it, and what it has done meanwhile. -/
structure Reply where
  /-- The session afterwards. -/
  session : Session
  /-- What it has done, in order. -/
  events : List Event

/-- Go on with the session of a reply. -/
def Reply.andThen (r : Reply) (next : Session → Reply) : Reply where
  session := (next r.session).session
  events := r.events ++ (next r.session).events

namespace Session

/-- No turtles yet. -/
def start : Session := ⟨.empty, false⟩

/-- Do nothing. -/
def idle (s : Session) : Reply := ⟨s, []⟩

/-! ## Single commands -/

/-- Carry out an invocation. A failure does nothing. -/
def execute (s : Session) (i : Invocation) : Except CommandError Reply :=
  match i.request? with
  | none => .error (.parse (.argumentMismatch i.command))
  | some .quit => .ok ⟨{ s with finished := true }, [.noted .quit, .told .shutdown]⟩
  | some (.act action) =>
    match s.registry.perform action with
    | .error e => .error (.turtle e)
    | .ok deed =>
      .ok ⟨{ s with registry := deed.registry },
        .noted (.changed deed.change) :: (deed.drawn.map Event.drew).toList⟩

/-- Read a line and carry it out. A line without words asks for nothing. -/
def attempt (s : Session) (line : String) : Except CommandError (Option Reply) :=
  match Invocation.ofLine line with
  | .error e => .error (.parse e)
  | .ok none => .ok none
  | .ok (some i) => (s.execute i).map some

/-- How a failing line is called: by its number in the file it comes from, or by its own text. -/
def complaintSubject (line : String) : Option Nat → String
  | some number => "Line " ++ toString number
  | none => "'" ++ line ++ "'"

/-- How the user is told of a failing line. -/
def complaint (line : String) (number : Option Nat) (error : CommandError) : String :=
  complaintSubject line number ++ " : " ++ error.message

/-- Take a command line. -/
def process (s : Session) (text : String) (number : Option Nat) : Reply :=
  let line := Text.trim text
  match s.attempt line with
  | .ok none => s.idle
  | .ok (some r) => ⟨r.session, r.events ++ [.told (.echo line)]⟩
  | .error e =>
    ⟨s, [.noted (.failed line e), .told (.error (complaint line number e))]⟩

/-- Take some command lines, whatever they do. -/
def processAll (s : Session) : List (String × Option Nat) → Reply
  | [] => s.idle
  | line :: lines => (s.process line.1 line.2).andThen fun s ↦ s.processAll lines

/-! ## Files -/

/-- Take the lines of a file from a line number on, up to the command to stop. -/
def runLines (s : Session) (number : Nat) : List Bytes → Reply
  | [] => s.idle
  | line :: lines =>
    if s.finished then s.idle
    else
      (s.process (Utf8.lossy line) (some number)).andThen fun s ↦ s.runLines (number + 1) lines

/-- How the user is told that a path is being read. -/
def readingText (path : Bytes) : String := "Reading file: '" ++ Utf8.lossy path ++ "'"

/-- How the user is told that a path cannot be read. -/
def unreadableText (path : Bytes) (reason : String) : String :=
  "Could not read '" ++ Utf8.lossy path ++ "': " ++ reason

/-- How the user is told that a path cannot be opened. -/
def unopenedText (path : Bytes) : OpenFailure → String
  | .notFound => "No such file '" ++ Utf8.lossy path ++ "'"
  | failure => unreadableText path failure.reason

/-- Take the lines of an open path. -/
def runContent (s : Session) (path : Bytes) : Content → Reply
  | .file bytes => s.runLines 1 (Utf8.lines bytes)
  | .directory =>
    if s.finished then s.idle
    else
      ⟨s, [.noted (.cannotRead path), .told (.error (unreadableText path directoryReason))]⟩

/-- Take the lines of a path, given what comes of opening it. -/
def runOpening (s : Session) (path : Bytes) : Opening → Reply
  | .error failure =>
    ⟨s, [.noted (.cannotOpen path failure), .told (.error (unopenedText path failure))]⟩
  | .ok content =>
    Reply.andThen ⟨s, [.told (.echo (readingText path))]⟩ fun s ↦ s.runContent path content

/-- Take the lines of a path. -/
def runFile (s : Session) (files : Files) (path : Bytes) : Reply := s.runOpening path (files path)

/-- Take the lines of some paths in order, up to the command to stop. -/
def runFiles (s : Session) (files : Files) : List Bytes → Reply
  | [] => s.idle
  | path :: paths =>
    if s.finished then s.idle
    else (s.runFile files path).andThen fun s ↦ s.runFiles files paths

end Session

end TurtleScript
