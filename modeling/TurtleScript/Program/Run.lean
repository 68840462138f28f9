import TurtleScript.Log.Filter
import TurtleScript.Program.Input
import TurtleScript.Program.Options

/-!
# Runs of the program

The program runs its command files and then takes commands from the standard input. What the session
does meanwhile appears on the terminal in the same order: echoes on the standard output, errors and
the log on the standard error. Segments are either written to the standard output or added to a
scene, whose size the last record of the log reports. Only an unreadable line of the standard input
makes a run fail; what is wrong with commands and files does not.
-/

namespace TurtleScript

/-- One of the two streams of a terminal. -/
inductive Stream where
  | output
  | error
  deriving DecidableEq

/-- A piece of text on a stream. -/
structure Print where
  /-- Which stream. -/
  stream : Stream
  /-- What appears on it. -/
  text : String
  deriving DecidableEq

/-- How the program ends, and what has appeared on its streams. -/
structure Outcome where
  /-- The exit code. -/
  code : Nat
  /-- The standard output. -/
  output : String
  /-- The standard error. -/
  error : String
  deriving DecidableEq

namespace Print

/-- A line on a stream. -/
def line (stream : Stream) (text : String) : Print := ⟨stream, text ++ "\n"⟩

/-- A record, if the filter lets it through. -/
def logged (filter : LogFilter) (r : LogRecord) : List Print :=
  if filter.admits r then [line .error r.text] else []

/-- What appears of an event. -/
def ofEvent (filter : LogFilter) (drawLog : Bool) : Event → List Print
  | .noted note => logged filter (.ofNote note)
  | .drew s => if drawLog then [line .output s.text] else []
  | .told (.echo text) => [line .output text]
  | .told (.error text) => [line .error text]
  | .told .shutdown => logged filter .shutdown

/-- All that appears on one stream. -/
def on (stream : Stream) (prints : List Print) : String :=
  String.join ((prints.filter fun p ↦ p.stream = stream).map Print.text)

end Print

/-- A program that has done its work. -/
structure Run where
  /-- The session at the end. -/
  session : Session
  /-- What it has done, in order. -/
  events : List Event
  /-- Whether the standard input could be read as far as it was wanted. -/
  readable : Bool

namespace Run

/-- Run the files and then, if that is wanted, the standard input. -/
def ofOptions (o : Options) (files : Files) (input : Bytes) : Run :=
  let r := Session.start.runFiles files o.paths
  if o.interactive then
    let rest := r.session.runInput (Utf8.lines input)
    ⟨rest.reply.session, r.events ++ rest.reply.events, rest.readable⟩
  else ⟨r.session, r.events, true⟩

/-- The scene of some events: empty if segments are written instead. -/
def sceneOf (drawLog : Bool) (events : List Event) : Scene :=
  if drawLog then .empty else (events.filterMap Event.segment?).foldl Scene.draw .empty

/-- What is said of a line that cannot be read. -/
def unreadableReport : String :=
  "Error: reading command\n\n" ++
  "Caused by:\n" ++
  "    0: stream did not contain valid UTF-8\n" ++
  "    1: stream did not contain valid UTF-8\n"

/-- What appears at the end of a run. -/
def closing (r : Run) (filter : LogFilter) (drawLog : Bool) : List Print :=
  if r.readable then Print.logged filter (.done r.session.registry (sceneOf drawLog r.events))
  else [⟨.error, unreadableReport⟩]

/-- All that appears in a run. -/
def prints (r : Run) (filter : LogFilter) (drawLog : Bool) : List Print :=
  r.events.flatMap (Print.ofEvent filter drawLog) ++ r.closing filter drawLog

/-- The exit code of a run. -/
def code (r : Run) : Nat := if r.readable then 0 else 1

end Run

namespace Outcome

/-- The outcome of a run. -/
def ofRun (r : Run) (filter : LogFilter) (drawLog : Bool) : Outcome where
  code := r.code
  output := Print.on .output (r.prints filter drawLog)
  error := Print.on .error (r.prints filter drawLog)

/-- The outcome of the program. -/
def ofArguments (filter : LogFilter) (arguments : List Bytes) (files : Files) (input : Bytes) :
    Outcome :=
  match Options.ofArguments arguments with
  | .error e => ⟨1, "", e.message⟩
  | .ok .help => ⟨0, Options.usage, ""⟩
  | .ok (.run o) => ofRun (.ofOptions o files input) filter o.drawLog

end Outcome

end TurtleScript
