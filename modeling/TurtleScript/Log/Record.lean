import TurtleScript.Drawing.Canvas
import TurtleScript.Session.Event
import TurtleScript.Session.Basic
import TurtleScript.Text.Quoted

/-!
# Log records

What a session notes becomes a record of the log: how important it is, which part of the program it
comes from, a message, and fields with their values. Names and lines are quoted, since a turtle may
be called anything; numbers are written shortly; messages, points and paths stand as they are.
-/

namespace TurtleScript

/-- How important a record is, most important first. -/
inductive Level where
  | error
  | warn
  | info
  | debug
  | trace
  deriving DecidableEq

namespace Level

/-- All levels. -/
def all : List Level := [error, warn, info, debug, trace]

/-- The rank of a level, from 1 for the most important. -/
def rank : Level → Nat
  | error => 1
  | warn => 2
  | info => 3
  | debug => 4
  | trace => 5

/-- The name of a level. -/
def name : Level → String
  | error => "ERROR"
  | warn => "WARN"
  | info => "INFO"
  | debug => "DEBUG"
  | trace => "TRACE"

/-- The name of a level in a column of five characters. -/
def label (level : Level) : String :=
  String.ofList (List.replicate (5 - level.name.length) ' ') ++ level.name

end Level

/-- A line of the log. -/
structure LogRecord where
  /-- How important it is. -/
  level : Level
  /-- Which part of the program it comes from. -/
  target : String
  /-- What has happened. -/
  message : String
  /-- The particulars, by name. -/
  fields : List (String × String)

namespace LogRecord

/-- A field as it is written. -/
def fieldText (field : String × String) : String := " " ++ field.1 ++ "=" ++ field.2

/-- A record as it is written, without the newline. -/
def text (r : LogRecord) : String :=
  r.level.label ++ " " ++ r.target ++ ": " ++ r.message ++ String.join (r.fields.map fieldText)

/-- The program as a whole. -/
def programTarget : String := "turtle_commands"

/-- The part that keeps the turtles. -/
def registryTarget : String := "turtle_commands::registry"

/-- The part that takes command lines. -/
def interpreterTarget : String := "turtle_commands::interpreter"

/-- The part that talks to the terminal. -/
def terminalTarget : String := "turtle_commands::io_adapters"

/-- How a record writes whether something holds. -/
def flagText (b : Bool) : String := if b then "true" else "false"

/-- The record of a change. -/
def ofChange : Change → LogRecord
  | .created name => ⟨.debug, registryTarget, "created", [("turtle", Text.quoted name)]⟩
  | .turnedLeft name heading =>
    ⟨.debug, registryTarget, "turned left",
      [("turtle", Text.quoted name), ("heading", heading.logText)]⟩
  | .turnedRight name heading =>
    ⟨.debug, registryTarget, "turned right",
      [("turtle", Text.quoted name), ("heading", heading.logText)]⟩
  | .moved name start stop penDown =>
    ⟨.debug, registryTarget, "moved",
      [("turtle", Text.quoted name), ("from", start.text), ("to", stop.text),
        ("pen_down", flagText penDown)]⟩
  | .pen name down =>
    ⟨.debug, registryTarget, "pen", [("turtle", Text.quoted name), ("down", flagText down)]⟩
  | .colour name colour =>
    ⟨.debug, registryTarget, "colour", [("turtle", Text.quoted name), ("colour", colour.name)]⟩

/-- The record of a note. -/
def ofNote : Note → LogRecord
  | .changed change => ofChange change
  | .failed line error =>
    ⟨.debug, interpreterTarget, "command failed",
      [("line", Text.quoted line), ("error", error.message)]⟩
  | .cannotOpen path failure =>
    ⟨.warn, interpreterTarget, "cannot open command file",
      [("path", Utf8.lossy path), ("error", failure.reason)]⟩
  | .cannotRead path =>
    ⟨.warn, interpreterTarget, "command file read failed",
      [("path", Utf8.lossy path), ("error", directoryReason)]⟩
  | .quit => ⟨.info, interpreterTarget, "quit", []⟩
  | .inputClosed => ⟨.info, interpreterTarget, "input closed", []⟩

/-- The record of a request to stop. -/
def shutdown : LogRecord := ⟨.info, terminalTarget, "shutdown requested", []⟩

/-- The last record of a run: how many turtles there are, how many segments the scene has, and its
view. -/
def done (registry : Registry) (scene : Scene) : LogRecord :=
  ⟨.info, programTarget, "done",
    [("turtles", toString registry.size), ("lines", toString scene.segments.size),
      ("x", scene.view.x.logText), ("y", scene.view.y.logText),
      ("width", scene.view.width.logText), ("height", scene.view.height.logText)]⟩

end LogRecord

end TurtleScript
