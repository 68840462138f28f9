import TurtleScript.Drawing.Canvas
import TurtleScript.Session.Basic

/-!
# Interpreters

An interpreter is a session with a canvas to draw on and a console to talk to. It passes on what the
session does, in order: segments to the canvas, feedback to the console. Both only receive. Neither
can change what the session does.
-/

namespace TurtleScript

/-- Something that feedback is given to. -/
inductive Console where
  /-- Keeps all feedback. -/
  | memory (entries : Array Feedback)
  /-- Keeps what the user is told, and takes no notice of a shutdown. -/
  | plain (entries : Array Feedback)

namespace Console

/-- What a console has kept. -/
def entries : Console → Array Feedback
  | memory es => es
  | plain es => es

/-- Give feedback to a console. -/
def tell (console : Console) (f : Feedback) : Console :=
  match console, f with
  | memory es, f => memory (es.push f)
  | plain es, .shutdown => plain es
  | plain es, f => plain (es.push f)

end Console

/-- Something that can be handed to an interpreter. -/
inductive Step where
  /-- A command line, with its number if it comes from a file. -/
  | line (text : String) (number : Option Nat)
  /-- An invocation, which need not be one that a line can write. -/
  | execute (invocation : Invocation)
  /-- A command file. -/
  | file (path : Bytes)
  /-- Command files, in order. -/
  | files (paths : List Bytes)

/-- What a session replies to a step. An invocation that fails gets no events. -/
def Session.take (s : Session) (files : Files) : Step → Reply
  | .line text number => s.process text number
  | .execute i =>
    match s.execute i with
    | .ok r => r
    | .error _ => s.idle
  | .file path => s.runFile files path
  | .files paths => s.runFiles files paths

/-- A session with its canvas and its console. -/
structure Interpreter where
  /-- The session. -/
  session : Session
  /-- What it draws on. -/
  canvas : Canvas
  /-- What it talks to. -/
  console : Console

namespace Interpreter

/-- A new session. -/
def start (canvas : Canvas) (console : Console) : Interpreter := ⟨.start, canvas, console⟩

/-- Pass on an event. The log is not kept. -/
def receive (i : Interpreter) : Event → Interpreter
  | .noted _ => i
  | .drew s => { i with canvas := i.canvas.draw s }
  | .told f => { i with console := i.console.tell f }

/-- Take over a reply of the session. -/
def receiveReply (i : Interpreter) (r : Reply) : Interpreter :=
  r.events.foldl receive { i with session := r.session }

/-- Take a step. -/
def take (i : Interpreter) (files : Files) (step : Step) : Interpreter :=
  i.receiveReply (i.session.take files step)

/-- Take some steps. -/
def takeAll (i : Interpreter) (files : Files) (steps : List Step) : Interpreter :=
  steps.foldl (fun i step ↦ i.take files step) i

end Interpreter

end TurtleScript
