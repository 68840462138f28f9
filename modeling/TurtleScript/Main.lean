import TurtleScript.Program.Run

/-!
# The command line program

Reads the command files and the standard input, hands them to the session and shows what it does.
Every file is opened when its turn comes and not before, and none behind the command to stop. The
standard input is taken line by line, so that every command is answered before the next one is
typed.

Which records the log shows is asked for by the environment variable `TURTLE_LOG`. It is a variable
of this program alone: one that programs share holds a list with a part for each of them, and the
filters of this library are single ones, which would misread such a list.
-/

namespace TurtleScript

namespace Terminal

/-- Show some text on its stream. -/
def display (p : Print) : IO Unit := do
  let stream ← match p.stream with
    | .output => IO.getStdout
    | .error => IO.getStderr
  stream.putStr p.text
  stream.flush

/-- Whether an error code stands for an error of the system. Some parts of the machine report
errors with a minus sign. -/
def isError (code number : UInt32) : Bool := code = number || code = 0 - number

/-- What an error says of a path that was to be read. -/
def openingOf (e : IO.Error) : Opening :=
  match e with
  | .noFileOrDirectory _ _ _ => .error .notFound
  | .inappropriateType _ code _ =>
    if isError code 21 then .ok .directory else .error .notADirectory
  | .permissionDenied _ _ _ => .error (.other "Permission denied (os error 13)")
  | .invalidArgument _ code _ =>
    .error (if isError code 36 then .nameTooLong else .other (toString e))
  | e => .error (.other (toString e))

/-- Open a path. -/
def openPath (path : Bytes) : IO Opening := do
  if path.contains 0 then return .error .zeroByte
  try
    let content ← IO.FS.readBinFile (Utf8.lossy path)
    return .ok (.file content.toList)
  catch e => return openingOf e

/-- Read the standard input up to a newline or its end, after some bytes, the last of them first. -/
partial def readLine (input : IO.FS.Stream) (read : Bytes) : IO Bytes := do
  match (← input.read 1).toList with
  | [] => return read.reverse
  | b :: _ => if b = Utf8.newline then return (b :: read).reverse else readLine input (b :: read)

/-- A run that goes on, with how it is shown. -/
structure Screen where
  /-- Which records are shown. -/
  filter : LogFilter
  /-- Whether segments are shown. -/
  drawLog : Bool

/-- Show a reply, and add it to the run. -/
def Screen.add (screen : Screen) (r : Run) (reply : Reply) : IO Run := do
  for p in reply.events.flatMap (Print.ofEvent screen.filter screen.drawLog) do
    display p
  return ⟨reply.session, r.events ++ reply.events, r.readable⟩

/-- Take the files of some paths up to the command to stop, and open each path when its turn
comes. -/
def Screen.takeFiles (screen : Screen) : List Bytes → Run → IO Run
  | [], r => return r
  | path :: paths, r => do
    if r.session.finished then return r
    let opening ← openPath path
    screen.takeFiles paths (← screen.add r (r.session.runOpening path opening))

/-- Take the standard input up to its end or the command to stop. -/
partial def Screen.takeInput (screen : Screen) (input : IO.FS.Stream) (r : Run) : IO Run := do
  if r.session.finished then return r
  let line ← readLine input []
  if line.isEmpty then return ← screen.add r r.session.closeInput
  match r.session.takeInput? line with
  | none => return { r with readable := false }
  | some reply => screen.takeInput input (← screen.add r reply)

/-- Run commands as the options say. -/
def Screen.run (screen : Screen) (o : Options) : IO UInt32 := do
  let r ← screen.takeFiles o.paths ⟨.start, [], true⟩
  let r ← if o.interactive then screen.takeInput (← IO.getStdin) r else pure r
  for p in r.closing screen.filter screen.drawLog do
    display p
  return UInt32.ofNat r.code

end Terminal

end TurtleScript

open TurtleScript in
/-- The program. -/
def main (arguments : List String) : IO UInt32 := do
  let filter := ((← IO.getEnv "TURTLE_LOG").bind LogFilter.ofText?).getD .standard
  match Options.ofArguments (arguments.map Utf8.encode) with
  | .error e =>
    Terminal.display ⟨.error, e.message⟩
    return 1
  | .ok .help =>
    Terminal.display ⟨.output, Options.usage⟩
    return 0
  | .ok (.run o) => Terminal.Screen.run ⟨filter, o.drawLog⟩ o
