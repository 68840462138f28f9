import TurtleScript.Text.Utf8

/-!
# Opening command files

What a session learns of a path: that it cannot be opened, and why, or what it holds. A directory
can be opened, and it turns out only on reading that it holds no lines.
-/

namespace TurtleScript

/-- Why a path cannot be opened. -/
inductive OpenFailure where
  /-- There is nothing there. -/
  | notFound
  /-- The path goes on after a file. -/
  | notADirectory
  /-- The path or a part of it is too long. -/
  | nameTooLong
  /-- The path holds the byte zero. -/
  | zeroByte
  /-- Any other cause, in the words of the system. -/
  | other (reason : String)
  deriving DecidableEq

/-- The system's words for a failure. -/
def OpenFailure.reason : OpenFailure → String
  | notFound => "No such file or directory (os error 2)"
  | notADirectory => "Not a directory (os error 20)"
  | nameTooLong => "File name too long (os error 36)"
  | zeroByte => "file name contained an unexpected NUL byte"
  | other reason => reason

/-- What an open path holds. -/
inductive Content where
  /-- The bytes of a file. -/
  | file (bytes : Bytes)
  /-- Nothing that can be read: a directory. -/
  | directory
  deriving DecidableEq

/-- The system's words for an attempt to read a directory. -/
def directoryReason : String := "Is a directory (os error 21)"

/-- What comes of opening a path. -/
abbrev Opening := Except OpenFailure Content

/-- All that a session can see of a file system: what comes of opening each path. -/
abbrev Files := Bytes → Opening

end TurtleScript
