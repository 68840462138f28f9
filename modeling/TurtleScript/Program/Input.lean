import TurtleScript.Session.Basic
import TurtleScript.Text.Clusters

/-!
# Lines of the standard input

The standard input is cut into lines like a file, but its lines are taken without their numbers and
more strictly: one that is not UTF-8 ends the session. A line is handed in without its newline and
without a carriage return before that, and each backspace in it takes back one character: a whole
cluster, for that is what a reader takes for a character. How much a cluster holds is kept in one
byte, so of a cluster of 256 bytes or more only the remainder is taken back.
-/

namespace TurtleScript

namespace Input

/-- A line without its end: a newline, and one carriage return before it. -/
def withoutEnd (cs : List Char) : List Char :=
  match cs.reverse with
  | '\n' :: '\r' :: rest => rest.reverse
  | '\n' :: rest => rest.reverse
  | _ => cs

/-- What has been typed of a line. -/
structure Typed where
  /-- The characters that are left, the last of them first. -/
  kept : List Char
  /-- The sizes of the clusters that have not been taken back, the last of them first. -/
  sizes : List Nat

namespace Typed

/-- Nothing typed yet. -/
def nothing : Typed := ⟨[], []⟩

/-- The size of a cluster in bytes, as far as one byte can hold it. -/
def size (cluster : List Char) : Nat := (String.ofList cluster).utf8ByteSize % 256

/-- Drop as many characters as the given number of bytes takes. -/
def dropBytes : Nat → List Char → List Char
  | 0, cs => cs
  | _, [] => []
  | bytes, c :: cs => dropBytes (bytes - c.utf8Size) cs

/-- Type a cluster. A backspace takes back the last one that is left. -/
def add (t : Typed) (cluster : List Char) : Typed :=
  if cluster = ['\x08'] then
    match t.sizes with
    | [] => t
    | bytes :: sizes => ⟨dropBytes bytes t.kept, sizes⟩
  else ⟨cluster.reverse ++ t.kept, size cluster :: t.sizes⟩

end Typed

/-- What is left of some characters when every backspace has taken back one before it. -/
def withoutBackspaces (cs : List Char) : List Char :=
  ((Text.clusters cs).foldl Typed.add .nothing).kept.reverse

/-- The text of a line, if it is UTF-8. -/
def lineText? (line : Bytes) : Option String :=
  (Utf8.strict? line).map fun text ↦
    String.ofList (withoutBackspaces (withoutEnd text.toList))

private theorem kept_foldl_add {clusters : List (List Char)} (h : '\x08' ∉ clusters.flatten)
    (t : Typed) : (clusters.foldl Typed.add t).kept = clusters.flatten.reverse ++ t.kept := by
  induction clusters generalizing t with
  | nil => rfl
  | cons cluster clusters ih =>
    rw [List.flatten_cons, List.mem_append, not_or] at h
    have hne : cluster ≠ ['\x08'] := fun heq ↦ h.1 (heq ▸ List.mem_singleton_self _)
    rw [List.foldl_cons, ih h.2, Typed.add, if_neg hne]
    simp

/-- Characters without a backspace are kept. -/
theorem withoutBackspaces_eq_self {cs : List Char} (h : '\x08' ∉ cs) :
    withoutBackspaces cs = cs := by
  rw [withoutBackspaces, kept_foldl_add (by rwa [Text.flatten_clusters]), Text.flatten_clusters]
  simp [Typed.nothing]

end Input

/-- What comes of taking lines from the standard input. -/
structure InputReply where
  /-- The session afterwards, and what it has done. -/
  reply : Reply
  /-- Whether all lines that were wanted could be read. -/
  readable : Bool

namespace Session

/-- Take a line from the standard input, if it can be read. -/
def takeInput? (s : Session) (line : Bytes) : Option Reply :=
  (Input.lineText? line).map fun text ↦ s.process text none

/-- Note that there is no more input. -/
def closeInput (s : Session) : Reply := ⟨s, [.noted .inputClosed]⟩

/-- Take lines from the standard input, up to the command to stop. -/
def runInput (s : Session) : List Bytes → InputReply
  | [] => ⟨if s.finished then s.idle else s.closeInput, true⟩
  | line :: lines =>
    if s.finished then ⟨s.idle, true⟩
    else
      match s.takeInput? line with
      | none => ⟨s.idle, false⟩
      | some r =>
        let rest := r.session.runInput lines
        ⟨r.andThen fun _ ↦ rest.reply, rest.readable⟩

end Session

end TurtleScript
