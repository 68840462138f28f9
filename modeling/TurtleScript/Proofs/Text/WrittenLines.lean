import Mathlib.Data.String.Basic
import TurtleScript.Text.Utf8

/-!
# Lines that are written

Lines are written one after the other, each with a newline behind it. If no newline is in one of
them they can be told apart again: cutting what has been written gives the lines back
(`Text.lines_written`). So a line that is taken out of the text has been taken out of the row
(`Text.withoutLines_written`).
-/

namespace TurtleScript

namespace Text

/-- The lines of a text. What follows the last newline is a line as well, though it may be empty. -/
def lines (s : String) : List String := (s.toList.splitOn '\n').map String.ofList

/-- Some lines one after the other, each with its newline. -/
def written (ls : List String) : String := String.join (ls.map (· ++ "\n"))

/-- A text without those of its lines that are unwanted. -/
def withoutLines (unwanted : String → Bool) (s : String) : String :=
  "\n".intercalate ((lines s).filter fun l ↦ !unwanted l)

@[simp] theorem written_nil : written [] = "" := rfl

theorem written_cons (l : String) (ls : List String) :
    written (l :: ls) = l ++ "\n" ++ written ls := by
  rw [written, List.map_cons, String.join_cons, ← written]

theorem written_append (a b : List String) : written (a ++ b) = written a ++ written b := by
  rw [written, List.map_append, String.join_append, ← written, ← written]

theorem lines_append_newline {l : String} (h : '\n' ∉ l.toList) (s : String) :
    lines (l ++ "\n" ++ s) = l :: lines s := by
  have hchars : (l ++ "\n" ++ s).toList = l.toList ++ '\n' :: s.toList := by simp
  rw [lines, hchars, List.splitOn_append_cons_self_of_not_mem h, List.map_cons,
    String.ofList_toList, ← lines]

/-- **Lines that are written can be read.** -/
theorem lines_written {ls : List String} (h : ∀ l ∈ ls, '\n' ∉ l.toList) :
    lines (written ls) = ls ++ [""] := by
  induction ls with
  | nil => rfl
  | cons l ls ih =>
    rw [List.forall_mem_cons] at h
    rw [written_cons, lines_append_newline h.1, ih h.2, List.cons_append]

theorem intercalate_newline (ls : List String) : "\n".intercalate (ls ++ [""]) = written ls := by
  induction ls with
  | nil => rfl
  | cons l ls ih =>
    obtain ⟨next, rest, hrest⟩ : ∃ next rest, ls ++ [""] = next :: rest :=
      List.exists_cons_of_ne_nil (by simp)
    rw [List.cons_append, hrest, String.intercalate_cons_cons, ← hrest, ih, written_cons]

/-- Taking lines out of a text takes them out of the row. -/
theorem withoutLines_written {unwanted : String → Bool} (hempty : unwanted "" = false)
    {ls : List String} (h : ∀ l ∈ ls, '\n' ∉ l.toList) :
    withoutLines unwanted (written ls) = written (ls.filter fun l ↦ !unwanted l) := by
  rw [withoutLines, lines_written h, List.filter_append, ← intercalate_newline]
  simp [hempty]

end Text

end TurtleScript
