import TurtleScript.Log.Record

/-!
# Log filters

A filter says which records are written: those of one part of the program, or of all, down to a
level. It is given as a level, or as a part and a level with an equals sign between them. A part
includes the parts below it. A part alone asks for all of its records.
-/

namespace TurtleScript

/-- Which records are written. -/
structure LogFilter where
  /-- How the target of a record has to begin. -/
  area : String
  /-- The rank of the least important level that is written, or 0 for none. -/
  limit : Nat
  deriving DecidableEq

namespace LogFilter

/-- No records at all. -/
def silent : LogFilter := ⟨"", 0⟩

/-- The filter of a program that is given none: warnings and errors. -/
def standard : LogFilter := ⟨"", Level.warn.rank⟩

/-- Whether a filter lets a record through. -/
def admits (filter : LogFilter) (r : LogRecord) : Bool :=
  filter.area.toList.isPrefixOf r.target.toList && r.level.rank ≤ filter.limit

/-- The limit that a word stands for, in any mixture of cases. -/
def limit? (word : String) : Option Nat :=
  let word := word.toList.map Char.toUpper
  if word = "OFF".toList then some 0
  else (Level.all.find? fun level ↦ level.name.toList = word).map Level.rank

/-- The filter that a text asks for. -/
def ofText? (text : String) : Option LogFilter :=
  let area := text.toList.takeWhile (· ≠ '=')
  match text.toList.dropWhile (· ≠ '=') with
  | [] =>
    match limit? text with
    | some limit => some ⟨"", limit⟩
    | none => some ⟨text, Level.trace.rank⟩
  | _ :: word => (limit? (String.ofList word)).map fun limit ↦ ⟨String.ofList area, limit⟩

end LogFilter

end TurtleScript
