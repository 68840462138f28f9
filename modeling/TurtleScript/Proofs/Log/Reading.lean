import TurtleScript.Log.Record
import TurtleScript.Proofs.Decimal.LogText
import TurtleScript.Proofs.Drawing.Decoding
import TurtleScript.Proofs.Text.Unquoting

/-!
# Changes are read from the log

The record of a change says in texts what the change is: its message tells the kind, and its fields
hold the name of the turtle between quotes and the new values, each written in its own way. Every
one of these texts can be read, so the change can be (`LogRecord.change?_ofChange`). Nothing but a
change is recorded by the part of the program that keeps the turtles
(`LogRecord.target_ofNote_iff`).
-/

namespace TurtleScript

/-! ## Points -/

namespace Point

/-- The point of a text: two coordinates in brackets. -/
def ofText? (t : String) : Option Point :=
  match Text.words t with
  | [first, second] => ofWords? first second
  | _ => none

theorem words_text (p : Point) : Text.words p.text = p.words := by
  have htext : p.text = " ".intercalate p.words := by
    rw [← String.toList_inj]
    simp [text, words, String.intercalate_cons_cons]
  have hspread := Text.spread_intercalate p.words
  rw [← htext] at hspread
  exact (Text.laidOut_iff.mp ⟨hspread, fun w ↦ isWord_of_mem_words⟩).symm

/-- A point is read from its text. -/
theorem ofText?_text (p : Point) : ofText? p.text = some p := by
  rw [ofText?, words_text]
  exact p.ofWords?_words

end Point

namespace LogRecord

/-! ## Fields -/

/-- Whether something holds, as a record writes it. -/
def ofFlagText? (t : String) : Option Bool :=
  if t = "true" then some true else if t = "false" then some false else none

theorem ofFlagText?_flagText (b : Bool) : ofFlagText? (flagText b) = some b := by
  cases b <;> decide

/-- The value of a field, read in some way. -/
def value? {α : Type} (r : LogRecord) (field : String) (read : String → Option α) : Option α :=
  (r.fields.lookup field).bind read

/-- The name of the turtle that a record is about. -/
def turtle? (r : LogRecord) : Option String := r.value? "turtle" Text.unquoted?

/-- The heading that a turtle has turned to. -/
def heading? (r : LogRecord) : Option Binary64 := r.value? "heading" Binary64.ofText?

/-- Where a turtle was before it moved. -/
def start? (r : LogRecord) : Option Point := r.value? "from" Point.ofText?

/-- Where a turtle has moved to. -/
def stop? (r : LogRecord) : Option Point := r.value? "to" Point.ofText?

/-- Whether a turtle had its pen down while it moved. -/
def penDown? (r : LogRecord) : Option Bool := r.value? "pen_down" ofFlagText?

/-- Whether a pen has been put down. -/
def down? (r : LogRecord) : Option Bool := r.value? "down" ofFlagText?

/-- The colour that a turtle has taken. -/
def colour? (r : LogRecord) : Option Colour := r.value? "colour" Colour.ofName?

/-! ## Changes -/

/-- The change that a record tells of. -/
def change? (r : LogRecord) : Option Change := do
  let name ← r.turtle?
  match r.message with
  | "created" => return .created name
  | "turned left" => return .turnedLeft name (← r.heading?)
  | "turned right" => return .turnedRight name (← r.heading?)
  | "moved" => return .moved name (← r.start?) (← r.stop?) (← r.penDown?)
  | "pen" => return .pen name (← r.down?)
  | "colour" => return .colour name (← r.colour?)
  | _ => none

/-- **A change is read from its record.** -/
theorem change?_ofChange (c : Change) : (ofChange c).change? = some c := by
  cases c <;>
    simp [change?, ofChange, turtle?, heading?, start?, stop?, penDown?, down?, colour?, value?,
      List.lookup, Text.unquoted?_quoted, Binary64.ofText?_logText, Point.ofText?_text,
      ofFlagText?_flagText]

/-- What the record of a move says. -/
theorem fields_moved (name : String) (start stop : Point) (down : Bool) :
    (ofChange (.moved name start stop down)).turtle? = some name ∧
      (ofChange (.moved name start stop down)).start? = some start ∧
      (ofChange (.moved name start stop down)).stop? = some stop ∧
      (ofChange (.moved name start stop down)).penDown? = some down := by
  simp [ofChange, turtle?, start?, stop?, penDown?, value?, List.lookup, Text.unquoted?_quoted,
    Point.ofText?_text, ofFlagText?_flagText]

/-- No other record looks like that of a move. -/
theorem still_of_ne_moved {c : Change}
    (h : ∀ name start stop down, c ≠ .moved name start stop down) :
    (ofChange c).message ≠ "moved" ∧ (ofChange c).penDown? = none := by
  cases c with
  | moved name start stop down => exact absurd rfl (h name start stop down)
  | _ => simp [ofChange, penDown?, value?, List.lookup]

/-- **Only changes are recorded where the turtles are kept.** -/
theorem target_ofNote_iff {n : Note} :
    (ofNote n).target = registryTarget ↔ ∃ c, n = .changed c := by
  have hne : interpreterTarget ≠ registryTarget := by decide
  cases n with
  | changed c => exact iff_of_true (by cases c <;> rfl) ⟨c, rfl⟩
  | failed line error => exact iff_of_false hne (by simp)
  | cannotOpen path failure => exact iff_of_false hne (by simp)
  | cannotRead path => exact iff_of_false hne (by simp)
  | quit => exact iff_of_false hne (by simp)
  | inputClosed => exact iff_of_false hne (by simp)

end LogRecord

end TurtleScript
