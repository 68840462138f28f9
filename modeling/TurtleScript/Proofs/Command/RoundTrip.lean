import TurtleScript.Proofs.Command.Verdict
import TurtleScript.Proofs.Decimal.RoundTrip

/-!
# Commands read back

An argument that a word can mean is written as such a word (`Argument.means_text`). So the words of
a well-formed invocation are read as that invocation, whatever the gaps between them, and as no
other invocation is ever read, what can be read is just what is well-formed (`reads_back`).
-/

namespace TurtleScript

namespace Argument

/-- The text of an argument means that argument. -/
theorem means_text {a : Argument} (h : a.IsSound) : Means a.kind a.text a := by
  cases a with
  | name n => exact .name n
  | distance d => exact .distance d.ofText?_text h.2
  | degrees a => exact .degrees a.ofText?_text
  | penState down =>
    cases down with
    | false => exact .penUp
    | true => exact .penDown
  | colour c => exact .colour c

/-- The text of an argument is one word. -/
theorem isWord_text {a : Argument} (h : a.IsSound) : Text.IsWord a.text.toList := by
  cases a with
  | name n =>
    refine ⟨?_, h.2⟩
    rw [ne_eq, String.toList_eq_nil_iff]
    exact h.1
  | distance d => exact d.isWord_text
  | degrees a => exact a.isWord_text
  | penState down => cases down <;> exact Text.isWord_of_all (by decide) (by decide)
  | colour c => cases c <;> exact Text.isWord_of_all (by decide) (by decide)

end Argument

theorem allMean_text {arguments : List Argument} (h : ∀ a ∈ arguments, a.IsSound) :
    AllMean (arguments.map Argument.kind) (arguments.map Argument.text) arguments := by
  induction arguments with
  | nil => exact .nil
  | cons a arguments ih =>
    have ha : a.IsSound := h a List.mem_cons_self
    exact .cons (Argument.means_text ha) (ih fun b hb ↦ h b (List.mem_cons_of_mem _ hb))

namespace Invocation

theorem WellFormed.verdict {i : Invocation} (h : i.WellFormed) : Verdict i.words (.ok (some i)) := by
  obtain ⟨command, operation, arguments⟩ := i
  obtain rfl : command = operation.word := h.command
  have hmean := allMean_text h.sound
  rw [h.fits] at hmean
  exact .accepted hmean

theorem WellFormed.isWord {i : Invocation} (h : i.WellFormed) :
    ∀ w ∈ i.words, Text.IsWord w.toList := by
  intro w hw
  rcases List.mem_cons.mp hw with rfl | hw
  · cases i.operation <;> exact Text.isWord_of_all (by decide) (by decide)
  · obtain ⟨a, ha, rfl⟩ := List.mem_map.mp hw
    exact Argument.isWord_text (h.sound a ha)

theorem WellFormed.ofLine {i : Invocation} (h : i.WellFormed) {line : String}
    (hline : Text.Spread (i.words.map String.toList) line.toList) :
    ofLine line = .ok (some i) := by
  have hwords : i.words = Text.words line := Text.laidOut_iff.mp ⟨hline, h.isWord⟩
  rw [Invocation.ofLine, ← hwords, ofWords_of_verdict h.verdict]

/-- **Commands read back.** The words of a well-formed invocation are read as that very invocation,
whether single spaces stand between them or any other gaps. Well-formed invocations are all that is
ever read. -/
theorem reads_back (i : Invocation) :
    (i.WellFormed →
      (∀ line, Text.Spread (i.words.map String.toList) line.toList → ofLine line = .ok (some i)) ∧
        ofLine i.line = .ok (some i)) ∧
      ((∃ line, ofLine line = .ok (some i)) ↔ i.WellFormed) := by
  have hsingle (h : i.WellFormed) : ofLine i.line = .ok (some i) :=
    h.ofLine (Text.spread_intercalate i.words)
  refine ⟨fun h ↦ ⟨fun _ ↦ h.ofLine, hsingle h⟩, ?_, fun h ↦ ⟨i.line, hsingle h⟩⟩
  rintro ⟨line, hline⟩
  exact wellFormed_of_ofLine hline

/-- The sign of a zero is read back. -/
theorem reads_back_minus_zero :
    ofLine (Invocation.mk "left" .left [.name "t", .degrees (-.zero)]).line =
      .ok (some ⟨"left", .left, [.name "t", .degrees (-.zero)]⟩) := by
  have hwell : (Invocation.mk "left" .left [.name "t", .degrees (-.zero)]).WellFormed := by
    have hname : (Argument.name "t").IsSound :=
      ⟨by decide, (Text.isWord_of_all (by decide) (by decide)).2⟩
    refine ⟨rfl, rfl, ?_⟩
    rw [List.forall_mem_cons, List.forall_mem_singleton]
    exact ⟨hname, trivial⟩
  exact ((reads_back _).1 hwell).2

end Invocation

end TurtleScript
