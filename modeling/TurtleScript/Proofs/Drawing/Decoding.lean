import TurtleScript.Command.Argument
import TurtleScript.Proofs.Decimal.RoundTrip
import TurtleScript.Proofs.Drawing.Canvas
import TurtleScript.Proofs.Text.Layout
import TurtleScript.Proofs.Text.WrittenLines

/-!
# A drawing can be read from its text

A text canvas loses nothing. Every segment is a line of seven words, four of which hold a number
between brackets and commas, and numbers are printed so that each can be read as what it was. No
newline is in a line, so the lines are known as well, and with them the segments, one by one
(`Canvas.text_lossless`).

## The decoder

`Drawing.ofText?` cuts a text at its newlines and each line at its blanks. It reads a number as the
commands for turning do. There it makes no difference how many digits the number has or whether it
has any: an infinity is a word, and so is NaN, which is one number.
-/

namespace TurtleScript

/-! ## Reading a segment -/

/-- The number in a word, with what stands in front of it and behind it. -/
def coordinate? (front back word : String) : Option Binary64 := do
  let inner ← word.toList.dropPrefix? front.toList
  let number ← inner.dropSuffix? back.toList
  (readDegrees (String.ofList number)).toOption

/-- The point that two words hold. -/
def Point.ofWords? (first second : String) : Option Point := do
  let x ← coordinate? "(" "," first
  let y ← coordinate? "" ")" second
  return ⟨x, y⟩

/-- The segment of a line of text. -/
def Segment.ofText? (line : String) : Option Segment :=
  match Text.words line with
  | ["line", x, y, "->", x', y', c] => do
    let start ← Point.ofWords? x y
    let stop ← Point.ofWords? x' y'
    let colour ← Colour.ofName? c
    return ⟨start, stop, colour⟩
  | _ => none

theorem coordinate?_text (front back : String) (x : Binary64) :
    coordinate? front back (front ++ x.text ++ back) = some x := by
  have hfront : (front.toList ++ (x.text.toList ++ back.toList)).dropPrefix? front.toList =
      some (x.text.toList ++ back.toList) :=
    List.dropPrefix?_eq_some_iff.mpr ⟨_, rfl, beq_self_eq_true _⟩
  have hback : (x.text.toList ++ back.toList).dropSuffix? back.toList = some x.text.toList :=
    List.dropSuffix?_eq_some_iff.mpr ⟨_, rfl, beq_self_eq_true _⟩
  have hread : (readDegrees x.text).toOption = some x := by
    rw [readDegrees, x.ofText?_text]
    rfl
  rw [coordinate?, String.toList_append, String.toList_append, List.append_assoc, hfront]
  simp only [Option.bind_eq_bind, Option.bind_some, hback, String.ofList_toList, hread]

namespace Point

/-- The words of a point. -/
def words (p : Point) : List String := ["(" ++ p.x.text ++ ",", p.y.text ++ ")"]

theorem ofWords?_words (p : Point) :
    ofWords? ("(" ++ p.x.text ++ ",") (p.y.text ++ ")") = some p := by
  have hy := coordinate?_text "" ")" p.y
  rw [String.empty_append] at hy
  rw [ofWords?, coordinate?_text, hy]
  rfl

theorem isWord_of_mem_words {p : Point} {w : String} (h : w ∈ p.words) :
    Text.IsWord w.toList := by
  have hmarks : Text.isBlank '(' = false ∧ Text.isBlank ')' = false ∧
      Text.isBlank ',' = false := by decide
  have hnumber : ∀ x : Binary64, ∀ c ∈ x.text.toList, Text.isBlank c = false :=
    fun x ↦ x.isWord_text.2
  rw [words, List.mem_cons, List.mem_singleton] at h
  rcases h with rfl | rfl
  · refine ⟨by simp, fun c hc ↦ ?_⟩
    simp only [String.toList_append, List.mem_append] at hc
    rcases hc with (hc | hc) | hc
    · exact List.mem_singleton.mp hc ▸ hmarks.1
    · exact hnumber _ c hc
    · exact List.mem_singleton.mp hc ▸ hmarks.2.2
  · refine ⟨by simp, fun c hc ↦ ?_⟩
    rw [String.toList_append, List.mem_append] at hc
    rcases hc with hc | hc
    · exact hnumber _ c hc
    · exact List.mem_singleton.mp hc ▸ hmarks.2.1

end Point

namespace Segment

/-- The words of a segment. -/
def words (s : Segment) : List String :=
  "line" :: (s.start.words ++ "->" :: (s.stop.words ++ [s.colour.name]))

theorem text_eq (s : Segment) : s.text = " ".intercalate s.words := by
  rw [← String.toList_inj]
  simp [text, words, Point.text, Point.words, String.intercalate_cons_cons]

theorem isWord_of_mem_words {s : Segment} {w : String} (h : w ∈ s.words) :
    Text.IsWord w.toList := by
  have hcolour : ∀ c : Colour, Text.IsWord c.name.toList := by
    intro c
    cases c <;> exact Text.isWord_of_all (by decide) (by decide)
  simp only [words, List.mem_cons, List.mem_append, List.not_mem_nil, or_false] at h
  rcases h with rfl | h | rfl | h | rfl
  · exact Text.isWord_of_all (by decide) (by decide)
  · exact Point.isWord_of_mem_words h
  · exact Text.isWord_of_all (by decide) (by decide)
  · exact Point.isWord_of_mem_words h
  · exact hcolour s.colour

theorem words_text (s : Segment) : Text.words s.text = s.words := by
  have hspread := Text.spread_intercalate s.words
  rw [← text_eq] at hspread
  exact (Text.laidOut_iff.mp ⟨hspread, fun w ↦ isWord_of_mem_words⟩).symm

/-- **A segment can be read from its line.** -/
theorem ofText?_text (s : Segment) : ofText? s.text = some s := by
  rw [ofText?, words_text]
  simp only [words, Point.words, List.cons_append, List.nil_append, Point.ofWords?_words,
    Colour.ofName?_name]
  rfl

theorem newline_not_mem_text (s : Segment) : '\n' ∉ s.text.toList := by
  have hnumber : ∀ x : Binary64, '\n' ∉ x.text.toList := by
    intro x hx
    have hblank := x.isWord_text.2 _ hx
    exact absurd hblank (by decide)
  have hcolour : ∀ c : Colour, '\n' ∉ c.name.toList := by
    intro c
    cases c <;> decide
  simp [text, Point.text, hnumber, hcolour]

theorem text_injective {s t : Segment} (h : s.text = t.text) : s = t := by
  have hs := ofText?_text s
  rw [h, ofText?_text] at hs
  exact (Option.some.inj hs).symm

/-- **A line ends where it ends.** What follows makes no difference to a segment that is read. -/
theorem append_newline_inj {s t : Segment} {rest rest' : String}
    (h : s.text ++ "\n" ++ rest = t.text ++ "\n" ++ rest') : s = t ∧ rest = rest' := by
  have hlines := congrArg Text.lines h
  rw [Text.lines_append_newline (newline_not_mem_text s),
    Text.lines_append_newline (newline_not_mem_text t), List.cons.injEq] at hlines
  obtain rfl := text_injective hlines.1
  exact ⟨rfl, String.append_right_inj _ |>.mp h⟩

end Segment

/-! ## Reading a drawing -/

/-- The segments of a drawing, read from its text. -/
def Drawing.ofText? (t : String) : Option (List Segment) :=
  (Text.lines t).dropLast.mapM Segment.ofText?

theorem lines_written_segments (segments : List Segment) :
    Text.lines (Text.written (segments.map Segment.text)) =
      segments.map Segment.text ++ [""] := by
  refine Text.lines_written fun l hl ↦ ?_
  obtain ⟨s, -, rfl⟩ := List.mem_map.mp hl
  exact s.newline_not_mem_text

/-- **A drawing can be read from its lines.** -/
theorem Drawing.ofText?_written (segments : List Segment) :
    Drawing.ofText? (Text.written (segments.map Segment.text)) = some segments := by
  rw [Drawing.ofText?, lines_written_segments, List.dropLast_concat]
  induction segments with
  | nil => rfl
  | cons s segments ih =>
    rw [List.map_cons, List.mapM_cons, ih, s.ofText?_text]
    rfl

namespace Canvas

theorem drawAll_text_written (front : String) (segments : List Segment) :
    (text front).drawAll segments =
      text (front ++ Text.written (segments.map Segment.text)) := by
  rw [drawAll_text, Text.written, List.map_map]
  rfl

/-- **The text of a drawing is lossless.** Whatever is drawn on a text canvas can be read from what
it has written, and whatever had been written before, two drawings that leave the same text are the
same. There is one line for each segment, which no other segment has, and the line is known by the
newline at its end. Numbers are told apart by their texts. -/
theorem text_lossless :
    (∀ segments, ∃ t, (text "").drawAll segments = text t ∧ Drawing.ofText? t = some segments ∧
      Text.lines t = segments.map Segment.text ++ [""]) ∧
    (∀ (front : String) (a b : List Segment),
      (text front).drawAll a = (text front).drawAll b → a = b) ∧
    (∀ (s t : Segment) (rest rest' : String),
      s.text ++ "\n" ++ rest = t.text ++ "\n" ++ rest' → s = t ∧ rest = rest') ∧
    ∀ x y : Binary64, x.text = y.text → x = y := by
  refine ⟨fun segments ↦ ?_, fun front a b h ↦ ?_, fun s t rest rest' ↦ Segment.append_newline_inj,
    fun x y h ↦ ?_⟩
  · refine ⟨_, drawAll_text_written "" segments, ?_, ?_⟩
    · rw [String.empty_append, Drawing.ofText?_written]
    · rw [String.empty_append, lines_written_segments]
  · rw [drawAll_text_written, drawAll_text_written, text.injEq, String.append_right_inj] at h
    have ha := Drawing.ofText?_written a
    rw [h, Drawing.ofText?_written] at ha
    exact (Option.some.inj ha).symm
  · have hx := x.ofText?_text
    rw [h, y.ofText?_text] at hx
    exact (Option.some.inj hx).symm

/-- Not all coordinates have digits. -/
example : Drawing.ofText? "line (-0, NaN) -> (inf, -inf) red\n" =
    some [⟨⟨-.zero, .nan⟩, ⟨.signed false .infinite, .signed true .infinite⟩, .red⟩] := by
  decide +kernel

end Canvas

end TurtleScript
