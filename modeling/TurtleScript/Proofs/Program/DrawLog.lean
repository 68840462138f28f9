import TurtleScript.Proofs.Drawing.Decoding
import TurtleScript.Proofs.Program.Turns
import TurtleScript.Proofs.Session.DrawingHistory
import TurtleScript.Proofs.Session.Replay
import TurtleScript.Proofs.Text.Newlines

/-!
# Segments on the standard output

A run may write each segment to the standard output, among the echoes. It does nothing else in
another way: the standard error is the same, and so is the exit code. What it writes can be taken
out again line by line, for the lines of segments are known by their first word. No echo starts like
that: it announces a path, or it is a line that has been carried out, and there is no command of
this name (`Event.IsPlain`).

Each line of a segment stands where the segment was drawn, in front of the echo of the line that has
drawn it (`Call.draw_log_adds_lines`).
-/

namespace TurtleScript

/-! ## Typed lines have no newlines -/

namespace Input

theorem Typed.mem_of_mem_dropBytes {c : Char} {bytes : Nat} {cs : List Char}
    (h : c ∈ dropBytes bytes cs) : c ∈ cs := by
  induction cs generalizing bytes with
  | nil => cases bytes <;> exact h
  | cons d cs ih =>
    cases bytes with
    | zero => exact h
    | succ bytes => exact List.mem_cons_of_mem _ (ih h)

/-- A backspace only takes back. -/
theorem Typed.mem_of_mem_kept {c : Char} {clusters : List (List Char)} {t : Typed}
    (h : c ∈ (clusters.foldl add t).kept) : c ∈ clusters.flatten ∨ c ∈ t.kept := by
  induction clusters generalizing t with
  | nil => exact Or.inr h
  | cons cluster clusters ih =>
    rw [List.flatten_cons, List.mem_append]
    rcases ih h with h | h
    · exact Or.inl (Or.inr h)
    · rw [add] at h
      split at h
      · split at h
        · exact Or.inr h
        · exact Or.inr (mem_of_mem_dropBytes h)
      · rcases List.mem_append.mp h with h | h
        · exact Or.inl (Or.inl (List.mem_reverse.mp h))
        · exact Or.inr h

theorem mem_of_mem_withoutBackspaces {c : Char} {cs : List Char}
    (h : c ∈ withoutBackspaces cs) : c ∈ cs := by
  rw [withoutBackspaces, List.mem_reverse] at h
  rcases Typed.mem_of_mem_kept h with h | h
  · rwa [Text.flatten_clusters] at h
  · cases h

theorem mem_of_mem_withoutEnd_concat {c : Char} {cs : List Char}
    (h : c ∈ withoutEnd (cs ++ ['\n'])) : c ∈ cs := by
  rw [withoutEnd, List.reverse_append, List.reverse_singleton, List.singleton_append] at h
  split at h
  next rest heq =>
    rw [List.cons.injEq] at heq
    exact List.mem_reverse.mp (heq.2 ▸ List.mem_cons_of_mem _ (List.mem_reverse.mp h))
  next rest _ heq =>
    rw [List.cons.injEq] at heq
    exact List.mem_reverse.mp (heq.2 ▸ List.mem_reverse.mp h)
  next hnone => exact absurd rfl (hnone _)

/-- **A typed line has no newline.** -/
theorem newline_not_mem_lineText {bytes line : Bytes} {text : String}
    (hline : line ∈ Utf8.lines bytes) (h : lineText? line = some text) : '\n' ∉ text.toList := by
  have htext : text = String.ofList (withoutBackspaces (withoutEnd (Utf8.lossy line).toList)) := by
    rw [lineText?, Utf8.strict?] at h
    split at h
    · exact (Option.some.inj h).symm
    · cases h
  rw [htext, String.toList_ofList]
  intro hmem
  have hmem := mem_of_mem_withoutBackspaces hmem
  rcases Utf8.newline_of_mem_lines hline with hnone | ⟨init, hinit, rfl⟩
  · exact Utf8.newline_not_mem_lossy hnone (mem_of_mem_withoutEnd hmem)
  · rw [Utf8.toList_lossy_concat_newline] at hmem
    exact Utf8.newline_not_mem_lossy hinit (mem_of_mem_withoutEnd_concat hmem)

end Input

/-! ## Lines of segments -/

/-- A line starts as the lines of segments do. -/
def isSegmentLine (l : String) : Bool := "line ".toList.isPrefixOf l.toList

theorem isSegmentLine_text (s : Segment) : isSegmentLine s.text = true := by
  rw [isSegmentLine, List.isPrefixOf_iff_prefix, Segment.text, String.append_assoc,
    String.append_assoc, String.append_assoc, String.append_assoc, String.toList_append]
  exact List.prefix_append _ _

/-- The first word of such a line is no command. -/
theorem words_of_isSegmentLine {l : String} (h : isSegmentLine l = true) :
    ∃ ws, Text.words l = "line" :: ws := by
  rw [isSegmentLine, List.isPrefixOf_iff_prefix] at h
  obtain ⟨rest, hrest⟩ := h
  have hword : Text.IsWord ['l', 'i', 'n', 'e'] := Text.isWord_of_all (by decide) (by decide)
  have hwords : Text.wordsOf l.toList = ['l', 'i', 'n', 'e'] :: Text.wordsOf rest := by
    rw [← hrest]
    change Text.wordsOf (['l', 'i', 'n', 'e'] ++ ' ' :: rest) = _
    rw [Text.wordsOf_append_blank (by decide), Text.wordsOf_of_isWord hword]
    rfl
  exact ⟨_, by rw [Text.words, hwords]; rfl⟩

theorem Asks.head?_ne_line {ws : List String} {q : Request} (h : Asks ws q) :
    ws.head? ≠ some "line" := by
  cases h <;> exact fun hline ↦ absurd (Option.some.inj hline) (by decide)

theorem Asks.isSegmentLine_trim {text : String} {q : Request} (h : Asks (Text.words text) q) :
    isSegmentLine (Text.trim text) = false := by
  by_contra hline
  obtain ⟨ws, hws⟩ := words_of_isSegmentLine (Bool.eq_true_of_not_eq_false hline)
  rw [Text.words_trim] at hws
  exact h.head?_ne_line (by rw [hws]; rfl)

namespace Event

/-- What an event writes to the standard output, if anything. -/
def outputLine? (drawLog : Bool) : Event → Option String
  | drew s => if drawLog then some s.text else none
  | told (.echo text) => some text
  | _ => none

/-- All that events write to the standard output. -/
def outputLines (drawLog : Bool) (events : List Event) : List String :=
  events.filterMap (outputLine? drawLog)

/-- An event that writes no line that could be taken for another one's. -/
def IsPlain : Event → Prop
  | told (.echo text) => '\n' ∉ text.toList ∧ isSegmentLine text = false
  | _ => True

@[simp] theorem isPlain_noted (note : Note) : (noted note).IsPlain := trivial

@[simp] theorem isPlain_drew (s : Segment) : (drew s).IsPlain := trivial

@[simp] theorem isPlain_error (text : String) : (told (.error text)).IsPlain := trivial

@[simp] theorem isPlain_shutdown : (told .shutdown).IsPlain := trivial

theorem outputLines_cons (drawLog : Bool) (e : Event) (events : List Event) :
    outputLines drawLog (e :: events) =
      (outputLine? drawLog e).toList ++ outputLines drawLog events := by
  rw [outputLines, List.filterMap_cons]
  cases outputLine? drawLog e <;> rfl

theorem outputLines_append (drawLog : Bool) (a b : List Event) :
    outputLines drawLog (a ++ b) = outputLines drawLog a ++ outputLines drawLog b :=
  List.filterMap_append

/-- The standard output consists of lines. -/
theorem shown_output (drawLog : Bool) (events : List Event) :
    shown .output drawLog events = Text.written (outputLines drawLog events) := by
  induction events with
  | nil => rfl
  | cons e events ih =>
    have hone : shown .output drawLog [e] = Text.written (outputLine? drawLog e).toList := by
      cases e with
      | noted note => exact shown_noted .output drawLog note
      | drew s => cases drawLog <;> simp [shown, Print.ofEvent, Print.on, Print.line, outputLine?,
          Text.written_cons]
      | told f => cases f <;> simp [shown, Print.ofEvent, Print.on, Print.line, logged_silent,
          outputLine?, Text.written_cons]
    rw [shown_cons, hone, ih, outputLines_cons, Text.written_append]

/-- The standard error shows no segments. -/
theorem shown_error_drawLog (events : List Event) :
    shown .error true events = shown .error false events := by
  induction events with
  | nil => rfl
  | cons e events ih =>
    rw [shown_cons, shown_cons .error false, ih]
    cases e with
    | told f => cases f <;> rfl
    | _ => rfl

variable {events : List Event} (h : ∀ e ∈ events, e.IsPlain)

include h

theorem newline_not_mem_outputLines (drawLog : Bool) :
    ∀ l ∈ outputLines drawLog events, '\n' ∉ l.toList := by
  intro l hl
  obtain ⟨e, he, hline⟩ := List.mem_filterMap.mp hl
  have hplain := h e he
  cases e with
  | noted note => cases hline
  | drew s =>
    cases drawLog with
    | false => cases hline
    | true =>
      cases hline
      exact s.newline_not_mem_text
  | told f =>
    cases f with
    | echo text =>
      cases hline
      exact hplain.1
    | error text => cases hline
    | shutdown => cases hline

/-- **The lines of segments can be told from all others.** -/
theorem filter_outputLines :
    (outputLines true events).filter (fun l ↦ !isSegmentLine l) = outputLines false events ∧
      (outputLines true events).filter isSegmentLine =
        (events.filterMap segment?).map Segment.text := by
  induction events with
  | nil => exact ⟨rfl, rfl⟩
  | cons e events ih =>
    rw [List.forall_mem_cons] at h
    obtain ⟨hplain, hevents⟩ := h
    obtain ⟨hecho, hdrawn⟩ := ih hevents
    rw [outputLines_cons, outputLines_cons, List.filter_append, List.filter_append, hecho, hdrawn]
    cases e with
    | noted note => exact ⟨rfl, rfl⟩
    | drew s => simp [outputLine?, segment?, isSegmentLine_text s]
    | told f =>
      cases f with
      | echo text => simp [outputLine?, segment?, List.filterMap_cons, hplain.2]
      | error text => exact ⟨rfl, rfl⟩
      | shutdown => exact ⟨rfl, rfl⟩

end Event

/-! ## Turns -/

namespace Turn

/-- A turn whose echo is one line. -/
def IsPlain : Turn → Prop
  | path name _ => Utf8.newline ∉ name
  | line text _ => '\n' ∉ (Text.trim text).toList

theorem isPlain_of_mem_turns {o : Options} {files : Files} {input : Bytes}
    (hpaths : ∀ path ∈ o.paths, Utf8.newline ∉ path) {turn : Turn}
    (h : turn ∈ o.turns files input) : turn.IsPlain := by
  rcases List.mem_append.mp h with h | h
  · obtain ⟨name, hname, h⟩ := List.mem_flatMap.mp h
    rcases List.mem_cons.mp h with rfl | h
    · exact hpaths name hname
    · obtain ⟨bytes, hbytes, k, rfl⟩ := mem_ofLines h
      obtain ⟨content, -, hbytes⟩ := exists_of_mem_linesOf hbytes
      exact Utf8.newline_not_mem_trim_lossy hbytes
  · split at h
    · obtain ⟨bytes, hbytes, text, htext, rfl⟩ := mem_ofInput h
      intro hmem
      exact Input.newline_not_mem_lineText hbytes htext (Text.mem_of_mem_trim hmem)
    · cases h

end Turn

namespace Session

/-- **A turn does nothing that could be taken for a segment.** -/
theorem isPlain_of_mem_takeTurn {s : Session} {turn : Turn} (h : turn.IsPlain) :
    ∀ e ∈ (s.takeTurn turn).events, e.IsPlain := by
  cases turn with
  | path name opening =>
    have hname := Utf8.newline_not_mem_lossy h
    have htext : (readingText name).toList =
        "Reading file: '".toList ++ (Utf8.lossy name).toList ++ "'".toList := by
      rw [← String.toList_append, ← String.toList_append]
      rfl
    have hreading : (Event.told (.echo (readingText name))).IsPlain := by
      refine ⟨?_, by rw [isSegmentLine, htext]; rfl⟩
      rw [htext]
      simp [hname]
    match opening with
    | .error failure => simp [takeTurn, openingEvents]
    | .ok (.file content) => simpa [takeTurn, openingEvents] using hreading
    | .ok .directory => simpa [takeTurn, openingEvents] using hreading
  | line text number =>
    have hecho : ∀ {q : Request}, Asks (Text.words text) q →
        (Event.told (.echo (Text.trim text))).IsPlain := fun hw ↦ ⟨h, hw.isSegmentLine_trim⟩
    rw [takeTurn]
    cases s.lineCase text number with
    | blank hw hr => simp [hr]
    | malformed e hw hr => simp [hr, refuse]
    | quit hw hr => simpa [hr, stop] using hecho hw
    | failed a e hw he hr => simp [hr, refuse]
    | done a w hw hd hr =>
      rw [hr, accept]
      cases w.drawn <;> simpa using hecho hw

/-- What a turn writes: a line for the segment that it draws if it draws one, and then its echo. -/
theorem outputLines_takeTurn (s : Session) (turn : Turn) :
    Event.outputLines true (s.takeTurn turn).events =
      (s.takeTurn turn).drawn.map Segment.text ++ Feedback.echoes (s.takeTurn turn).feedback := by
  cases turn with
  | path name opening =>
    match opening with
    | .error failure => rfl
    | .ok (.file content) => rfl
    | .ok .directory => rfl
  | line text number =>
    rw [takeTurn]
    cases s.lineCase text number with
    | blank hw hr => rw [hr]; rfl
    | malformed e hw hr => rw [hr]; rfl
    | quit hw hr => rw [hr]; rfl
    | failed a e hw he hr => rw [hr]; rfl
    | done a w hw hd hr =>
      rw [hr, accept_drawn, accept_feedback, accept]
      cases w.drawn <;> rfl

/-- A turn draws nothing, or it is that of a line that moves a turtle and is echoed. -/
theorem drawn_takeTurn (s : Session) (turn : Turn) :
    (s.takeTurn turn).drawn = [] ∨
      ∃ text number n token seg, turn = .line text number ∧
        Text.words text = ["move", n, token] ∧ (s.takeTurn turn).drawn = [seg] ∧
        (s.takeTurn turn).feedback = [.echo (Text.trim text)] := by
  cases turn with
  | path name opening =>
    match opening with
    | .error failure => exact Or.inl rfl
    | .ok (.file content) => exact Or.inl rfl
    | .ok .directory => exact Or.inl rfl
  | line text number =>
    rcases s.drawn_process_cases text number with hnone | ⟨a, w, seg, hw, hd, hdrawn, hone⟩
    · exact Or.inl hnone
    · obtain ⟨n, d, t, rfl, -⟩ := Action.eq_move_of_work hd hdrawn
      have hwords : ∃ token, Text.words text = ["move", n, token] := by
        generalize Text.words text = ws at hw
        cases hw with
        | move n htoken => exact ⟨_, rfl⟩
      obtain ⟨token, htoken⟩ := hwords
      refine Or.inr ⟨text, number, n, token, seg, rfl, htoken, hone, ?_⟩
      rw [takeTurn, process_of_done hw hd, accept_feedback]

end Session

/-! ## The option -/

namespace Options

theorem finish_drawLog {helpAsked : Bool} {o o' : Options} {paths : List String}
    (h : scan.finish helpAsked o paths = .ok (.run o')) :
    scan.finish helpAsked { o with drawLog := true } paths =
      .ok (.run { o' with drawLog := true }) := by
  cases helpAsked with
  | true => cases h
  | false =>
    cases h
    rfl

/-- What has been asked for is kept. -/
theorem scan_drawLog {helpAsked : Bool} {o o' : Options} {ts : List String}
    (h : scan helpAsked o ts = .ok (.run o')) :
    scan helpAsked { o with drawLog := true } ts = .ok (.run { o' with drawLog := true }) := by
  induction ts generalizing helpAsked o with
  | nil =>
    cases helpAsked with
    | true => cases h
    | false =>
      cases h
      rfl
  | cons t ts ih =>
    rw [scan] at h ⊢
    split_ifs at h ⊢
    · exact ih h
    · exact finish_drawLog h
    · exact ih h
    · exact ih h
    · exact finish_drawLog h

/-- The option may be put in front of any arguments. -/
theorem ofArguments_drawLog {arguments : List Bytes} {o : Options}
    (h : ofArguments arguments = .ok (.run o)) :
    ofArguments (Utf8.encode "--draw-log" :: arguments) =
      .ok (.run { o with drawLog := true }) := by
  have hread : Utf8.strict? (Utf8.encode "--draw-log") = some "--draw-log" := by decide +kernel
  rw [ofArguments] at h ⊢
  cases hts : texts arguments with
  | error e =>
    rw [hts] at h
    cases h
  | ok ts =>
    rw [hts] at h
    rw [texts, hread, hts]
    exact scan_drawLog h

end Options

/-! ## The program -/

theorem Run.isPlain_of_mem_events {o : Options} {files : Files} {input : Bytes}
    (hpaths : ∀ path ∈ o.paths, Utf8.newline ∉ path) :
    ∀ e ∈ (ofOptions o files input).events, e.IsPlain := by
  intro e he
  rw [events_ofOptions, Session.events_follow, List.mem_append, List.mem_flatMap] at he
  rcases he with ⟨entry, hentry, he⟩ | he
  · obtain ⟨hturn, before, hbefore⟩ := Session.of_mem_account hentry
    rw [hbefore] at he
    exact Session.isPlain_of_mem_takeTurn (Turn.isPlain_of_mem_turns hpaths hturn) e he
  · rw [Session.closeIf] at he
    split at he
    · rw [List.mem_singleton.mp he]
      trivial
    · cases he

/-- The lines of the standard output are those of the turns, in order. -/
theorem Run.outputLines_ofOptions (o : Options) (files : Files) (input : Bytes) :
    Event.outputLines true (ofOptions o files input).events =
      (Session.start.account (o.turns files input)).flatMap fun entry ↦
        entry.2.drawn.map Segment.text ++ Feedback.echoes entry.2.feedback := by
  have hclosing : ∀ (s : Session) closed,
      Event.outputLines true (s.closeIf closed).events = [] := by
    intro s closed
    rw [Session.closeIf]
    split <;> rfl
  rw [events_ofOptions, Event.outputLines_append, hclosing, List.append_nil,
    Session.events_follow, Event.outputLines, List.filterMap_flatMap]
  refine List.flatMap_congr fun entry hentry ↦ ?_
  obtain ⟨-, before, hbefore⟩ := Session.of_mem_account hentry
  rw [hbefore]
  exact before.outputLines_takeTurn entry.1

namespace Call

/-- **Segments are only added to the standard output.** The program is asked for a run on paths
without newlines, and nothing is logged. The same can be asked for with segments on the standard
output. Then the exit code and the standard error are the same, and without the lines that start
with the word for a segment so is the standard output. These lines are the segments that the scene
holds otherwise, in order. The standard output goes through the turns: of each turn there is the
line of the segment that it draws, if it draws one, and then its echo; and a turn that draws is that
of a line that moves a turtle, with one segment and one echo. -/
theorem draw_log_adds_lines {arguments : List Bytes} {interactive : Bool} {paths : List Bytes}
    (h : Options.ofArguments arguments = .ok (.run ⟨interactive, false, paths⟩))
    (hpaths : ∀ path ∈ paths, Utf8.newline ∉ path) (files : Files) (input : Bytes) :
    Options.ofArguments (Utf8.encode "--draw-log" :: arguments) =
        .ok (.run ⟨interactive, true, paths⟩) ∧
      ∀ arguments', Options.ofArguments arguments' = .ok (.run ⟨interactive, true, paths⟩) →
        let plain : Outcome := (Call.mk arguments files input).outcome .silent
        let logged : Outcome := (Call.mk arguments' files input).outcome .silent
        let account :=
          Session.start.account ((Options.mk interactive false paths).turns files input)
        logged.code = plain.code ∧ logged.error = plain.error ∧
        Text.withoutLines isSegmentLine logged.output = plain.output ∧
        (∃ r, (Call.mk arguments files input).run? = some r ∧
          (Text.lines logged.output).filter isSegmentLine =
            (Run.sceneOf false r.events).segments.toList.map Segment.text) ∧
        (Text.lines logged.output = account.flatMap (fun entry ↦
          entry.2.drawn.map Segment.text ++ Feedback.echoes entry.2.feedback) ++ [""]) ∧
        ∀ entry ∈ account, entry.2.drawn = [] ∨
          ∃ text number n token seg, entry.1 = .line text number ∧
            Text.words text = ["move", n, token] ∧ entry.2.drawn = [seg] ∧
            entry.2.feedback = [.echo (Text.trim text)] := by
  refine ⟨Options.ofArguments_drawLog h, fun arguments' h' ↦ ?_⟩
  intro plain logged account
  have hplain : plain =
      .ofRun (.ofOptions ⟨interactive, false, paths⟩ files input) .silent false := by
    simp only [plain, outcome, Outcome.ofArguments, h]
  have hlogged : logged =
      .ofRun (.ofOptions ⟨interactive, false, paths⟩ files input) .silent true := by
    simp only [logged, outcome, Outcome.ofArguments, h']
    rfl
  have hrun : (Call.mk arguments files input).run? =
      some (.ofOptions ⟨interactive, false, paths⟩ files input) := by simp only [run?, h]
  have hevents : ∀ e ∈ (Run.ofOptions ⟨interactive, false, paths⟩ files input).events, e.IsPlain :=
    Run.isPlain_of_mem_events hpaths
  have hlines := Event.newline_not_mem_outputLines hevents true
  obtain ⟨hecho, hdrawn⟩ := Event.filter_outputLines hevents
  have houtput : logged.output = Text.written (Event.outputLines true
      (Run.ofOptions ⟨interactive, false, paths⟩ files input).events) := by
    rw [hlogged, Outcome.output_ofRun, Event.shown_output]
  refine ⟨?_, ?_, ?_, ⟨_, hrun, ?_⟩, ?_, ?_⟩
  · rw [hlogged, hplain]
    rfl
  · rw [hlogged, hplain, Outcome.error_ofRun_silent, Outcome.error_ofRun_silent,
      Event.shown_error_drawLog]
  · rw [houtput, Text.withoutLines_written rfl hlines, hecho, hplain, Outcome.output_ofRun,
      Event.shown_output]
  · have hempty : [""].filter isSegmentLine = [] := rfl
    rw [houtput, Text.lines_written hlines, List.filter_append, hdrawn, hempty, List.append_nil,
      Run.sceneOf, if_neg (by decide), Scene.segments_foldl_draw]
    simp
  · rw [houtput, Text.lines_written hlines, Run.outputLines_ofOptions]
  · intro entry hentry
    obtain ⟨-, before, hbefore⟩ := Session.of_mem_account hentry
    rw [hbefore]
    exact before.drawn_takeTurn entry.1

/-- A path that leads to two lines, the second of which draws. -/
theorem draw_log_adds_lines_one_move :
    let files : Files := fun _ ↦ .ok (.file (Utf8.encode "turtle t\nmove t 1\n"))
    let plain : Outcome := (Call.mk [[0x61]] files []).outcome .silent
    let logged : Outcome := (Call.mk [Utf8.encode "--draw-log", [0x61]] files []).outcome .silent
    logged.code = plain.code ∧ logged.error = plain.error ∧
      Text.withoutLines isSegmentLine logged.output = plain.output := by
  intro files plain logged
  have hoptions : Options.ofArguments [[0x61]] = .ok (.run ⟨true, false, [[0x61]]⟩) := by
    decide +kernel
  obtain ⟨hlogged, hsame⟩ := draw_log_adds_lines hoptions (by decide) files []
  obtain ⟨hcode, herror, houtput, -⟩ := hsame _ hlogged
  exact ⟨hcode, herror, houtput⟩

end Call

end TurtleScript
