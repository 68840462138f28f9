import TurtleScript.Proofs.Program.Unread
import TurtleScript.Proofs.Session.Failures

/-!
# Files and the standard input

The same bytes may be given to the program as a command file or on its standard input. They are read
in different ways. A file is cut into lines which are decoded leniently; a line of the input loses
its end, has its backspaces carried out and must be UTF-8. Trimmed, the lines are the same if there
is nothing to be lenient about and nothing to take back (`Input.exists_lineText`).

So the lines that fail are the same, and all that differs is what they are called, by their number
or by their text (`Alike`). Without a log, that and the line that announces the file are all that
anyone can tell the two runs by (`Call.file_or_input`).
-/

namespace TurtleScript

/-! ## Lines of the standard input -/

namespace Input

/-- The end of a line is blank. -/
theorem trimmed_withoutEnd (cs : List Char) : Text.trimmed (withoutEnd cs) = Text.trimmed cs := by
  have hnewline : Text.isBlank '\n' = true := by decide
  have hreturn : Text.isBlank '\r' = true := by decide
  rw [withoutEnd]
  split
  next rest heq =>
    rw [List.reverse_eq_iff] at heq
    rw [heq, List.reverse_cons, List.reverse_cons, Text.trimmed_concat_of_isBlank hnewline,
      Text.trimmed_concat_of_isBlank hreturn]
  next rest _ heq =>
    rw [List.reverse_eq_iff] at heq
    rw [heq, List.reverse_cons, Text.trimmed_concat_of_isBlank hnewline]
  next => rfl

theorem mem_of_mem_withoutEnd {c : Char} {cs : List Char} (h : c ∈ withoutEnd cs) : c ∈ cs := by
  rw [withoutEnd] at h
  split at h
  next rest heq => exact List.mem_reverse.mp (heq ▸ by simp [List.mem_reverse.mp h])
  next rest _ heq => exact List.mem_reverse.mp (heq ▸ by simp [List.mem_reverse.mp h])
  next => exact h

/-- A line of the input can be read, and it is but for its blanks what is read from a file. -/
theorem exists_lineText {content line : Bytes} {text : String}
    (htext : Utf8.strict? content = some text) (hbackspace : '\x08' ∉ text.toList)
    (hline : line ∈ Utf8.lines content) :
    ∃ typed, lineText? line = some typed ∧ Text.trim typed = Text.trim (Utf8.lossy line) := by
  obtain ⟨hread, hsub⟩ := Utf8.strict?_of_mem_lines htext hline
  have hkept : '\x08' ∉ withoutEnd (Utf8.lossy line).toList :=
    fun h ↦ hbackspace (hsub _ (mem_of_mem_withoutEnd h))
  refine ⟨String.ofList (withoutEnd (Utf8.lossy line).toList), ?_, ?_⟩
  · rw [lineText?, hread, Option.map_some, withoutBackspaces_eq_self hkept]
  · rw [Text.trim, String.toList_ofList, trimmed_withoutEnd, Text.trim]

end Input

/-! ## What appears without a log -/

theorem Print.on_append (stream : Stream) (a b : List Print) :
    on stream (a ++ b) = on stream a ++ on stream b := by
  rw [on, List.filter_append, List.map_append, String.join_append]
  rfl

namespace Event

/-- What appears of some events on a stream if nothing is logged. -/
def shown (stream : Stream) (drawLog : Bool) (events : List Event) : String :=
  Print.on stream (events.flatMap (Print.ofEvent .silent drawLog))

variable (stream : Stream) (drawLog : Bool)

@[simp] theorem shown_nil : shown stream drawLog [] = "" := rfl

@[simp] theorem shown_append (a b : List Event) :
    shown stream drawLog (a ++ b) = shown stream drawLog a ++ shown stream drawLog b := by
  rw [shown, List.flatMap_append, Print.on_append]
  rfl

theorem shown_cons (e : Event) (events : List Event) :
    shown stream drawLog (e :: events) = shown stream drawLog [e] ++ shown stream drawLog events :=
  shown_append stream drawLog [e] events

end Event

theorem logged_silent (r : LogRecord) : Print.logged .silent r = [] := by
  have hlevel : ¬r.level.rank ≤ LogFilter.silent.limit := by
    cases r.level <;> decide
  rw [Print.logged, LogFilter.admits, decide_eq_false hlevel, Bool.and_false]
  rfl

namespace Event

theorem shown_noted (stream : Stream) (drawLog : Bool) (note : Note) :
    shown stream drawLog [.noted note] = "" := by
  rw [shown, List.flatMap_singleton, Print.ofEvent, logged_silent]
  rfl

/-- Only an error appears on the standard error. -/
theorem shown_error_of_not_mem (drawLog : Bool) {events : List Event}
    (h : ∀ message, .told (.error message) ∉ events) : shown .error drawLog events = "" := by
  induction events with
  | nil => rfl
  | cons e events ih =>
    have hone : shown .error drawLog [e] = "" := by
      cases e with
      | noted note => exact shown_noted .error drawLog note
      | drew s => cases drawLog <;> rfl
      | told f =>
        cases f with
        | echo text => rfl
        | error message => exact absurd List.mem_cons_self (h message)
        | shutdown =>
          rw [shown, List.flatMap_singleton, Print.ofEvent, logged_silent]
          rfl
    rw [shown_cons, hone, ih fun message hm ↦ h message (List.mem_cons_of_mem _ hm)]
    rfl

end Event

/-! ## A file against the input -/

/-- Two replies, one to the lines of a file and one to lines of the input, that differ in nothing
but what they call the lines that fail. -/
structure Alike (failures : List Failure) (r r' : Reply) : Prop where
  /-- The session is the same. -/
  session : r.session = r'.session
  /-- The same is drawn. -/
  drawn : r.drawn = r'.drawn
  /-- The same appears on the standard output. -/
  output : ∀ drawLog, Event.shown .output drawLog r.events = Event.shown .output drawLog r'.events
  /-- The lines of the file that fail are called by their numbers. -/
  numbered : ∀ drawLog,
    Event.shown .error drawLog r.events = String.join (failures.map Failure.numbered)
  /-- The lines of the input that fail are called by their texts. -/
  quoted : ∀ drawLog,
    Event.shown .error drawLog r'.events = String.join (failures.map Failure.quoted)

theorem Alike.idle (s : Session) : Alike [] s.idle s.idle :=
  ⟨rfl, rfl, fun _ ↦ rfl, fun _ ↦ by simp, fun _ ↦ by simp⟩

theorem Alike.andThen {failures more : List Failure} {r r' : Reply} {next next' : Session → Reply}
    (h : Alike failures r r') (hnext : Alike more (next r.session) (next' r'.session)) :
    Alike (failures ++ more) (r.andThen next) (r'.andThen next') := by
  refine ⟨hnext.session, ?_, fun drawLog ↦ ?_, fun drawLog ↦ ?_, fun drawLog ↦ ?_⟩
  · rw [Reply.drawn_andThen, Reply.drawn_andThen, h.drawn, hnext.drawn]
  · rw [Reply.events_andThen, Reply.events_andThen, Event.shown_append, Event.shown_append,
      h.output, hnext.output]
  · rw [Reply.events_andThen, Event.shown_append, h.numbered, hnext.numbered, List.map_append,
      String.join_append]
  · rw [Reply.events_andThen, Event.shown_append, h.quoted, hnext.quoted, List.map_append,
      String.join_append]

namespace Session

theorem shown_refuse (s : Session) (text : String) (number : Option Nat) (e : CommandError)
    (drawLog : Bool) :
    Event.shown .output drawLog (s.refuse text number e).events = "" ∧
      Event.shown .error drawLog (s.refuse text number e).events =
        complaint (Text.trim text) number e ++ "\n" := by
  have hnote : ∀ stream, Event.shown stream drawLog (s.refuse text number e).events =
      Event.shown stream drawLog [.told (.error (complaint (Text.trim text) number e))] := by
    intro stream
    rw [refuse, Event.shown_cons, Event.shown_noted, String.empty_append]
  rw [hnote, hnote]
  simp [Event.shown, Print.ofEvent, Print.on, Print.line]

/-- **A line does the same** whether it comes from a file or from the input. -/
theorem alike_process (s : Session) (number : Nat) {text typed : String}
    (htrim : Text.trim typed = Text.trim text) :
    Alike (s.failure? number text).toList (s.process text (some number))
      (s.process typed none) := by
  rw [failure?]
  cases h : s.attempt (Text.trim text) with
  | error e =>
    have htyped : s.attempt (Text.trim typed) = .error e := by rw [htrim, h]
    rw [process_of_error h, process_of_error htyped]
    refine ⟨rfl, ?_, fun drawLog ↦ ?_, fun drawLog ↦ ?_, fun drawLog ↦ ?_⟩
    · rw [refuse_drawn, refuse_drawn]
    · rw [(s.shown_refuse text _ e drawLog).1, (s.shown_refuse typed _ e drawLog).1]
    · rw [(s.shown_refuse text _ e drawLog).2]
      simp [Failure.numbered, complaint, complaintSubject]
    · have hquote : "'" ++ " : " = "' : " := rfl
      rw [(s.shown_refuse typed _ e drawLog).2, htrim]
      simp [Failure.quoted, complaint, complaintSubject, String.append_assoc, ← hquote]
  | ok r =>
    have hquiet : ∀ drawLog,
        Event.shown .error drawLog (s.process text (some number)).events = "" :=
      fun drawLog ↦ Event.shown_error_of_not_mem drawLog (told_error_not_mem_process h _)
    rw [process_of_ok h htrim none (some number)]
    exact ⟨rfl, rfl, fun _ ↦ rfl, hquiet, hquiet⟩

theorem runInput_cons {s : Session} (h : ¬s.finished = true) {line : Bytes} {typed : String}
    (hread : Input.lineText? line = some typed) (lines : List Bytes) :
    s.runInput (line :: lines) =
      ⟨(s.process typed none).andThen fun s ↦ (s.runInput lines).reply,
        ((s.process typed none).session.runInput lines).readable⟩ := by
  rw [runInput, if_neg h, takeInput?, hread]
  simp only [Option.map_some, Reply.andThen]

/-- **The lines of a file do the same on the standard input.** -/
theorem alike_runLines (s : Session) (number : Nat) (lines : List Bytes)
    (h : ∀ line ∈ lines, ∃ typed, Input.lineText? line = some typed ∧
      Text.trim typed = Text.trim (Utf8.lossy line)) :
    (s.runInput lines).readable = true ∧
      Alike (s.failures number (lines.map Utf8.lossy)) (s.runLines number lines)
        (s.runInput lines).reply := by
  induction lines generalizing s number with
  | nil =>
    refine ⟨rfl, ?_⟩
    rw [runInput]
    split
    next => exact .idle s
    next =>
      -- The end of the input is noted, which nobody sees.
      have hnote := fun stream drawLog ↦ Event.shown_noted stream drawLog .inputClosed
      refine ⟨rfl, rfl, fun drawLog ↦ (hnote .output drawLog).symm, fun _ ↦ ?_, fun drawLog ↦ ?_⟩
      · simp [runLines, failures]
      · rw [closeInput, hnote]
        simp [failures]
  | cons line lines ih =>
    rw [List.forall_mem_cons] at h
    obtain ⟨⟨typed, htyped, htrim⟩, hlines⟩ := h
    by_cases hfinished : s.finished = true
    · rw [runInput_of_finished hfinished, runLines_of_finished hfinished,
        failures_of_finished hfinished]
      exact ⟨rfl, .idle s⟩
    · have hline := s.alike_process number htrim
      obtain ⟨hreadable, hrest⟩ :=
        ih (s.process (Utf8.lossy line) (some number)).session (number + 1) hlines
      rw [runLines_cons hfinished, runInput_cons hfinished htyped, List.map_cons, failures,
        if_neg hfinished]
      dsimp only
      refine ⟨hline.session ▸ hreadable, hline.andThen ?_⟩
      rw [← hline.session]
      exact hrest

end Session

/-! ## The program -/

/-- The outcome of a run without a log whose input could be read. -/
theorem Outcome.ofRun_silent {r : Run} (h : r.readable = true) (drawLog : Bool) :
    ofRun r .silent drawLog =
      ⟨0, Event.shown .output drawLog r.events, Event.shown .error drawLog r.events⟩ := by
  have hprints : r.prints .silent drawLog = r.events.flatMap (Print.ofEvent .silent drawLog) := by
    rw [Run.prints, Run.closing, if_pos h, logged_silent, List.append_nil]
  rw [ofRun, hprints, Run.code, if_pos h]
  rfl

theorem Print.on_output_logged (filter : LogFilter) (r : LogRecord) :
    on .output (logged filter r) = "" := by
  rw [logged]
  split <;> rfl

theorem Print.on_output_ofEvent (filter : LogFilter) (drawLog : Bool) (e : Event) :
    on .output (ofEvent filter drawLog e) = Event.shown .output drawLog [e] := by
  rw [Event.shown, List.flatMap_singleton]
  cases e with
  | noted note => rw [ofEvent, ofEvent, on_output_logged, on_output_logged]
  | drew s => rfl
  | told f =>
    cases f with
    | shutdown => rw [ofEvent, ofEvent, on_output_logged, on_output_logged]
    | _ => rfl

/-- **The log leaves the standard output alone.** -/
theorem Outcome.output_ofRun (r : Run) (filter : LogFilter) (drawLog : Bool) :
    (ofRun r filter drawLog).output = Event.shown .output drawLog r.events := by
  have hevents : ∀ events : List Event,
      Print.on .output (events.flatMap (Print.ofEvent filter drawLog)) =
        Event.shown .output drawLog events := by
    intro events
    induction events with
    | nil => rfl
    | cons e events ih =>
      rw [List.flatMap_cons, Print.on_append, Print.on_output_ofEvent, ih, ← Event.shown_cons]
  have hclosing : Print.on .output (r.closing filter drawLog) = "" := by
    rw [Run.closing]
    split
    · exact Print.on_output_logged _ _
    · rfl
  rw [ofRun, Run.prints, Print.on_append, hevents, hclosing, String.append_empty]

/-- What appears on the standard error if nothing is logged. -/
theorem Outcome.error_ofRun_silent (r : Run) (drawLog : Bool) :
    (ofRun r .silent drawLog).error = Event.shown .error drawLog r.events ++
      if r.readable then "" else Run.unreadableReport := by
  have hreport : Print.on .error [⟨.error, Run.unreadableReport⟩] = Run.unreadableReport := by
    simp [Print.on]
  change Print.on .error (r.prints .silent drawLog) = _
  rw [Run.prints, Run.closing, Print.on_append, logged_silent]
  split
  · rfl
  · rw [hreport]
    rfl

/-- A run on one file reads it after saying so. -/
theorem Run.ofOptions_file {drawLog : Bool} {path content : Bytes} {files : Files}
    (h : files path = .ok (.file content)) (input : Bytes) :
    ofOptions ⟨false, drawLog, [path]⟩ files input =
      ⟨(Session.start.runLines 1 (Utf8.lines content)).session,
        .told (.echo (Session.readingText path)) ::
          (Session.start.runLines 1 (Utf8.lines content)).events, true⟩ := by
  have hstart : ¬Session.start.finished = true := by decide
  have hfile : Session.start.runFiles files [path] = Session.start.runFile files path := by
    rw [Session.runFiles_cons hstart]
    exact Session.andThen_idle _
  rw [ofOptions, hfile, Session.runFile, h]
  rfl

namespace Call

section

variable {c : Call} {drawLog : Bool} {path content : Bytes}

/-- The outcome of a run on one file, without a log. -/
theorem outcome_file (h : Options.ofArguments c.arguments = .ok (.run ⟨false, drawLog, [path]⟩))
    (hopen : c.files path = .ok (.file content)) :
    c.outcome .silent =
      ⟨0, "Reading file: '" ++ Utf8.lossy path ++ "'\n" ++
          Event.shown .output drawLog (Session.start.runLines 1 (Utf8.lines content)).events,
        Event.shown .error drawLog (Session.start.runLines 1 (Utf8.lines content)).events⟩ := by
  have houtput : Event.shown .output drawLog [.told (.echo (Session.readingText path))] =
      "Reading file: '" ++ Utf8.lossy path ++ "'\n" := by
    have hshown : Event.shown .output drawLog [.told (.echo (Session.readingText path))] =
        Session.readingText path ++ "\n" := by
      simp [Event.shown, Print.ofEvent, Print.on, Print.line]
    have hend : "'" ++ "\n" = "'\n" := rfl
    rw [hshown, ← hend, ← String.append_assoc]
    rfl
  have herror : Event.shown .error drawLog [.told (.echo (Session.readingText path))] = "" := rfl
  rw [outcome, Outcome.ofArguments, h]
  change Outcome.ofRun (.ofOptions ⟨false, drawLog, [path]⟩ c.files c.input) .silent drawLog = _
  rw [Run.ofOptions_file hopen, Outcome.ofRun_silent rfl, Event.shown_cons, houtput,
    Event.shown_cons, herror, String.empty_append]

/-- The outcome of a run on the input, without a log. -/
theorem outcome_input (h : Options.ofArguments c.arguments = .ok (.run ⟨true, drawLog, []⟩))
    (hreadable : (Session.start.runInput (Utf8.lines c.input)).readable = true) :
    c.outcome .silent =
      ⟨0, Event.shown .output drawLog (Session.start.runInput (Utf8.lines c.input)).reply.events,
        Event.shown .error drawLog (Session.start.runInput (Utf8.lines c.input)).reply.events⟩ := by
  rw [outcome, Outcome.ofArguments, h]
  exact Outcome.ofRun_silent hreadable drawLog

end

/-- **A file may as well be typed.** The program is run on one file and nothing else, or without
files on the same bytes; they are UTF-8 without a backspace, and nothing is logged. Both runs
succeed, with the same turtles and the same scene. The first one begins with an announcement of the
file, and then the standard output is the same. The same lines fail, with the same messages and in
the same order; one run calls them by their numbers, in which blank lines count, and the other one
quotes them. -/
theorem file_or_input {arguments arguments' : List Bytes} {drawLog : Bool} {path content : Bytes}
    {text : String} {files : Files}
    (hfile : Options.ofArguments arguments = .ok (.run ⟨false, drawLog, [path]⟩))
    (hinput : Options.ofArguments arguments' = .ok (.run ⟨true, drawLog, []⟩))
    (hopen : files path = .ok (.file content)) (htext : Utf8.strict? content = some text)
    (hbackspace : '\x08' ∉ text.toList) (input : Bytes) (files' : Files) :
    let fileCall : Call := ⟨arguments, files, input⟩
    let inputCall : Call := ⟨arguments', files', content⟩
    let texts := (Utf8.lines content).map Utf8.lossy
    let failures := Session.start.failures 1 texts
    (∃ r r', fileCall.run? = some r ∧ inputCall.run? = some r' ∧ r.session = r'.session ∧
      Run.sceneOf drawLog r.events = Run.sceneOf drawLog r'.events) ∧
    (fileCall.outcome .silent).code = 0 ∧ (inputCall.outcome .silent).code = 0 ∧
    (fileCall.outcome .silent).output =
      "Reading file: '" ++ Utf8.lossy path ++ "'\n" ++ (inputCall.outcome .silent).output ∧
    (fileCall.outcome .silent).error = String.join (failures.map fun f ↦
      "Line " ++ toString f.number ++ " : " ++ f.error.message ++ "\n") ∧
    (inputCall.outcome .silent).error = String.join (failures.map fun f ↦
      "'" ++ f.line ++ "' : " ++ f.error.message ++ "\n") ∧
    (failures.Pairwise fun f g ↦ f.number < g.number) ∧
    ∀ f ∈ failures, 1 ≤ f.number ∧ (texts[f.number - 1]?).map Text.trim = some f.line := by
  intro fileCall inputCall texts failures
  obtain ⟨hreadable, halike⟩ := Session.start.alike_runLines 1 (Utf8.lines content)
    fun line hline ↦ Input.exists_lineText htext hbackspace hline
  have hfileOutcome : fileCall.outcome .silent = _ := outcome_file hfile hopen
  have hinputOutcome : inputCall.outcome .silent = _ := outcome_input hinput hreadable
  rw [hfileOutcome, hinputOutcome]
  refine ⟨?_, rfl, rfl, ?_, halike.numbered drawLog, halike.quoted drawLog,
    Session.pairwise_failures _ _ _, fun f ↦ Session.getElem?_of_mem_failures⟩
  · refine ⟨.ofOptions ⟨false, drawLog, [path]⟩ files input,
      .ofOptions ⟨true, drawLog, []⟩ files' content, ?_, ?_, ?_, ?_⟩
    · rw [run?, hfile]
    · rw [run?, hinput]
    · rw [Run.ofOptions_file hopen]
      exact halike.session
    · rw [Run.ofOptions_file hopen, Run.sceneOf, Run.sceneOf]
      exact congrArg (fun drawn ↦ if drawLog then Scene.empty else drawn.foldl Scene.draw .empty)
        halike.drawn
  · rw [halike.output drawLog]

/-- A blank line with a carriage return, a word that is no command, and the command to stop without
a newline. -/
theorem file_or_input_unknown_command :
    let content : Bytes := [0x0D, 0x0A, 0x78, 0x0A, 0x71, 0x75, 0x69, 0x74]
    let fileCall : Call :=
      ⟨[Utf8.encode "--no-interactive", [0x61]], fun _ ↦ .ok (.file content), []⟩
    let inputCall : Call := ⟨[], fun _ ↦ .error .notFound, content⟩
    (fileCall.outcome .silent).output =
        "Reading file: 'a'\n" ++ (inputCall.outcome .silent).output ∧
      (fileCall.outcome .silent).error = "Line 2 : Unknown command 'x'\n" ∧
      (inputCall.outcome .silent).error = "'x' : Unknown command 'x'\n" := by
  intro content fileCall inputCall
  have hfile : Options.ofArguments fileCall.arguments = .ok (.run ⟨false, false, [[0x61]]⟩) := by
    decide +kernel
  have hinput : Options.ofArguments inputCall.arguments = .ok (.run ⟨true, false, []⟩) := by
    decide +kernel
  have hopen : fileCall.files [0x61] = .ok (.file content) := rfl
  have htext : Utf8.strict? content = some "\r\nx\nquit" := by decide +kernel
  have hfailures : Session.start.failures 1 ((Utf8.lines content).map Utf8.lossy) =
      [⟨2, "x", .parse (.unknownCommand "x")⟩] := by
    decide +kernel
  have hpath : Utf8.lossy [0x61] = "a" := by decide +kernel
  obtain ⟨-, -, -, houtput, herrorFile, herrorInput, -⟩ :=
    file_or_input hfile hinput hopen htext (by decide) fileCall.input inputCall.files
  rw [hfailures] at herrorFile herrorInput
  rw [hpath] at houtput
  exact ⟨houtput, herrorFile, herrorInput⟩

end Call

end TurtleScript
