import TurtleScript.Program.Run
import TurtleScript.Proofs.Session.Stopping
import TurtleScript.Proofs.Session.Unread

/-!
# What the program does not read

The command to stop may come from a command file or from the standard input. In the first case
neither the paths behind that file nor the standard input make a difference to the program, in the
second case the rest of the standard input makes none (`Call.AlikeUpToQuit`).

Paths are told from options by where they stand, so more arguments behind a path are always more
paths (`Options.ofArguments_append`), whatever they look like.

`nothing_behind_quit` puts everything together that is known of the command to stop: for sessions,
for the program, and for interpreters that are handed steps.
-/

namespace TurtleScript

/-! ## More paths -/

namespace Options

theorem finish_append {helpAsked : Bool} {o o' : Options} {paths : List String}
    (h : scan.finish helpAsked o paths = .ok (.run o')) (more : List String) :
    scan.finish helpAsked o (paths ++ more) =
      .ok (.run { o' with paths := o'.paths ++ more.map Utf8.encode }) := by
  rw [scan.finish] at h ⊢
  cases helpAsked with
  | true => cases h
  | false =>
    cases h
    rw [List.map_append]
    rfl

/-- Behind a path there are only paths. -/
theorem scan_append {helpAsked : Bool} {o o' : Options} {ts : List String}
    (h : scan helpAsked o ts = .ok (.run o')) (hstart : o.paths = []) (hpaths : o'.paths ≠ [])
    (more : List String) :
    scan helpAsked o (ts ++ more) =
      .ok (.run { o' with paths := o'.paths ++ more.map Utf8.encode }) := by
  induction ts generalizing helpAsked o with
  | nil =>
    cases helpAsked with
    | true => cases h
    | false =>
      cases h
      exact absurd hstart hpaths
  | cons t ts ih =>
    rw [scan] at h
    rw [List.cons_append, scan]
    split_ifs at h ⊢
    · exact ih h hstart
    · exact finish_append h more
    · exact ih h hstart
    · exact ih h hstart
    · exact finish_append h more

theorem texts_append {a b : List Bytes} {ts ts' : List String} (ha : texts a = .ok ts)
    (hb : texts b = .ok ts') : texts (a ++ b) = .ok (ts ++ ts') := by
  induction a generalizing ts with
  | nil =>
    cases ha
    exact hb
  | cons argument a ih =>
    rw [texts] at ha
    rw [List.cons_append, texts]
    cases hread : Utf8.strict? argument with
    | none =>
      rw [hread] at ha
      cases ha
    | some text =>
      rw [hread] at ha
      obtain ⟨rest, hrest, rfl⟩ := map_eq_ok_iff.mp ha
      simp only [ih hrest]
      rfl

theorem exists_texts {arguments : List Bytes}
    (h : ∀ a ∈ arguments, (Utf8.strict? a).isSome = true) : ∃ ts, texts arguments = .ok ts := by
  induction arguments with
  | nil => exact ⟨[], rfl⟩
  | cons argument arguments ih =>
    obtain ⟨text, htext⟩ := Option.isSome_iff_exists.mp (h argument List.mem_cons_self)
    obtain ⟨ts, hts⟩ := ih fun a ha ↦ h a (List.mem_cons_of_mem _ ha)
    refine ⟨text :: ts, ?_⟩
    rw [texts, htext, hts]
    rfl

/-- **More arguments are more paths.** -/
theorem ofArguments_append {front later : List Bytes} {o : Options}
    (h : ofArguments front = .ok (.run o)) (hpaths : o.paths ≠ [])
    (hlater : ∀ a ∈ later, (Utf8.strict? a).isSome = true) :
    ∃ more, ofArguments (front ++ later) = .ok (.run { o with paths := o.paths ++ more }) := by
  obtain ⟨ts', hts'⟩ := exists_texts hlater
  rw [ofArguments] at h
  cases hts : texts front with
  | error e =>
    rw [hts] at h
    cases h
  | ok ts =>
    rw [hts] at h
    refine ⟨ts'.map Utf8.encode, ?_⟩
    rw [ofArguments, texts_append hts hts']
    exact scan_append h rfl hpaths ts'

end Options

/-! ## The standard input -/

namespace Session

theorem runInput_of_finished {s : Session} (h : s.finished = true) (lines : List Bytes) :
    s.runInput lines = ⟨s.idle, true⟩ := by
  cases lines with
  | nil => rw [runInput, if_pos h]
  | cons line lines => rw [runInput, if_pos h]

theorem runInput_behind_quit (s : Session) (before : List Bytes) {line : Bytes} {text : String}
    (hread : Input.lineText? line = some text) (hquit : Text.words text = ["quit"])
    (more more' : List Bytes) :
    s.runInput (before ++ line :: more) = s.runInput (before ++ line :: more') := by
  induction before generalizing s with
  | nil =>
    have hstops : (s.process text none).session.finished = true := by
      rw [finished_process, decide_eq_true hquit, Bool.or_true]
    rw [List.nil_append, List.nil_append, runInput, runInput, takeInput?, hread]
    simp only [Option.map_some, runInput_of_finished hstops]
  | cons first before ih =>
    rw [List.cons_append, List.cons_append, runInput, runInput]
    simp only [ih]

theorem runInput_alike (s : Session) {a b : Bytes} (h : AlikeUpToQuit Input.lineText? a b) :
    s.runInput (Utf8.lines a) = s.runInput (Utf8.lines b) := by
  obtain ⟨before, line, more, more', text, ha, hb, hread, hquit⟩ := h.exists_lines
  rw [ha, hb]
  exact s.runInput_behind_quit before hread hquit more more'

end Session

/-! ## Runs of the program -/

/-- What the program is started with. -/
structure Call where
  /-- Its arguments. -/
  arguments : List Bytes
  /-- What its paths lead to. -/
  files : Files
  /-- Its standard input. -/
  input : Bytes

namespace Call

/-- The run of the program, if it is asked for one. -/
def run? (c : Call) : Option Run :=
  match Options.ofArguments c.arguments with
  | .ok (.run o) => some (.ofOptions o c.files c.input)
  | _ => none

/-- Its outcome. -/
def outcome (c : Call) (filter : LogFilter) : Outcome :=
  .ofArguments filter c.arguments c.files c.input

/-- Two ways of starting the program are the same up to the command to stop. -/
inductive AlikeUpToQuit : Call → Call → Prop where
  /-- It is in a file. More paths may follow that file, and anything may be typed. -/
  | inFile {front later later' : List Bytes} {o : Options} {files files' : Files}
    (hfront : Options.ofArguments front = .ok (.run o))
    (hfiles : FilesAlikeUpToQuit files files' o.paths o.paths)
    (hlater : ∀ a ∈ later, (Utf8.strict? a).isSome = true)
    (hlater' : ∀ a ∈ later', (Utf8.strict? a).isSome = true) (input input' : Bytes) :
    AlikeUpToQuit ⟨front ++ later, files, input⟩ ⟨front ++ later', files', input'⟩
  /-- It is typed. Anything may be typed behind it. -/
  | inInput (arguments : List Bytes) (files : Files) {input input' : Bytes}
    (h : TurtleScript.AlikeUpToQuit Input.lineText? input input') :
    AlikeUpToQuit ⟨arguments, files, input⟩ ⟨arguments, files, input'⟩

end Call

theorem Run.ofOptions_alike (o : Options) {files files' : Files} {paths paths' : List Bytes}
    (h : FilesAlikeUpToQuit files files' paths paths') (input input' : Bytes) :
    ofOptions { o with paths := paths } files input =
      ofOptions { o with paths := paths' } files' input' := by
  obtain ⟨hsame, hfinished⟩ := Session.start.runFiles_alike h
  rw [ofOptions, ofOptions, hsame]
  simp only [Session.runInput_of_finished hfinished]

theorem Run.ofOptions_alike_input (o : Options) (files : Files) {input input' : Bytes}
    (h : AlikeUpToQuit Input.lineText? input input') :
    ofOptions o files input = ofOptions o files input' := by
  rw [ofOptions, ofOptions]
  simp only [Session.runInput_alike _ h]

/-- **The program does not read on.** -/
theorem Call.run_alike {c c' : Call} (h : c.AlikeUpToQuit c') :
    c.run? = c'.run? ∧ ∀ filter, c.outcome filter = c'.outcome filter := by
  cases h with
  | @inFile front later later' o files files' hfront hfiles hlater hlater' input input' =>
    have hpaths : o.paths ≠ [] := hfiles.ne_nil
    obtain ⟨more, hmore⟩ := Options.ofArguments_append hfront hpaths hlater
    obtain ⟨more', hmore'⟩ := Options.ofArguments_append hfront hpaths hlater'
    have hrun := Run.ofOptions_alike o (hfiles.append more more') input input'
    refine ⟨?_, fun filter ↦ ?_⟩
    · simp only [run?, hmore, hmore', hrun]
    · simp only [outcome, Outcome.ofArguments, hmore, hmore', hrun]
  | inInput arguments files h =>
    refine ⟨?_, fun filter ↦ ?_⟩
    · simp only [run?, fun o ↦ Run.ofOptions_alike_input o files h]
    · simp only [outcome, Outcome.ofArguments, fun o ↦ Run.ofOptions_alike_input o files h]

/-! ## The command to stop -/

/-- **Nothing behind the command to stop is looked at.** Whatever stands there, sessions do the same
and so does the program. What has been handed to an interpreter is a row of single commands; it has
stopped just if one of them was the command to stop, it has announced each of these once, and it
does not start again. A path that is handed to it then is opened, which is said, and left alone. -/
theorem nothing_behind_quit :
    (∀ (s : Session) (files files' : Files) (paths paths' : List Bytes),
      FilesAlikeUpToQuit files files' paths paths' →
        s.runFiles files paths = s.runFiles files' paths') ∧
    (∀ c c' : Call, c.AlikeUpToQuit c' →
      c.run? = c'.run? ∧ ∀ filter, c.outcome filter = c'.outcome filter) ∧
    (∀ (canvas : Canvas) (files : Files) (steps : List Step),
      let start := Interpreter.start canvas (.memory #[])
      let commands := Session.start.allCommands files steps
      let i := start.takeAll files steps
      let j := start.takeAll files commands
      (i.session.finished = true ↔ ∃ c ∈ commands, c.IsQuit) ∧
        i.console.entries.toList.count .shutdown = commands.countP (fun c ↦ decide c.IsQuit) ∧
        i.session = j.session ∧ i.canvas = j.canvas ∧
        Feedback.answers i.console.entries.toList = Feedback.answers j.console.entries.toList) ∧
    ∀ i : Interpreter, i.session.finished = true → ∀ files : Files,
      (∀ steps, (i.takeAll files steps).session.finished = true) ∧
        ∀ path, i.take files (.file path) =
          { i with console := i.console.tell (Session.openingEntry path (files path)) } := by
  refine ⟨fun s _ _ _ _ h ↦ (s.runFiles_alike h).1, fun c c' ↦ Call.run_alike, ?_, ?_⟩
  · intro canvas files steps start commands i j
    have hsame := Session.start.sameAnswers_allCommands files steps
    have hi : i = ⟨(Session.start.takeAll files steps).session,
        canvas.drawAll (Session.start.takeAll files steps).drawn,
        .memory (Session.start.takeAll files steps).feedback.toArray⟩ :=
      Interpreter.takeAll_start canvas files steps
    have hj : j = ⟨(Session.start.takeAll files commands).session,
        canvas.drawAll (Session.start.takeAll files commands).drawn,
        .memory (Session.start.takeAll files commands).feedback.toArray⟩ :=
      Interpreter.takeAll_start canvas files commands
    rw [hi, hj]
    refine ⟨?_, Session.start.shutdowns_takeAll files steps, hsame.session,
      congrArg canvas.drawAll hsame.drawn, hsame.answers⟩
    rw [Session.finished_takeAll]
    exact or_iff_right (by decide)
  · intro i h files
    refine ⟨fun steps ↦ ?_, fun path ↦ Interpreter.take_file_of_finished h files path⟩
    rw [Interpreter.takeAll_eq, Session.finished_takeAll]
    exact Or.inl h

/-- The bytes of the command to stop, with a newline. -/
private def quitLine : Bytes := [0x71, 0x75, 0x69, 0x74, 0x0A]

private theorem quitLine_append_alike {read : Bytes → Option String}
    (h : EndsWithQuit read quitLine) (rest : Bytes) :
    AlikeUpToQuit read (quitLine ++ rest) (quitLine ++ []) := .behind h rfl rest []

/-- A byte that is no text is not even decoded behind the command to stop, in a file or typed, and
a path behind that file need not lead anywhere. -/
theorem nothing_behind_quit_undecodable :
    Session.start.runFiles (fun _ ↦ .ok (.file (quitLine ++ [0xFF]))) ([] ++ [0x61] :: [[0x62]]) =
        Session.start.runFiles (fun _ ↦ .ok (.file (quitLine ++ []))) ([] ++ [0x61] :: []) ∧
      (Call.mk [] (fun _ ↦ .error .notFound) (quitLine ++ [0xFF])).outcome .standard =
        (Call.mk [] (fun _ ↦ .error .notFound) (quitLine ++ [])).outcome .standard := by
  have hfile : EndsWithQuit (fun line ↦ some (Utf8.lossy line)) quitLine :=
    ⟨quitLine, "quit\n", by decide, by decide, by decide⟩
  have htyped : EndsWithQuit Input.lineText? quitLine :=
    ⟨quitLine, "quit", by decide, by decide +kernel, by decide⟩
  constructor
  · apply nothing_behind_quit.1
    exact .intro (by simp) rfl rfl (quitLine_append_alike hfile [0xFF]) [[0x62]] []
  · apply (nothing_behind_quit.2.1 _ _ _).2
    exact .inInput [] _ (quitLine_append_alike htyped [0xFF])

end TurtleScript
