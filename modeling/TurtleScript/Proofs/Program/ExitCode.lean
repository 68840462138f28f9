import TurtleScript.Proofs.Program.Turns

/-!
# The exit code

A run fails for one reason only: a line is typed that is not UTF-8, and the command to stop has not
been given before, in a file or typed. Files cannot make a run fail, whatever they hold and whether
they can be opened or not, and neither can a command. All turns up to the command to stop are taken
in any case (`Call.exit_code`).

A run that fails has done all that it would have done if the input had come to its end before the
line that cannot be read. It differs from that run in its exit code and in the report of the line.
-/

namespace TurtleScript

/-! ## Lines that cannot be read -/

/-- A line that cannot be read stands behind others that can. -/
theorem Input.exists_first_unreadable {lines : List Bytes}
    (h : ∃ line ∈ lines, lineText? line = none) :
    ∃ before line rest, lines = before ++ line :: rest ∧ lineText? line = none ∧
      ∀ earlier ∈ before, lineText? earlier ≠ none := by
  induction lines with
  | nil => simp at h
  | cons first lines ih =>
    by_cases hfirst : lineText? first = none
    · exact ⟨[], first, lines, rfl, hfirst, by simp⟩
    · have hlines : ∃ line ∈ lines, lineText? line = none := by simpa [hfirst] using h
      obtain ⟨before, line, rest, rfl, hline, hbefore⟩ := ih hlines
      exact ⟨first :: before, line, rest, rfl, hline, List.forall_mem_cons.mpr ⟨hfirst, hbefore⟩⟩

/-- There is a line that cannot be read, and the command to stop is not in front of it. -/
theorem Turn.unreadable_ofInput_iff {lines : List Bytes} :
    ((¬∃ turn ∈ ofInput lines, turn.IsQuit) ∧ ∃ bytes ∈ lines, Input.lineText? bytes = none) ↔
      ∃ before line rest, lines = before ++ line :: rest ∧ Utf8.strict? line = none ∧
        ∀ earlier ∈ before, ∀ text, Input.lineText? earlier = some text →
          Text.words text ≠ ["quit"] := by
  constructor
  · rintro ⟨hquit, hlines⟩
    obtain ⟨before, line, rest, rfl, hline, hbefore⟩ := Input.exists_first_unreadable hlines
    rw [ofInput_append_of_none hline] at hquit
    refine ⟨before, line, rest, rfl, Input.lineText?_eq_none_iff.mp hline, ?_⟩
    intro earlier hearlier text htext hwords
    exact hquit ⟨_, mem_ofInput_of_readable hbefore hearlier htext, hwords⟩
  · rintro ⟨before, line, rest, rfl, hline, hbefore⟩
    have hnone := Input.lineText?_eq_none_iff.mpr hline
    refine ⟨?_, line, by simp, hnone⟩
    rw [ofInput_append_of_none hnone]
    rintro ⟨turn, hturn, hquit⟩
    obtain ⟨earlier, hearlier, text, htext, rfl⟩ := mem_ofInput hturn
    exact hbefore earlier hearlier text htext hquit

/-! ## Runs that fail -/

namespace Run

variable {o : Options} {files : Files} {input : Bytes}

/-- **When a run fails.** -/
theorem not_readable_iff :
    ¬(ofOptions o files input).readable = true ↔
      o.interactive = true ∧
      (∀ path ∈ o.paths, ∀ line ∈ linesOf (files path), Text.words (Utf8.lossy line) ≠ ["quit"]) ∧
      ∃ before line rest, Utf8.lines input = before ++ line :: rest ∧ Utf8.strict? line = none ∧
        ∀ earlier ∈ before, ∀ text, Input.lineText? earlier = some text →
          Text.words text ≠ ["quit"] := by
  have hfinished : (Session.start.follow (o.turns files input)).session.finished = true ↔
      (∃ turn ∈ Turn.ofPaths files o.paths, turn.IsQuit) ∨
        ∃ turn ∈ (if o.interactive then Turn.ofInput (Utf8.lines input) else []), turn.IsQuit := by
    rw [Session.finished_follow, or_iff_right (by decide : ¬Session.start.finished = true),
      Options.turns]
    simp only [List.mem_append, or_and_right, exists_or]
  rw [readable_ofOptions, hfinished, Turn.exists_isQuit_ofPaths, ← Turn.unreadable_ofInput_iff]
  cases o.interactive with
  | false => simp
  | true =>
    rw [if_pos rfl]
    push Not
    simp only [and_assoc, ne_eq, Bool.true_eq_false, not_false_eq_true, true_and]

/-- **A run that fails has got as far as the line.** The input might as well have come to its end in
front of it. -/
theorem ofOptions_of_not_readable (h : ¬(ofOptions o files input).readable = true) :
    ∃ before line rest, Utf8.lines input = before ++ line :: rest ∧ Utf8.strict? line = none ∧
      (∀ earlier ∈ before, Utf8.strict? earlier ≠ none) ∧
      (ofOptions o files before.flatten).readable = true ∧
      (ofOptions o files before.flatten).events =
        (ofOptions o files input).events ++ [.noted .inputClosed] := by
  rw [readable_ofOptions] at h
  push Not at h
  obtain ⟨hinteractive, hfinished, hlines⟩ := h
  obtain ⟨before, line, rest, hcut, hline, hbefore⟩ := Input.exists_first_unreadable hlines
  have hfront : Utf8.lines before.flatten = before := Utf8.lines_flatten_of_append hcut
  have hturns : o.turns files before.flatten = o.turns files input := by
    rw [Options.turns, Options.turns, hfront, hcut, Turn.ofInput_append_of_none hline]
  have hinput : (Utf8.lines input).all (fun bytes ↦ (Input.lineText? bytes).isSome) = false := by
    rw [hcut]
    simp [hline]
  have hall : before.all (fun bytes ↦ (Input.lineText? bytes).isSome) = true := by
    rw [List.all_eq_true]
    exact fun bytes hbytes ↦ Option.isSome_iff_ne_none.mpr (hbefore bytes hbytes)
  refine ⟨before, line, rest, hcut, Input.lineText?_eq_none_iff.mp hline, ?_, ?_, ?_⟩
  · exact fun earlier hearlier ↦ Input.lineText?_eq_none_iff.not.mp (hbefore earlier hearlier)
  · rw [readable_ofOptions, hfront]
    exact Or.inr (Or.inr hbefore)
  · have hgoes : (Session.start.follow (o.turns files input)).session.finished = false := by
      simpa using hfinished
    rw [events_ofOptions, events_ofOptions, session_ofOptions, session_ofOptions, hturns, hfront,
      hall, hinput, Bool.and_false, Bool.and_true, Session.closeIf, Session.closeIf, hgoes]
    simp [hinteractive, Session.closeInput]

end Run

/-! ## The program -/

namespace Call

/-- **The exit code.** The program is asked for a run. It exits with 0, and it exits with 1 just if
lines are to be typed, no line of a file is the command to stop, and a line is typed that is not
UTF-8 with no command to stop in front of it. Then the standard output is what it would have been if
the input had come to its end before the first such line, and so is the standard error if nothing is
logged, apart from the report at its end. In any case all turns are taken up to the command to stop,
whatever has come of the ones before, and nothing else is done but to note the end of the input. -/
theorem exit_code {arguments : List Bytes} {o : Options}
    (h : Options.ofArguments arguments = .ok (.run o)) (files : Files) (input : Bytes) :
    let call : Bytes → Call := fun input ↦ ⟨arguments, files, input⟩
    (∀ filter,
      (((call input).outcome filter).code = 0 ∨ ((call input).outcome filter).code = 1) ∧
      (((call input).outcome filter).code = 1 ↔
        o.interactive = true ∧
        (∀ path ∈ o.paths, ∀ line ∈ linesOf (files path),
          Text.words (Utf8.lossy line) ≠ ["quit"]) ∧
        ∃ before line rest, Utf8.lines input = before ++ line :: rest ∧
          Utf8.strict? line = none ∧
          ∀ earlier ∈ before, ∀ text, Input.lineText? earlier = some text →
            Text.words text ≠ ["quit"])) ∧
    (∀ filter, ((call input).outcome filter).code = 1 →
      ∃ before line rest, Utf8.lines input = before ++ line :: rest ∧
        Utf8.strict? line = none ∧ (∀ earlier ∈ before, Utf8.strict? earlier ≠ none) ∧
        ((call before.flatten).outcome filter).code = 0 ∧
        ((call input).outcome filter).output = ((call before.flatten).outcome filter).output ∧
        ((call input).outcome .silent).error =
          ((call before.flatten).outcome .silent).error ++
            ("Error: reading command\n\n" ++
              "Caused by:\n" ++
              "    0: stream did not contain valid UTF-8\n" ++
              "    1: stream did not contain valid UTF-8\n")) ∧
    ∃ r, (call input).run? = some r ∧
      ((Session.start.account (o.turns files input)).map Prod.fst =
        Turn.upToQuit (o.turns files input)) ∧
      ∃ closing, r.events =
          (Session.start.account (o.turns files input)).flatMap (fun entry ↦ entry.2.events) ++
            closing ∧
        (closing = [] ∨ closing = [.noted .inputClosed]) := by
  intro call
  have houtcome : ∀ input filter, (call input).outcome filter =
      .ofRun (.ofOptions o files input) filter o.drawLog := by
    intro input filter
    simp only [call, outcome, Outcome.ofArguments, h]
  have hcode : ∀ filter, ((call input).outcome filter).code = 1 ↔
      ¬(Run.ofOptions o files input).readable = true := by
    intro filter
    rw [houtcome, Outcome.ofRun, Run.code]
    cases (Run.ofOptions o files input).readable <;> simp
  refine ⟨fun filter ↦ ⟨?_, (hcode filter).trans Run.not_readable_iff⟩, fun filter hfails ↦ ?_, ?_⟩
  · rw [houtcome, Outcome.ofRun, Run.code]
    cases (Run.ofOptions o files input).readable <;> simp
  · have hunreadable := (hcode filter).mp hfails
    obtain ⟨before, line, rest, hcut, hline, hbefore, hreadable, hevents⟩ :=
      Run.ofOptions_of_not_readable hunreadable
    refine ⟨before, line, rest, hcut, hline, hbefore, ?_, ?_, ?_⟩
    · rw [houtcome, Outcome.ofRun, Run.code, if_pos hreadable]
    · rw [houtcome, houtcome, Outcome.output_ofRun, Outcome.output_ofRun, hevents,
        Event.shown_append, Event.shown_noted, String.append_empty]
    · rw [houtcome, houtcome, Outcome.error_ofRun_silent, Outcome.error_ofRun_silent,
        if_neg hunreadable, if_pos hreadable, hevents, Event.shown_append, Event.shown_noted,
        String.append_empty, String.append_empty]
      rfl
  · have hevents := Run.events_ofOptions o files input
    rw [Session.events_follow] at hevents
    refine ⟨.ofOptions o files input, by simp only [call, run?, h],
      Session.map_fst_account (by decide) _, _, hevents, ?_⟩
    rw [Session.closeIf]
    split
    · exact Or.inr rfl
    · exact Or.inl rfl

/-- A word that is no command, a byte that is no text, and another word. -/
theorem exit_code_undecodable :
    let input : Bytes := [0x78, 0x0A, 0xFF, 0x0A, 0x79, 0x0A]
    let c : Call := ⟨[Utf8.encode "--draw-log"], fun _ ↦ .error .notFound, input⟩
    (c.outcome .silent).code = 1 ∧
      ∃ front, (c.outcome .silent).error = front ++
        ("Error: reading command\n\n" ++
          "Caused by:\n" ++
          "    0: stream did not contain valid UTF-8\n" ++
          "    1: stream did not contain valid UTF-8\n") := by
  intro input c
  have hoptions : Options.ofArguments c.arguments = .ok (.run ⟨true, true, []⟩) := by
    decide +kernel
  obtain ⟨hcode, hreport, -⟩ := exit_code hoptions c.files input
  have hfails : (c.outcome .silent).code = 1 := by
    refine (hcode .silent).2.mpr ⟨rfl, by simp, [[0x78, 0x0A]], [0xFF, 0x0A], [[0x79, 0x0A]], rfl,
      by decide +kernel, ?_⟩
    intro earlier hearlier text htext
    obtain rfl := List.mem_singleton.mp hearlier
    have hread : Input.lineText? [0x78, 0x0A] = some "x" := by decide +kernel
    rw [hread] at htext
    obtain rfl := Option.some.inj htext
    decide
  obtain ⟨before, line, rest, -, -, -, -, -, herror⟩ := hreport .silent hfails
  exact ⟨hfails, _, herror⟩

end Call

end TurtleScript
