import TurtleScript.Proofs.Session.Interpreter

/-!
# The echoes are a script

A session echoes exactly the lines that it has carried out, and an echo reads as its line did. So
the echoes of a session, taken as lines, do all over again what the session has done
(`replay_echoes`): a line that was refused or blank is not among them, and has left nothing behind
that could be missed.

The two sessions run at different speeds, since only some lines have an echo. `Replays` is what a
reply and its repetition have in common; a line without an echo is repeated by doing nothing.
-/

namespace TurtleScript

namespace Feedback

/-- The feedback tells that something has gone wrong. -/
def isError : Feedback → Bool
  | error _ => true
  | _ => false

/-- The text of an echo. -/
def echo? : Feedback → Option String
  | echo text => some text
  | _ => none

/-- The texts of the echoes, in order. -/
def echoes (feedback : List Feedback) : List String := feedback.filterMap echo?

/-- All feedback that tells of no error. -/
def withoutErrors (feedback : List Feedback) : List Feedback := feedback.filter (!·.isError)

theorem echoes_append (a b : List Feedback) : echoes (a ++ b) = echoes a ++ echoes b :=
  List.filterMap_append

theorem withoutErrors_append (a b : List Feedback) :
    withoutErrors (a ++ b) = withoutErrors a ++ withoutErrors b :=
  List.filter_append ..

end Feedback

/-! ## Repeating a reply -/

/-- The second reply repeats the first: the session ends up the same, the same is drawn, and the
same is said, errors apart. -/
structure Replays (r r' : Reply) : Prop where
  /-- The session is the same. -/
  session : r'.session = r.session
  /-- The same is drawn. -/
  drawn : r'.drawn = r.drawn
  /-- The same is said, but for the errors. -/
  feedback : r'.feedback = Feedback.withoutErrors r.feedback

theorem Replays.andThen {r r' : Reply} {next next' : Session → Reply} (h : Replays r r')
    (hnext : Replays (next r.session) (next' r.session)) :
    Replays (r.andThen next) (r'.andThen next') := by
  refine ⟨?_, ?_, ?_⟩
  · rw [Reply.session_andThen, Reply.session_andThen, h.session, hnext.session]
  · rw [Reply.drawn_andThen, Reply.drawn_andThen, h.session, h.drawn, hnext.drawn]
  · rw [Reply.feedback_andThen, Reply.feedback_andThen, h.session, h.feedback, hnext.feedback,
      Feedback.withoutErrors_append]

namespace Session

/-- **One line.** Either there is no echo, and nothing has to be repeated; or the only echo is the
trimmed line, and taking that repeats the line, with any number or none. -/
theorem replays_process_cases (s : Session) (text : String) (number : Option Nat) :
    (Feedback.echoes (s.process text number).feedback = [] ∧
        Replays (s.process text number) s.idle) ∨
      (Feedback.echoes (s.process text number).feedback = [Text.trim text] ∧
        ∀ number', Replays (s.process text number) (s.process (Text.trim text) number')) := by
  cases s.lineCase text number with
  | blank hw hr =>
    rw [hr]
    exact Or.inl ⟨rfl, rfl, rfl, rfl⟩
  | malformed e hw hr =>
    rw [hr]
    exact Or.inl ⟨rfl, rfl, rfl, rfl⟩
  | quit hw hr =>
    have hw' : Asks (Text.words (Text.trim text)) .quit := by rwa [Text.words_trim]
    rw [hr, stop_feedback]
    refine Or.inr ⟨rfl, fun number' ↦ ?_⟩
    rw [process_of_quit hw', stop, stop, Text.trim_trim]
    exact ⟨rfl, rfl, rfl⟩
  | failed a e hw he hr =>
    rw [hr]
    exact Or.inl ⟨rfl, rfl, rfl, rfl⟩
  | done a w hw hd hr =>
    have hw' : Asks (Text.words (Text.trim text)) (.act a) := by rwa [Text.words_trim]
    rw [hr, accept_feedback]
    refine Or.inr ⟨rfl, fun number' ↦ ?_⟩
    rw [process_of_done hw' hd]
    refine ⟨rfl, ?_, ?_⟩
    · rw [accept_drawn, accept_drawn]
    · rw [accept_feedback, accept_feedback, Text.trim_trim]
      rfl

/-- **The run.** Lines with the echoes as their texts repeat the lines that were echoed. -/
theorem replays_processAll (s : Session) (lines replayed : List Line)
    (h : replayed.map Prod.fst = Feedback.echoes (s.processAll lines).feedback) :
    Replays (s.processAll lines) (s.processAll replayed) := by
  induction lines generalizing s replayed with
  | nil =>
    have hnil : replayed = [] := List.map_eq_nil_iff.mp h
    rw [hnil]
    exact ⟨rfl, rfl, rfl⟩
  | cons line lines ih =>
    rw [processAll_cons, Reply.feedback_andThen, Feedback.echoes_append] at h
    rw [processAll_cons]
    rcases s.replays_process_cases line.1 line.2 with ⟨hnone, hidle⟩ | ⟨hone, hagain⟩
    · -- The repetition has not moved on yet.
      rw [hnone, List.nil_append] at h
      have hrest := ih _ replayed h
      have hwhole : Replays
          ((s.process line.1 line.2).andThen fun s ↦ s.processAll lines)
          (s.idle.andThen fun s ↦ s.processAll replayed) := by
        refine hidle.andThen ?_
        rw [← hidle.session, idle_session] at hrest ⊢
        exact hrest
      exact hwhole
    · rw [hone, List.singleton_append] at h
      obtain ⟨first, rest, rfl, hfirst, hrest⟩ := List.map_eq_cons_iff.mp h
      rw [processAll_cons, hfirst]
      exact (hagain first.2).andThen (ih _ rest hrest)

end Session

namespace Interpreter

/-- Texts as lines with given numbers. -/
private theorem exists_lines (texts : List String) (numbers : Nat → Option Nat) :
    ∃ lines : List Line, lines.map Prod.fst = texts ∧
      texts.mapIdx (fun k text ↦ Step.line text (numbers k)) = lines.map lineStep := by
  refine ⟨texts.mapIdx fun k text ↦ (text, numbers k), ?_, ?_⟩
  · rw [List.mapIdx_eq_zipIdx_map, List.map_map]
    exact List.zipIdx_map_fst 0 texts
  · rw [List.mapIdx_eq_zipIdx_map, List.mapIdx_eq_zipIdx_map, List.map_map]
    rfl

/-- **The echoes are a script.** A new interpreter that is given the echoes of some lines, with
whatever numbers, ends up as the one that was given the lines: with the same turtles, stopped or
not, and with the same drawing. Its console has been told the same, but of no errors. -/
theorem replay_echoes (files : Files) (canvas : Canvas) (lines : List Line)
    (numbers : Nat → Option Nat) :
    let original := (start canvas (.memory #[])).takeAll files (lines.map lineStep)
    let script := Feedback.echoes original.console.entries.toList
    let replayed := (start canvas (.memory #[])).takeAll files
      (script.mapIdx fun k text ↦ .line text (numbers k))
    replayed.session = original.session ∧ replayed.canvas = original.canvas ∧
      replayed.console.entries.toList =
        original.console.entries.toList.filter fun f ↦ !f.isError := by
  intro original script replayed
  obtain ⟨again, htexts, hsteps⟩ := exists_lines script numbers
  have horiginal := takeAll_start canvas files (lines.map lineStep)
  have hreplayed := takeAll_start canvas files (again.map lineStep)
  rw [Session.takeAll_lineSteps] at horiginal hreplayed
  rw [← hsteps] at hreplayed
  have hscript : script = Feedback.echoes (Session.start.processAll lines).feedback := by
    simp only [script, original, horiginal, Console.entries]
  have hreplays : Replays (Session.start.processAll lines) (Session.start.processAll again) :=
    Session.replays_processAll Session.start lines again (htexts.trans hscript)
  simp only [original, replayed, horiginal, hreplayed, Console.entries]
  exact ⟨hreplays.session, congrArg canvas.drawAll hreplays.drawn, hreplays.feedback⟩

end Interpreter

end TurtleScript
