import TurtleScript.Proofs.Session.Lines

/-!
# Answers

The user is told of files as well as of lines. What tells of a file is known from its first words
(`Feedback.IsFileEntry`), and nothing that tells of a line begins with them
(`not_isFileEntry_of_mem_process`). The rest, without the numbers of the lines, are the
answers.

Replies with the same session, the same segments and the same answers are as good as each other
(`SameAnswers`): one can go on with either of them.
-/

namespace TurtleScript

namespace Feedback

/-- The feedback tells of a file, and not of a line. -/
def IsFileEntry : Feedback → Prop
  | .echo text => "Reading file: '".toList <+: text.toList
  | .error text =>
    "No such file '".toList <+: text.toList ∨ "Could not read '".toList <+: text.toList
  | .shutdown => False

instance : DecidablePred IsFileEntry
  | .echo _ => inferInstanceAs (Decidable (_ <+: _))
  | .error _ => inferInstanceAs (Decidable (_ ∨ _))
  | .shutdown => inferInstanceAs (Decidable False)

/-- The feedback without the number of the line that it tells of. -/
def unnumbered : Feedback → Feedback
  | .error text =>
    if "Line ".toList <+: text.toList then
      .error ("Line " ++ String.ofList ((text.toList.drop "Line ".length).dropWhile Char.isDigit))
    else .error text
  | f => f

/-- The feedback for lines, without their numbers. -/
def answers (feedback : List Feedback) : List Feedback :=
  (feedback.filter fun f ↦ ¬f.IsFileEntry).map unnumbered

theorem answers_append (a b : List Feedback) : answers (a ++ b) = answers a ++ answers b := by
  rw [answers, List.filter_append, List.map_append, answers, answers]

theorem answers_eq_nil {feedback : List Feedback} (h : ∀ f ∈ feedback, f.IsFileEntry) :
    answers feedback = [] := by
  rw [answers, List.filter_eq_nil_iff.mpr (by simpa using h), List.map_nil]

/-! ## Complaints -/

theorem toList_complaint (line : String) (n : Nat) (e : CommandError) :
    (Session.complaint line (some n) e).toList =
      "Line ".toList ++ (Nat.toDigits 10 n ++ (" : ".toList ++ e.message.toList)) := by
  rw [Session.complaint, Session.complaintSubject, Nat.toString_eq_repr, String.toList_append,
    String.toList_append, String.toList_append, Nat.toList_repr, List.append_assoc,
    List.append_assoc]

theorem not_isFileEntry_complaint (line : String) (n : Nat) (e : CommandError) :
    ¬(error (Session.complaint line (some n) e)).IsFileEntry := by
  rw [IsFileEntry, toList_complaint]
  -- Already the first letters differ.
  simp

theorem unnumbered_complaint (line : String) (n : Nat) (e : CommandError) :
    (error (Session.complaint line (some n) e)).unnumbered =
      .error ("Line " ++ String.ofList (" : ".toList ++ e.message.toList)) := by
  have hstarts : "Line ".toList <+: (Session.complaint line (some n) e).toList := by
    rw [toList_complaint]
    exact List.prefix_append _ _
  have hdigits : ∀ c ∈ Nat.toDigits 10 n, c.isDigit = true :=
    fun c hc ↦ Nat.isDigit_of_mem_toDigits (by decide) (by decide) hc
  rw [unnumbered, if_pos hstarts, toList_complaint, ← String.length_toList, List.drop_left,
    List.dropWhile_append_of_pos hdigits]
  rfl

end Feedback

/-! ## No line tells of a file -/

/-- No command begins as the echo of a file does. -/
theorem Asks.head?_ne {ws : List String} {q : Request} (h : Asks ws q) :
    ∃ w rest, ws = w :: rest ∧ w.toList.head? ≠ some 'R' := by
  cases h <;> exact ⟨_, _, rfl, by decide⟩

theorem Feedback.not_isFileEntry_echo {text : String} {q : Request} (h : Asks (Text.words text) q) :
    ¬(echo (Text.trim text)).IsFileEntry := by
  obtain ⟨w, rest, hws, hw⟩ := h.head?_ne
  rintro ⟨more, hmore⟩
  have hhead : (Text.trim text).toList.head? = some 'R' := by
    rw [← hmore]
    rfl
  rw [Text.head?_trim hws] at hhead
  exact hw hhead

/-- **No line tells of a file.** Nothing that comes of a line can be taken for the echo of a file
or the error of one. -/
theorem Session.not_isFileEntry_of_mem_process (s : Session) (text : String) (n : Nat) :
    ∀ f ∈ (s.process text (some n)).feedback, ¬f.IsFileEntry := by
  cases s.lineCase text (some n) with
  | blank hw hr =>
    rw [hr, idle_feedback]
    simp
  | malformed e hw hr =>
    rw [hr, refuse_feedback]
    simpa using Feedback.not_isFileEntry_complaint (Text.trim text) n (.parse e)
  | quit hw hr =>
    rw [hr, stop_feedback]
    intro f hf
    rcases List.mem_cons.mp hf with rfl | hf
    · exact id
    · rw [List.mem_singleton.mp hf]
      exact Feedback.not_isFileEntry_echo hw
  | failed a e hw he hr =>
    rw [hr, refuse_feedback]
    simpa using Feedback.not_isFileEntry_complaint (Text.trim text) n (.turtle e)
  | done a w hw hd hr =>
    rw [hr, accept_feedback]
    simpa using Feedback.not_isFileEntry_echo hw

/-! ## The same answers -/

/-- Replies that differ at most in what they tell of files and in the numbers of lines. -/
structure SameAnswers (r r' : Reply) : Prop where
  /-- The session is the same. -/
  session : r.session = r'.session
  /-- The same is drawn. -/
  drawn : r.drawn = r'.drawn
  /-- The lines are answered in the same way. -/
  answers : Feedback.answers r.feedback = Feedback.answers r'.feedback

namespace SameAnswers

theorem refl (r : Reply) : SameAnswers r r := ⟨rfl, rfl, rfl⟩

theorem symm {r r' : Reply} (h : SameAnswers r r') : SameAnswers r' r :=
  ⟨h.session.symm, h.drawn.symm, h.answers.symm⟩

theorem trans {r₁ r₂ r₃ : Reply} (h : SameAnswers r₁ r₂) (h' : SameAnswers r₂ r₃) :
    SameAnswers r₁ r₃ :=
  ⟨h.session.trans h'.session, h.drawn.trans h'.drawn, h.answers.trans h'.answers⟩

/-- **One can go on with either.** -/
theorem andThen {r r' : Reply} {next next' : Session → Reply} (h : SameAnswers r r')
    (hnext : ∀ s, SameAnswers (next s) (next' s)) :
    SameAnswers (r.andThen next) (r'.andThen next') := by
  have hlast := hnext r'.session
  refine ⟨?_, ?_, ?_⟩
  · rw [Reply.session_andThen, Reply.session_andThen, h.session, hlast.session]
  · rw [Reply.drawn_andThen, Reply.drawn_andThen, h.drawn, h.session, hlast.drawn]
  · rw [Reply.feedback_andThen, Reply.feedback_andThen, Feedback.answers_append,
      Feedback.answers_append, h.answers, h.session, hlast.answers]

theorem refuse (s : Session) (text text' : String) (n n' : Nat) (e : CommandError) :
    SameAnswers (s.refuse text (some n) e) (s.refuse text' (some n') e) := by
  have hanswers : ∀ text n, Feedback.answers (s.refuse text (some n) e).feedback =
      [.error ("Line " ++ String.ofList (" : ".toList ++ e.message.toList))] := by
    intro text n
    have hfilter := Feedback.not_isFileEntry_complaint (Text.trim text) n e
    rw [Session.refuse_feedback, Feedback.answers, List.filter_cons_of_pos (by simpa using hfilter),
      List.filter_nil, List.map_singleton, Feedback.unnumbered_complaint]
  refine ⟨rfl, ?_, (hanswers text n).trans (hanswers text' n').symm⟩
  rw [Session.refuse_drawn, Session.refuse_drawn]

/-- **Number and margins do not matter.** Lines of a file with the same trimmed text do the same. -/
theorem process (s : Session) {text text' : String} (h : Text.trim text = Text.trim text')
    (n n' : Nat) :
    SameAnswers (s.process text (some n)) (s.process text' (some n')) := by
  have hwords : Text.words text = Text.words text' := by
    rw [← Text.words_trim text, h, Text.words_trim]
  cases s.lineCase text (some n) with
  | blank hw hr =>
    rw [hr, Session.process_of_blank (hwords ▸ hw)]
    exact refl _
  | malformed e hw hr =>
    rw [hr, Session.process_of_malformed (hwords ▸ hw)]
    exact refuse s text text' n n' _
  | quit hw hr =>
    rw [hr, Session.process_of_quit (hwords ▸ hw), Session.stop, Session.stop, h]
    exact refl _
  | failed a e hw he hr =>
    rw [hr, Session.process_of_failed (hwords ▸ hw) he]
    exact refuse s text text' n n' _
  | done a w hw hd hr =>
    rw [hr, Session.process_of_done (hwords ▸ hw) hd, Session.accept, Session.accept, h]
    exact refl _

end SameAnswers

end TurtleScript
