import TurtleScript.Proofs.Command.Wording
import TurtleScript.Proofs.Session.Failures

/-!
# Complaints are unambiguous

The user is told of a line that fails in one text: what the line is called by, a colon, and what is
wrong with it. A line that has no number is called by its own text, which may hold colons, quotes
and whole complaints. Still the text says everything: no message has a colon for a word, so the last
such word is the one that the message stands behind (`complaint_inj`). With the message the error is
known, and in front of it are the number or the line (`complaintSubject_inj`).

The error names a word of the line, if it names one at all (`mem_words_of_named?`). That is what
keeps the user's words from reaching into the message.
-/

namespace TurtleScript

open Text

/-! ## The words that are named -/

section

variable {e : CommandError} {w : String}

theorem Spoils.named?_eq {k : ArgumentKind} {token : String} {error : ParseError}
    (h : Spoils k token error) : CommandError.named? (.parse error) = some token := by
  cases h <;> rfl

theorem FirstSpoilt.mem_of_named? {ks : List ArgumentKind} {tokens : List String}
    {error : ParseError} (h : FirstSpoilt ks tokens error)
    (hw : CommandError.named? (.parse error) = some w) : w ∈ tokens := by
  induction h with
  | here ks tokens he =>
    rw [he.named?_eq, Option.some.injEq] at hw
    exact hw ▸ List.mem_cons_self
  | later _ _ ih => exact List.mem_cons_of_mem _ (ih hw)

/-- What is wrong with a command names one of its words. -/
theorem Verdict.mem_of_named? {ws : List String} {error : ParseError}
    (h : Verdict ws (.error error)) (hw : CommandError.named? (.parse error) = some w) :
    w ∈ ws := by
  cases h with
  | unknown tokens =>
    cases hw
    exact List.mem_cons_self
  | tooFew => cases hw
  | tooMany => cases hw
  | spoilt harity hspoilt => exact List.mem_cons_of_mem _ (hspoilt.mem_of_named? hw)

/-- What is wrong with an action names the turtle that the action is about. -/
theorem Action.eq_name_of_named? {a : Action} {t : Option Turtle} {error : TurtleError}
    (h : a.work t = .error error) (hw : CommandError.named? (.turtle error) = some w) :
    a.name = w := by
  cases a <;> cases t <;> cases h <;> cases hw <;> rfl

namespace Session

variable {s : Session} {text : String}

/-- **An error names a word of the line.** -/
theorem mem_words_of_named? (he : s.attempt (trim text) = .error e) (hw : e.named? = some w) :
    w ∈ words text := by
  have hrefused := process_of_error he none
  cases s.lineCase text none with
  | malformed error hread hr =>
    rw [hr] at hrefused
    obtain ⟨rfl, -⟩ : .parse error = e ∧ _ := by simpa [refuse] using hrefused
    exact (Invocation.ofWords_eq_iff.mp hread).mem_of_named? hw
  | failed a error hasks hfails hr =>
    rw [hr] at hrefused
    obtain ⟨rfl, -⟩ : .turtle error = e ∧ _ := by simpa [refuse] using hrefused
    rw [← a.eq_name_of_named? hfails hw]
    exact List.mem_of_getElem? hasks.getElem?_one
  -- A line that is refused is not ignored or carried out.
  | blank _ hr => simp [hr, refuse, idle] at hrefused
  | quit _ hr => simp [hr, refuse, stop] at hrefused
  | done a done _ _ hr => simp [hr, refuse, accept] at hrefused

end Session

end

/-! ## What complaints are made of -/

/-- What stands behind the last of its kind is known. -/
theorem eq_of_append_cons_eq {α : Type} {x : α} {front front' rest rest' : List α}
    (hrest : x ∉ rest) (hrest' : x ∉ rest') (h : front ++ x :: rest = front' ++ x :: rest') :
    rest = rest' := by
  have hnone : ∀ {more r r' : List α}, x ∉ r → x :: r = more ++ x :: r' → r = r' := by
    intro more r r' hr hmore
    cases more with
    | nil => exact (List.cons.inj hmore).2
    | cons y more =>
      have hmem : x ∈ more ++ x :: r' := List.mem_append_right more List.mem_cons_self
      exact absurd ((List.cons.inj hmore).2 ▸ hmem) hr
  rcases List.append_eq_append_iff.mp h with ⟨more, -, hmore⟩ | ⟨more, -, hmore⟩
  · exact hnone hrest hmore
  · exact (hnone hrest' hmore).symm

namespace Session

variable {line line' : String} {number number' : Option Nat} {e e' : CommandError}

/-- The colon in front of the message is a word by itself. -/
theorem words_complaint (line : String) (number : Option Nat) (e : CommandError) :
    words (complaint line number e) =
      words (complaintSubject line number) ++ ":" :: words e.message := by
  have hblank : isBlank ' ' = true := by decide
  have hcolon : wordsOf [':'] = [[':']] := by decide
  have hchars : (complaint line number e).toList =
      (complaintSubject line number).toList ++ ' ' :: ([':'] ++ ' ' :: e.message.toList) := by
    simp [complaint]
  rw [words, hchars, wordsOf_append_blank hblank, wordsOf_append_blank hblank, hcolon,
    List.map_append, List.map_append]
  rfl

/-- **A complaint says what is wrong,** and with which line, if errors name words. -/
theorem complaint_inj (he : ∀ w, e.named? = some w → IsWord w.toList)
    (he' : ∀ w, e'.named? = some w → IsWord w.toList)
    (h : complaint line number e = complaint line' number' e') :
    complaintSubject line number = complaintSubject line' number' ∧ e = e' := by
  have hwords := congrArg words h
  rw [words_complaint, words_complaint, e.words_message he, e'.words_message he'] at hwords
  -- The colon in front of the message is the last word of its kind on both sides.
  obtain rfl : e = e' := CommandError.words_injective
    (eq_of_append_cons_eq e.colon_not_mem_words e'.colon_not_mem_words hwords)
  rw [complaint, complaint, String.append_left_inj, String.append_left_inj] at h
  exact ⟨h, rfl⟩

/-- What a line is called by is its number or its text. -/
theorem complaintSubject_inj (h : complaintSubject line number = complaintSubject line' number') :
    number = number' ∧ (number = none → line = line') := by
  rw [← String.toList_inj] at h
  cases number with
  | none =>
    cases number' with
    | none => simpa [complaintSubject, String.toList_inj] using h
    | some n' => simp [complaintSubject] at h
  | some n =>
    cases number' with
    | none => simp [complaintSubject] at h
    | some n' =>
      have hdigits : Nat.toDigits 10 n = Nat.toDigits 10 n' := by
        simpa [complaintSubject, Nat.toString_eq_repr, Nat.toList_repr] using h
      have hnumbers := congrArg (Nat.ofDigitChars 10 · 0) hdigits
      simp only [Nat.ofDigitChars_ten_toDigits] at hnumbers
      exact ⟨congrArg some hnumbers, nofun⟩

/-! ## What the user is told -/

/-- Whoever is told of an error is told of a line that has failed. -/
theorem exists_attempt_of_mem_feedback {s : Session} {text message : String}
    (h : .error message ∈ (s.process text number).feedback) :
    ∃ e, s.attempt (trim text) = .error e ∧ message = complaint (trim text) number e := by
  cases ha : s.attempt (trim text) with
  | ok r =>
    obtain ⟨event, hevent, hf⟩ := List.mem_filterMap.mp h
    have htold : event = .told (.error message) := by
      cases event <;> cases hf
      rfl
    exact absurd (htold ▸ hevent) (told_error_not_mem_process ha number message)
  | error e =>
    rw [process_of_error ha, refuse_feedback, List.mem_singleton] at h
    exact ⟨e, rfl, Feedback.error.inj h⟩

/-- **Complaints are unambiguous.** Whatever the sessions and the lines, two lines that are
complained of in one text have been given one number or both none, and fail with one error, which
names one word if it names any. If there is no number then the lines are the same as well, but for
the blanks around them. -/
theorem complaints_unambiguous {s s' : Session} {text text' message : String}
    {number number' : Option Nat} (h : .error message ∈ (s.process text number).feedback)
    (h' : .error message ∈ (s'.process text' number').feedback) :
    number = number' ∧
      (∃ e, s.attempt (trim text) = .error e ∧ s'.attempt (trim text') = .error e) ∧
      (number = none → trim text = trim text') := by
  obtain ⟨e, he, hmessage⟩ := exists_attempt_of_mem_feedback h
  obtain ⟨e', he', hmessage'⟩ := exists_attempt_of_mem_feedback h'
  have hword : ∀ w, e.named? = some w → IsWord w.toList :=
    fun w hw ↦ isWord_of_mem_words (mem_words_of_named? he hw)
  have hword' : ∀ w, e'.named? = some w → IsWord w.toList :=
    fun w hw ↦ isWord_of_mem_words (mem_words_of_named? he' hw)
  obtain ⟨hsubject, rfl⟩ := complaint_inj hword hword' (hmessage.symm.trans hmessage')
  obtain ⟨hnumber, hline⟩ := complaintSubject_inj hsubject
  exact ⟨hnumber, ⟨e, he, he'⟩, hline⟩

/-- A line that looks like what is said of it, in two sessions and with other blanks around it. -/
theorem complaints_unambiguous_look_alike :
    (.error "'x' : Unknown command 'x' : Unknown command 'x''" ∈
        (start.process "x' : Unknown command 'x" none).feedback ∧
      .error "'x' : Unknown command 'x' : Unknown command 'x''" ∈
        ((start.process "turtle x" none).session.process
          "\tx' : Unknown command 'x\n" none).feedback) ∧
    (∃ e, start.attempt (trim "x' : Unknown command 'x") = .error e ∧
      (start.process "turtle x" none).session.attempt
        (trim "\tx' : Unknown command 'x\n") = .error e) ∧
    trim "x' : Unknown command 'x" = trim "\tx' : Unknown command 'x\n" := by
  have h : .error "'x' : Unknown command 'x' : Unknown command 'x''" ∈
      (start.process "x' : Unknown command 'x" none).feedback := by decide +kernel
  have h' : .error "'x' : Unknown command 'x' : Unknown command 'x''" ∈
      ((start.process "turtle x" none).session.process
        "\tx' : Unknown command 'x\n" none).feedback := by decide +kernel
  obtain ⟨-, herror, hline⟩ := complaints_unambiguous h h'
  exact ⟨⟨h, h'⟩, herror, hline rfl⟩

end Session

end TurtleScript
