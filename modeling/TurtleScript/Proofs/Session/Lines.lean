import TurtleScript.Proofs.Command.Grammar
import TurtleScript.Proofs.Registry.Locality
import TurtleScript.Proofs.Text.Words
import TurtleScript.Session.Basic

/-!
# Command lines

## One line

A line has one of five outcomes (`LineCase`): it is blank, it is malformed, it stops the session, or
it asks for an action, which fails or is done. The outcome depends on the words of the line, on
nothing else of its text, and for an action on the turtle of its name. All that is proved of
lines is proved by these five cases, so that neither reading nor the registry is opened again. Two
things follow at once: a line changes no name but its own (`get?_process_cases`), and it draws at
most one segment (`drawn_process_cases`).

## Many lines

The lines of a session are taken one after another, each from the session that the ones before it
have left. `Session.replies` keeps what comes of each of them apart; put together in order this is
what comes of all (`events_processAll`).
-/

namespace TurtleScript

/-- A command line, with its number if it comes from a file. -/
abbrev Line := String × Option Nat

namespace Line

/-- The words of a line. -/
def words (line : Line) : List String := Text.words line.1

end Line

/-! ## What a reply shows -/

namespace Reply

/-- What the user is told. -/
def feedback (r : Reply) : List Feedback := r.events.filterMap Event.feedback?

/-- What is drawn. -/
def drawn (r : Reply) : List Segment := r.events.filterMap Event.segment?

variable (r : Reply) (next : Session → Reply)

@[simp] theorem session_andThen : (r.andThen next).session = (next r.session).session := rfl

@[simp] theorem events_andThen :
    (r.andThen next).events = r.events ++ (next r.session).events := rfl

@[simp] theorem feedback_andThen :
    (r.andThen next).feedback = r.feedback ++ (next r.session).feedback :=
  List.filterMap_append

@[simp] theorem drawn_andThen :
    (r.andThen next).drawn = r.drawn ++ (next r.session).drawn :=
  List.filterMap_append

theorem andThen_assoc (more : Session → Reply) :
    (r.andThen next).andThen more = r.andThen fun s ↦ (next s).andThen more := by
  simp [andThen]

end Reply

namespace Session

@[simp] theorem idle_session (s : Session) : s.idle.session = s := rfl

@[simp] theorem idle_events (s : Session) : s.idle.events = [] := rfl

@[simp] theorem idle_feedback (s : Session) : s.idle.feedback = [] := rfl

@[simp] theorem idle_drawn (s : Session) : s.idle.drawn = [] := rfl

@[simp] theorem idle_andThen (s : Session) (next : Session → Reply) :
    s.idle.andThen next = next s := rfl

@[simp] theorem andThen_idle (r : Reply) : r.andThen idle = r := by
  cases r
  simp [Reply.andThen]

theorem andThen_of_idle {r : Reply} {next : Session → Reply}
    (h : next r.session = r.session.idle) : r.andThen next = r := by
  rw [Reply.andThen, h, idle_session, idle_events, List.append_nil]

/-! ## One line -/

section

variable (s : Session) (text : String) (number : Option Nat)

/-- Say that a line has failed, and do nothing else. -/
def refuse (e : CommandError) : Reply :=
  ⟨s, [.noted (.failed (Text.trim text) e),
    .told (.error (complaint (Text.trim text) number e))]⟩

/-- Take the command to stop. -/
def stop : Reply :=
  ⟨{ s with finished := true },
    [.noted .quit, .told .shutdown, .told (.echo (Text.trim text))]⟩

/-- Put a piece of work under a name. -/
def accept (n : String) (w : Work) : Reply :=
  ⟨{ s with registry := s.registry.put n w.turtle },
    .noted (.changed w.change) :: (w.drawn.map Event.drew).toList ++
      [.told (.echo (Text.trim text))]⟩

@[simp] theorem refuse_session (e : CommandError) : (s.refuse text number e).session = s := rfl

@[simp] theorem refuse_feedback (e : CommandError) :
    (s.refuse text number e).feedback = [.error (complaint (Text.trim text) number e)] := rfl

@[simp] theorem refuse_drawn (e : CommandError) : (s.refuse text number e).drawn = [] := rfl

@[simp] theorem stop_session : (s.stop text).session = { s with finished := true } := rfl

@[simp] theorem stop_feedback :
    (s.stop text).feedback = [.shutdown, .echo (Text.trim text)] := rfl

@[simp] theorem stop_drawn : (s.stop text).drawn = [] := rfl

variable (n : String) (w : Work)

@[simp] theorem accept_session :
    (s.accept text n w).session = { s with registry := s.registry.put n w.turtle } := rfl

@[simp] theorem accept_feedback :
    (s.accept text n w).feedback = [.echo (Text.trim text)] := by
  rw [accept, Reply.feedback]
  cases w.drawn <;> rfl

@[simp] theorem accept_drawn : (s.accept text n w).drawn = w.drawn.toList := by
  rw [accept, Reply.drawn]
  cases w.drawn <;> rfl

end

section

variable {s : Session} {text : String} {number : Option Nat}

theorem process_of_blank (hw : Text.words text = []) : s.process text number = s.idle := by
  simp only [process, attempt, Invocation.ofLine, Text.words_trim, hw, Invocation.ofWords]

theorem process_of_malformed {e : ParseError}
    (hw : Invocation.ofWords (Text.words text) = .error e) :
    s.process text number = s.refuse text number (.parse e) := by
  simp only [process, attempt, Invocation.ofLine, Text.words_trim, hw, refuse]

theorem execute_of_quit {i : Invocation} (h : i.request? = some .quit) :
    s.execute i = .ok ⟨{ s with finished := true }, [.noted .quit, .told .shutdown]⟩ := by
  simp only [execute, h]

theorem execute_of_act {i : Invocation} {a : Action} (h : i.request? = some (.act a)) :
    s.execute i =
      match a.work (s.registry.get? a.name) with
      | .error e => .error (.turtle e)
      | .ok w => .ok ⟨{ s with registry := s.registry.put a.name w.turtle },
          .noted (.changed w.change) :: (w.drawn.map Event.drew).toList⟩ := by
  simp only [execute, h, Registry.perform_eq]
  cases a.work (s.registry.get? a.name) <;> rfl

/-- What is carried out is the command to stop or an action. -/
theorem execute_cases {i : Invocation} {r : Reply} (h : s.execute i = .ok r) :
    (i.request? = some .quit ∧
        r = ⟨{ s with finished := true }, [.noted .quit, .told .shutdown]⟩) ∨
      ∃ a w, i.request? = some (.act a) ∧ a.work (s.registry.get? a.name) = .ok w ∧
        r = ⟨{ s with registry := s.registry.put a.name w.turtle },
          .noted (.changed w.change) :: (w.drawn.map Event.drew).toList⟩ := by
  cases hq : i.request? with
  | none =>
    rw [execute, hq] at h
    cases h
  | some q =>
    cases q with
    | quit =>
      rw [execute_of_quit hq] at h
      exact Or.inl ⟨rfl, (Except.ok.inj h).symm⟩
    | act a =>
      rw [execute_of_act hq] at h
      cases hw : a.work (s.registry.get? a.name) with
      | error e =>
        rw [hw] at h
        cases h
      | ok w =>
        rw [hw] at h
        exact Or.inr ⟨a, w, rfl, hw, (Except.ok.inj h).symm⟩

theorem process_of_quit (hw : Asks (Text.words text) .quit) :
    s.process text number = s.stop text := by
  obtain ⟨i, hi, hq⟩ := Invocation.ofWords_of_asks hw
  simp only [process, attempt, Invocation.ofLine, Text.words_trim, hi, execute_of_quit hq, stop,
    Except.map, List.cons_append, List.nil_append]

theorem process_of_failed {a : Action} {e : TurtleError} (hw : Asks (Text.words text) (.act a))
    (he : a.work (s.registry.get? a.name) = .error e) :
    s.process text number = s.refuse text number (.turtle e) := by
  obtain ⟨i, hi, hq⟩ := Invocation.ofWords_of_asks hw
  simp only [process, attempt, Invocation.ofLine, Text.words_trim, hi, execute_of_act hq, he,
    refuse, Except.map]

theorem process_of_done {a : Action} {w : Work} (hw : Asks (Text.words text) (.act a))
    (hd : a.work (s.registry.get? a.name) = .ok w) :
    s.process text number = s.accept text a.name w := by
  obtain ⟨i, hi, hq⟩ := Invocation.ofWords_of_asks hw
  simp only [process, attempt, Invocation.ofLine, Text.words_trim, hi, execute_of_act hq, hd,
    accept, Except.map]

end

/-- The outcomes of a line. -/
inductive LineCase (s : Session) (text : String) (number : Option Nat) : Prop where
  /-- It has no words. -/
  | blank (hw : Text.words text = []) (hr : s.process text number = s.idle)
  /-- It is no command. -/
  | malformed (e : ParseError) (hw : Invocation.ofWords (Text.words text) = .error e)
    (hr : s.process text number = s.refuse text number (.parse e))
  /-- It is the command to stop. -/
  | quit (hw : Asks (Text.words text) .quit) (hr : s.process text number = s.stop text)
  /-- It asks for an action that fails. -/
  | failed (a : Action) (e : TurtleError) (hw : Asks (Text.words text) (.act a))
    (he : a.work (s.registry.get? a.name) = .error e)
    (hr : s.process text number = s.refuse text number (.turtle e))
  /-- It asks for an action that succeeds. -/
  | done (a : Action) (w : Work) (hw : Asks (Text.words text) (.act a))
    (hd : a.work (s.registry.get? a.name) = .ok w)
    (hr : s.process text number = s.accept text a.name w)

/-- **Every line has one of the outcomes.** -/
theorem lineCase (s : Session) (text : String) (number : Option Nat) :
    LineCase s text number := by
  cases h : Invocation.ofWords (Text.words text) with
  | error e => exact .malformed e h (process_of_malformed h)
  | ok i? =>
    cases i? with
    | none =>
      have hw : Text.words text = [] := Invocation.eq_nil_of_ofWords h
      exact .blank hw (process_of_blank hw)
    | some i =>
      obtain ⟨q, -, hw⟩ := Invocation.asks_of_ofWords h
      cases q with
      | quit => exact .quit hw (process_of_quit hw)
      | act a =>
        cases hd : a.work (s.registry.get? a.name) with
        | error e => exact .failed a e hw hd (process_of_failed hw hd)
        | ok w => exact .done a w hw hd (process_of_done hw hd)

/-! ## What a line changes -/

section

variable (s : Session) (text : String) (number : Option Nat)

/-- **What a line makes of a name.** Either the turtle stays as it is, and the line asks for nothing
that the turtle could do; or the line asks for an action on the name, and that has been done. -/
theorem get?_process_cases (n : String) :
    ((s.process text number).session.registry.get? n = s.registry.get? n ∧
        ∀ a w, Asks (Text.words text) (.act a) → a.name = n →
          a.work (s.registry.get? n) ≠ .ok w) ∨
      ∃ a w, Asks (Text.words text) (.act a) ∧ a.name = n ∧ a.work (s.registry.get? n) = .ok w ∧
        (s.process text number).session.registry.get? n = some w.turtle := by
  cases s.lineCase text number with
  | blank hw hr =>
    refine Or.inl ⟨by rw [hr, idle_session], ?_⟩
    intro a w ha
    rw [hw] at ha
    cases ha
  | malformed e hw hr =>
    refine Or.inl ⟨by rw [hr, refuse_session], ?_⟩
    intro a w ha
    obtain ⟨i, hi, -⟩ := Invocation.ofWords_of_asks ha
    rw [hw] at hi
    cases hi
  | quit hw hr =>
    refine Or.inl ⟨by rw [hr, stop_session], ?_⟩
    intro a w ha
    cases Invocation.asks_unique hw ha
  | failed b e hw he hr =>
    refine Or.inl ⟨by rw [hr, refuse_session], ?_⟩
    rintro a w ha rfl hdone
    cases Invocation.asks_unique hw ha
    rw [he] at hdone
    cases hdone
  | done b w hw hd hr =>
    by_cases hn : b.name = n
    · refine Or.inr ⟨b, w, hw, hn, hn ▸ hd, ?_⟩
      rw [hr, accept_session, hn, Registry.get?_put_self]
    · refine Or.inl ⟨?_, ?_⟩
      · rw [hr, accept_session]
        exact s.registry.get?_put_of_ne w.turtle hn
      · intro a v ha ha'
        cases Invocation.asks_unique hw ha
        exact absurd ha' hn

/-- A line draws nothing, or it asks for an action that has drawn one segment. -/
theorem drawn_process_cases :
    (s.process text number).drawn = [] ∨
      ∃ a w seg, Asks (Text.words text) (.act a) ∧
        a.work (s.registry.get? a.name) = .ok w ∧ w.drawn = some seg ∧
        (s.process text number).drawn = [seg] := by
  cases s.lineCase text number with
  | blank hw hr => exact Or.inl (by rw [hr, idle_drawn])
  | malformed e hw hr => exact Or.inl (by rw [hr, refuse_drawn])
  | quit hw hr => exact Or.inl (by rw [hr, stop_drawn])
  | failed a e hw he hr => exact Or.inl (by rw [hr, refuse_drawn])
  | done a w hw hd hr =>
    rw [hr, accept_drawn]
    cases hdrawn : w.drawn with
    | none => exact Or.inl rfl
    | some seg => exact Or.inr ⟨a, w, seg, hw, hd, hdrawn, rfl⟩

end

/-! ## Many lines -/

@[simp] theorem processAll_nil (s : Session) : s.processAll [] = s.idle := rfl

@[simp] theorem processAll_cons (s : Session) (line : Line) (lines : List Line) :
    s.processAll (line :: lines) =
      (s.process line.1 line.2).andThen fun s ↦ s.processAll lines := rfl

theorem processAll_append (s : Session) (a b : List Line) :
    s.processAll (a ++ b) = (s.processAll a).andThen fun s ↦ s.processAll b := by
  induction a generalizing s with
  | nil => rfl
  | cons line a ih =>
    rw [List.cons_append, processAll_cons, processAll_cons, Reply.andThen_assoc]
    simp only [ih]

theorem processAll_concat (s : Session) (lines : List Line) (line : Line) :
    s.processAll (lines ++ [line]) =
      (s.processAll lines).andThen fun s ↦ s.process line.1 line.2 := by
  rw [processAll_append]
  simp

/-- What comes of each line, in order. -/
def replies (s : Session) : List Line → List Reply
  | [] => []
  | line :: lines =>
    s.process line.1 line.2 :: (s.process line.1 line.2).session.replies lines

@[simp] theorem replies_nil (s : Session) : s.replies [] = [] := rfl

@[simp] theorem replies_cons (s : Session) (line : Line) (lines : List Line) :
    s.replies (line :: lines) =
      s.process line.1 line.2 :: (s.process line.1 line.2).session.replies lines := rfl

/-- A line is taken by the session that the lines before it have left. -/
theorem getElem?_replies (s : Session) (lines : List Line) (k : Nat) :
    (s.replies lines)[k]? = lines[k]?.map fun line ↦
      (s.processAll (lines.take k)).session.process line.1 line.2 := by
  induction lines generalizing s k with
  | nil => rfl
  | cons line lines ih =>
    cases k with
    | zero => rfl
    | succ k =>
      rw [replies_cons, List.getElem?_cons_succ, ih, List.getElem?_cons_succ, List.take_succ_cons,
        processAll_cons]
      simp only [Reply.session_andThen]

/-- What comes of some lines is what comes of each, in order. -/
theorem events_processAll (s : Session) (lines : List Line) :
    (s.processAll lines).events = (s.replies lines).flatMap Reply.events := by
  induction lines generalizing s with
  | nil => rfl
  | cons line lines ih =>
    rw [processAll_cons, Reply.events_andThen, ih, replies_cons, List.flatMap_cons]

end Session

end TurtleScript
