import TurtleScript.Proofs.Command.Requests
import TurtleScript.Proofs.Session.Interpreter

/-!
# Carrying out an invocation

An invocation need not come from a line: it may call an operation anything, and with any arguments.
It is refused as a mismatch if their kinds are not those of the signature, whatever turtles there
are. If it fits, all depends on the turtle that it names: a new turtle must not be there yet, any
other one must be (`execute_verdict`).

A failure changes nothing, neither the session nor what it draws on and talks to. A line never
leads to a mismatch, for what is read from a line fits.
-/

namespace TurtleScript

/-- An action fails if its turtle is new but there already, or is not new and not there. -/
theorem Action.work_cases (a : Action) (t : Option Turtle) :
    (a = .create a.name ∧ t ≠ none ∧ a.work t = .error (.alreadyExists a.name)) ∨
      (a ≠ .create a.name ∧ t = none ∧ a.work t = .error (.doesNotExist a.name)) ∨
      ((a = .create a.name ↔ t = none) ∧ ∃ w, a.work t = .ok w) := by
  cases a <;> cases t <;> simp [Action.work, Action.name]

namespace Session

/-! ## The outcomes of an invocation -/

/-- The outcomes of an invocation. -/
inductive ExecutionCase (s : Session) (i : Invocation) : Prop where
  /-- Its arguments do not fit. -/
  | mismatched (h : ¬i.Fits)
    (he : s.execute i = .error (.parse (.argumentMismatch i.command)))
  /-- It is for a new turtle, which is there already. -/
  | taken (n : String) (h : i.Fits) (hname : ∀ m, i.Names m ↔ n = m)
    (hop : i.operation = .turtle) (hn : s.registry.get? n ≠ none)
    (he : s.execute i = .error (.turtle (.alreadyExists n)))
  /-- It is for another turtle, which is not there. -/
  | missing (n : String) (h : i.Fits) (hname : ∀ m, i.Names m ↔ n = m)
    (hop : i.operation ≠ .turtle) (hn : s.registry.get? n = none)
    (he : s.execute i = .error (.turtle (.doesNotExist n)))
  /-- It is carried out. -/
  | done (h : i.Fits)
    (hn : ∀ n, i.Names n → (i.operation = .turtle ↔ s.registry.get? n = none)) (r : Reply)
    (hr : s.execute i = .ok r)

/-- **Every invocation has one of the outcomes.** -/
theorem executionCase (s : Session) (i : Invocation) : ExecutionCase s i := by
  cases hq : i.request? with
  | none =>
    refine .mismatched (fun h ↦ ?_) (by rw [execute, hq])
    obtain ⟨q, hq'⟩ := Invocation.fits_iff.mp h
    rw [hq] at hq'
    cases hq'
  | some q =>
    have hfits : i.Fits := Invocation.fits_iff.mpr ⟨q, hq⟩
    cases q with
    | quit =>
      refine .done hfits (fun n hn ↦ ?_) _ (execute_of_quit hq)
      exact absurd hn (Invocation.not_names_of_quit hq n)
    | act a =>
      have hnames : ∀ n, i.Names n ↔ a.name = n := fun n ↦ Invocation.names_iff_of_act hq
      have hop := Invocation.operation_eq_turtle_iff hq
      have hexecute := execute_of_act (s := s) hq
      rcases a.work_cases (s.registry.get? a.name) with ⟨ha, hn, hw⟩ | ⟨ha, hn, hw⟩ | ⟨hn, w, hw⟩
      · rw [hw] at hexecute
        exact .taken a.name hfits hnames (hop.mpr ha) hn hexecute
      · rw [hw] at hexecute
        exact .missing a.name hfits hnames (hop.not.mpr ha) hn hexecute
      · rw [hw] at hexecute
        refine .done hfits (fun n h ↦ ?_) _ hexecute
        rw [← (hnames n).mp h]
        exact hop.trans hn

end Session

namespace Interpreter

/-- An invocation that fails leaves an interpreter as it was. -/
theorem take_execute_of_error {i : Interpreter} {x : Invocation} {e : CommandError}
    (h : i.session.execute x = .error e) (files : Files) : i.take files (.execute x) = i := by
  rw [take, receiveReply_eq, Session.take, h]
  rfl

/-- **Carrying out an invocation.** It is a mismatch just if its arguments are not of the kinds that
its operation takes; no turtle has a say in that, and there is no other way to be malformed. If they
fit, a new turtle that is there already and any other turtle that is missing are reported by their
names, and nothing else goes wrong. What fails has changed nothing, and what is read from a line is
never a mismatch. -/
theorem execute_verdict (x : Invocation) :
    (∀ s : Session,
      (s.execute x = .error (.parse (.argumentMismatch x.command)) ↔ ¬x.Fits) ∧
      (∀ e, s.execute x = .error (.parse e) → e = .argumentMismatch x.command) ∧
      (∀ n, s.execute x = .error (.turtle (.alreadyExists n)) ↔
        x.Fits ∧ x.operation = .turtle ∧ x.Names n ∧ s.registry.get? n ≠ none) ∧
      (∀ n, s.execute x = .error (.turtle (.doesNotExist n)) ↔
        x.Fits ∧ x.operation ≠ .turtle ∧ x.Names n ∧ s.registry.get? n = none) ∧
      ((∃ r, s.execute x = .ok r) ↔
        x.Fits ∧ ∀ n, x.Names n → (x.operation = .turtle ↔ s.registry.get? n = none))) ∧
    (∀ (i : Interpreter) (files : Files) (e : CommandError), i.session.execute x = .error e →
      i.take files (.execute x) = i) ∧
    ∀ line, Invocation.ofLine line = .ok (some x) → ∀ (s : Session) (command : String),
      s.execute x ≠ .error (.parse (.argumentMismatch command)) := by
  have hread : ∀ line, Invocation.ofLine line = .ok (some x) → x.Fits := by
    intro line hline
    obtain ⟨q, hq, -⟩ := Invocation.asks_of_ofWords hline
    exact Invocation.fits_iff.mpr ⟨q, hq⟩
  refine ⟨fun s ↦ ?_, fun i files e h ↦ take_execute_of_error h files,
    fun line hline s command ↦ ?_⟩
  · cases s.executionCase x with
    | mismatched h he => simp [he, h]
    | taken n h hname hop hn he =>
      simp only [he, h, hop, hname]
      grind
    | missing n h hname hop hn he =>
      simp only [he, h, hop, hname]
      grind
    | done h hn r hr =>
      simp only [hr, h]
      grind
  · have hfits := hread line hline
    cases s.executionCase x with
    | mismatched h he => exact absurd hfits h
    | taken n h hname hop hn he => simp [he]
    | missing n h hname hop hn he => simp [he]
    | done h hn r hr => simp [hr]

end Interpreter

end TurtleScript
