import TurtleScript.Proofs.Session.Lines

/-!
# Lines that fail

Which lines of a file fail, under which numbers and why, is told by attempting each of them in the
session that the lines before it have left (`Session.failures`). The number of a failure says where
its line stands (`getElem?_of_mem_failures`).

A line that does not fail has nothing to do with numbers (`process_of_ok`), and nobody is told of an
error (`told_error_not_mem_process`).
-/

namespace TurtleScript

/-- A line that has failed. -/
structure Failure where
  /-- Its number. -/
  number : Nat
  /-- Its text, trimmed. -/
  line : String
  /-- What is wrong with it. -/
  error : CommandError
  deriving DecidableEq

namespace Failure

/-- What the user is told of a line in a file. -/
def numbered (f : Failure) : String :=
  "Line " ++ toString f.number ++ " : " ++ f.error.message ++ "\n"

/-- What the user is told of a line in the input. -/
def quoted (f : Failure) : String := "'" ++ f.line ++ "' : " ++ f.error.message ++ "\n"

end Failure

namespace Session

/-- How a line fails, if it does. -/
def failure? (s : Session) (number : Nat) (text : String) : Option Failure :=
  match s.attempt (Text.trim text) with
  | .error e => some ⟨number, Text.trim text, e⟩
  | .ok _ => none

/-- The lines that fail, counted from a number on, up to the command to stop. -/
def failures (s : Session) (number : Nat) : List String → List Failure
  | [] => []
  | text :: texts =>
    if s.finished then []
    else
      (s.failure? number text).toList ++
        (s.process text (some number)).session.failures (number + 1) texts

theorem failures_of_finished {s : Session} (h : s.finished = true) (number : Nat)
    (texts : List String) : s.failures number texts = [] := by
  cases texts with
  | nil => rfl
  | cons text texts => rw [failures, if_pos h]

/-- Every failure is one of the lines, under its number. -/
theorem getElem?_of_mem_failures {s : Session} {number : Nat} {texts : List String} {f : Failure}
    (h : f ∈ s.failures number texts) :
    number ≤ f.number ∧ (texts[f.number - number]?).map Text.trim = some f.line := by
  induction texts generalizing s number with
  | nil => cases h
  | cons text texts ih =>
    rw [failures] at h
    split at h
    next => cases h
    next =>
      rcases List.mem_append.mp h with h | h
      · rw [Option.mem_toList, failure?] at h
        split at h
        next e he =>
          cases h
          exact ⟨Nat.le_refl _, by rw [Nat.sub_self]; rfl⟩
        next => cases h
      · obtain ⟨hle, hline⟩ := ih h
        have hindex : f.number - number = f.number - (number + 1) + 1 := by omega
        refine ⟨by omega, ?_⟩
        rw [hindex, List.getElem?_cons_succ, hline]

/-- The failures come in the order of the lines. -/
theorem pairwise_failures (s : Session) (number : Nat) (texts : List String) :
    (s.failures number texts).Pairwise fun f g ↦ f.number < g.number := by
  induction texts generalizing s number with
  | nil => exact .nil
  | cons text texts ih =>
    rw [failures]
    split
    next => exact .nil
    next =>
      rw [failure?]
      split
      next e he =>
        exact .cons (fun g hg ↦ (getElem?_of_mem_failures hg).1) (ih _ _)
      next => exact ih _ _

/-! ## One line -/

section

variable {s : Session} {text : String}

theorem process_of_error {e : CommandError} (h : s.attempt (Text.trim text) = .error e)
    (number : Option Nat) : s.process text number = s.refuse text number e := by
  simp only [process, h, refuse]

/-- Only a line that fails has to do with numbers, or with the blanks around it. -/
theorem process_of_ok {r : Option Reply} (h : s.attempt (Text.trim text) = .ok r) {typed : String}
    (htrim : Text.trim typed = Text.trim text) (number number' : Option Nat) :
    s.process typed number = s.process text number' := by
  simp only [process, htrim, h]
  cases r <;> rfl

/-- What is carried out tells of no error. -/
theorem told_error_not_mem_execute {x : Invocation} {r : Reply} (h : s.execute x = .ok r)
    (message : String) : .told (.error message) ∉ r.events := by
  rcases execute_cases h with ⟨-, rfl⟩ | ⟨a, w, -, -, rfl⟩
  · simp
  · cases w.drawn <;> simp

theorem told_error_not_mem_process {r : Option Reply} (h : s.attempt (Text.trim text) = .ok r)
    (number : Option Nat) (message : String) :
    .told (.error message) ∉ (s.process text number).events := by
  cases r with
  | none => simp [process, h]
  | some r =>
    have hexecute : ∃ x, s.execute x = .ok r := by
      rw [attempt] at h
      split at h
      next => cases h
      next => cases h
      next x hx =>
        obtain ⟨r', hr', heq⟩ := map_eq_ok_iff.mp h
        exact ⟨x, Option.some.inj heq ▸ hr'⟩
    obtain ⟨x, hx⟩ := hexecute
    simp [process, h, told_error_not_mem_execute hx message]

end

end Session

end TurtleScript
