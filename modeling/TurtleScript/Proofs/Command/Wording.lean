import TurtleScript.Proofs.Command.Verdict

/-!
# How errors are worded

A message says its piece in fixed words, around a word of the user's in quotes
(`CommandError.words`). The user's word may hold quotes and colons, and may look like part of the
message. But it holds no blanks, since it comes from a line, so it is one word of the message and
nothing else of the message is. Hence a message says which error it is of, and of which word
(`CommandError.message_injective`).
-/

namespace TurtleScript

/-- A word in quotes. -/
def inQuotes (w : String) : String := "'" ++ w ++ "'"

theorem inQuotes_inj {v w : String} : inQuotes v = inQuotes w ↔ v = w := by
  rw [inQuotes, inQuotes, String.append_left_inj, String.append_right_inj]

theorem inQuotes_ne_colon (w : String) : inQuotes w ≠ ":" := by
  rw [Ne, ← String.toList_inj]
  simp [inQuotes]

theorem isWord_inQuotes {w : String} (h : Text.IsWord w.toList) :
    Text.IsWord (inQuotes w).toList := by
  have hquote : Text.isBlank '\'' = false := by decide
  refine ⟨by simp [inQuotes], fun c hc ↦ ?_⟩
  simp only [inQuotes, String.toList_append, List.mem_append] at hc
  rcases hc with (hc | hc) | hc
  · exact List.mem_singleton.mp hc ▸ hquote
  · exact h.2 c hc
  · exact List.mem_singleton.mp hc ▸ hquote

theorem Colour.knownNames_eq : knownNames = "red, green, blue, black" := by
  rw [← String.toList_inj]
  simp [knownNames, palette, name, String.intercalate_cons_cons]

namespace CommandError

variable {e e' : CommandError}

/-- The word of the user's that a message quotes. -/
def named? : CommandError → Option String
  | .parse (.unknownCommand word) => some word
  | .parse .tooFewArguments => none
  | .parse .tooManyArguments => none
  | .parse (.notADistance token) => some token
  | .parse (.nonPositiveDistance token) => some token
  | .parse (.notAnAngle token) => some token
  | .parse (.notAPenState token) => some token
  | .parse (.notAColour token) => some token
  | .parse (.argumentMismatch command) => some command
  | .turtle (.alreadyExists name) => some name
  | .turtle (.doesNotExist name) => some name

/-- The words of a message. -/
def words : CommandError → List String
  | .parse (.unknownCommand word) => ["Unknown", "command", inQuotes word]
  | .parse .tooFewArguments => ["Too", "few", "arguments."]
  | .parse .tooManyArguments => ["Too", "many", "arguments."]
  | .parse (.notADistance token) => [inQuotes token, "not", "a", "distance"]
  | .parse (.nonPositiveDistance token) =>
    [inQuotes token, "not", "a", "distance:", "Distance", "must", "be", "positive"]
  | .parse (.notAnAngle token) => [inQuotes token, "not", "a", "valid", "angle"]
  | .parse (.notAPenState token) => [inQuotes token, "not", "a", "valid", "pen", "state"]
  | .parse (.notAColour token) =>
    [inQuotes token, "is", "not", "a", "valid", "colour.", "[Known", "colours:", "red,", "green,",
      "blue,", "black]"]
  | .parse (.argumentMismatch command) =>
    ["Arguments", "do", "not", "match", "command", inQuotes command]
  | .turtle (.alreadyExists name) => ["Turtle", inQuotes name, "already", "exists"]
  | .turtle (.doesNotExist name) => ["Turtle", inQuotes name, "does", "not", "exist"]

/-- A message is its words with single spaces between them. -/
theorem message_eq (e : CommandError) : e.message = " ".intercalate e.words := by
  rw [← String.toList_inj]
  rcases e with e | e <;> cases e <;>
  · -- Opening the definitions as they are saves proving an equation for every message.
    delta message ParseError.message TurtleError.message
    simp [words, inQuotes, String.intercalate_cons_cons, Colour.knownNames_eq]

/-- The words that messages consist of, but for quoted ones. -/
def fixedWords : List String :=
  ["Unknown", "command", "Too", "few", "many", "arguments.", "not", "a", "distance", "distance:",
    "Distance", "must", "be", "positive", "valid", "angle", "pen", "state", "is", "colour.",
    "[Known", "colours:", "red,", "green,", "blue,", "black]", "Arguments", "do", "match", "Turtle",
    "already", "exists", "does", "exist"]

/-- A message consists of fixed words and the quoted one. -/
theorem mem_words {w : String} (hw : w ∈ e.words) :
    w ∈ fixedWords ∨ ∃ name, e.named? = some name ∧ w = inQuotes name := by
  rcases e with e | e <;> cases e <;>
  · simp only [words, named?, fixedWords, List.mem_cons, List.not_mem_nil, or_false] at hw ⊢
    grind

theorem isWord_of_mem_fixedWords {w : String} (hw : w ∈ fixedWords) : Text.IsWord w.toList := by
  have hall : ∀ w ∈ fixedWords, w.toList ≠ [] ∧ (w.toList.all fun c ↦ !Text.isBlank c) = true := by
    decide +kernel
  exact Text.isWord_of_all (hall w hw).1 (hall w hw).2

/-- Only the quoted word could spoil the words of a message. -/
theorem words_message (he : ∀ w, e.named? = some w → Text.IsWord w.toList) :
    Text.words e.message = e.words := by
  have hwords : ∀ w ∈ e.words, Text.IsWord w.toList := by
    intro w hw
    rcases mem_words hw with hfixed | ⟨name, hname, rfl⟩
    · exact isWord_of_mem_fixedWords hfixed
    · exact isWord_inQuotes (he name hname)
  rw [message_eq]
  exact (Text.laidOut_iff.mp ⟨Text.spread_intercalate e.words, hwords⟩).symm

theorem colon_not_mem_words (e : CommandError) : ":" ∉ e.words := by
  intro hcolon
  rcases mem_words hcolon with hfixed | ⟨name, -, hquoted⟩
  · exact absurd hfixed (by decide)
  · exact inQuotes_ne_colon name hquoted.symm

/-- No two errors have the same words. -/
theorem words_injective (h : e.words = e'.words) : e = e' := by
  -- Two errors of different kinds differ in the number of their words or in a fixed word.
  rcases e with e | e <;> rcases e' with e' | e' <;> cases e <;> cases e' <;>
    simp_all [words, inQuotes_inj]

/-- **A message says what is wrong,** and with which word. -/
theorem message_injective (he : ∀ w, e.named? = some w → Text.IsWord w.toList)
    (he' : ∀ w, e'.named? = some w → Text.IsWord w.toList) (h : e.message = e'.message) :
    e = e' := by
  apply words_injective
  rw [← words_message he, h, words_message he']

end CommandError

end TurtleScript
