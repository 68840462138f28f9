import TurtleScript.Proofs.Command.Grammar
import TurtleScript.Proofs.Text.Layout

/-!
# The first rule that a line violates

The rules of the command language, in the order in which they are tried: there is a word, it is one
of the seven command words, the number of the others is right, and each of them, from left to right,
means something in its place. A line that keeps all of them is read as an invocation, and any other
line gets the error of the first rule that it violates (`Verdict`). Reading gives just this verdict
(`first_violated_rule`), so every line has one, and only one.

What a word means as an argument, and why it means nothing, is stated for each kind of argument
without reference to how it is read (`Means`, `Spoils`).
-/

namespace TurtleScript

/-! ## Single arguments -/

/-- A word means an argument of some kind. -/
inductive Means : ArgumentKind → String → Argument → Prop where
  | name (n : String) : Means .name n (.name n)
  | distance {token : String} {d : Binary64} (hd : Binary64.ofText? token = some d)
    (hpositive : d.isPositive = true) : Means .distance token (.distance d)
  | degrees {token : String} {a : Binary64} (ha : Binary64.ofText? token = some a) :
    Means .degrees token (.degrees a)
  | penUp : Means .penState "up" (.penState false)
  | penDown : Means .penState "down" (.penState true)
  | colour (c : Colour) : Means .colour c.name (.colour c)

/-- A word means nothing as an argument of some kind, and this is why. Every reason names the
word. -/
inductive Spoils : ArgumentKind → String → ParseError → Prop where
  | notADistance {token : String} (h : Binary64.ofText? token = none) :
    Spoils .distance token (.notADistance token)
  | nonPositive {token : String} {d : Binary64} (hd : Binary64.ofText? token = some d)
    (h : ¬d.isPositive = true) : Spoils .distance token (.nonPositiveDistance token)
  | notAnAngle {token : String} (h : Binary64.ofText? token = none) :
    Spoils .degrees token (.notAnAngle token)
  | notAPenState {token : String} (hup : token ≠ "up") (hdown : token ≠ "down") :
    Spoils .penState token (.notAPenState token)
  | notAColour {token : String} (h : ∀ c : Colour, c.name ≠ token) :
    Spoils .colour token (.notAColour token)

/-- Every word means something or is spoilt. -/
theorem means_or_spoils (k : ArgumentKind) (token : String) :
    (∃ a, Means k token a) ∨ ∃ e, Spoils k token e := by
  cases k with
  | name => exact Or.inl ⟨_, .name token⟩
  | distance =>
    cases hd : Binary64.ofText? token with
    | none => exact Or.inr ⟨_, .notADistance hd⟩
    | some d =>
      by_cases h : d.isPositive = true
      · exact Or.inl ⟨_, .distance hd h⟩
      · exact Or.inr ⟨_, .nonPositive hd h⟩
  | degrees =>
    cases ha : Binary64.ofText? token with
    | none => exact Or.inr ⟨_, .notAnAngle ha⟩
    | some a => exact Or.inl ⟨_, .degrees ha⟩
  | penState =>
    by_cases hup : token = "up"
    · subst hup
      exact Or.inl ⟨_, .penUp⟩
    · by_cases hdown : token = "down"
      · subst hdown
        exact Or.inl ⟨_, .penDown⟩
      · exact Or.inr ⟨_, .notAPenState hup hdown⟩
  | colour =>
    by_cases h : ∃ c : Colour, c.name = token
    · obtain ⟨c, rfl⟩ := h
      exact Or.inl ⟨_, .colour c⟩
    · exact Or.inr ⟨_, .notAColour (by simpa using h)⟩

theorem Means.read {k : ArgumentKind} {token : String} {a : Argument} (h : Means k token a) :
    k.read token = .ok a := by
  cases h with
  | name => rfl
  | distance hd hpositive =>
    simp only [ArgumentKind.read, readDistance, hd, if_pos hpositive, Except.map]
  | degrees ha =>
    rw [ArgumentKind.read, readDegrees, ha]
    rfl
  | penUp => rfl
  | penDown => rfl
  | colour c =>
    rw [ArgumentKind.read, readColour, Colour.ofName?_name]
    rfl

theorem Spoils.read {k : ArgumentKind} {token : String} {e : ParseError} (h : Spoils k token e) :
    k.read token = .error e := by
  cases h with
  | notADistance h =>
    rw [ArgumentKind.read, readDistance, h]
    rfl
  | nonPositive hd h =>
    simp only [ArgumentKind.read, readDistance, hd, if_neg h, Except.map]
  | notAnAngle h =>
    rw [ArgumentKind.read, readDegrees, h]
    rfl
  | notAPenState hup hdown =>
    rw [ArgumentKind.read, readPenState, if_neg hup, if_neg hdown]
    rfl
  | notAColour h =>
    have hnone : Colour.ofName? token = none := by
      rw [Option.eq_none_iff_forall_ne_some]
      intro c hc
      exact h c (Colour.name_of_ofName? hc)
    rw [ArgumentKind.read, readColour, hnone]
    rfl

/-! ## Rows of arguments -/

/-- Words mean arguments of some kinds, each in its place. -/
inductive AllMean : List ArgumentKind → List String → List Argument → Prop where
  | nil : AllMean [] [] []
  | cons {k : ArgumentKind} {token : String} {a : Argument} {ks : List ArgumentKind}
    {tokens : List String} {arguments : List Argument} (ha : Means k token a)
    (hrest : AllMean ks tokens arguments) :
    AllMean (k :: ks) (token :: tokens) (a :: arguments)

/-- The leftmost word that means nothing in its place, and why. The words behind it do not
matter. -/
inductive FirstSpoilt : List ArgumentKind → List String → ParseError → Prop where
  | here {k : ArgumentKind} {token : String} {e : ParseError} (ks : List ArgumentKind)
    (tokens : List String) (he : Spoils k token e) : FirstSpoilt (k :: ks) (token :: tokens) e
  | later {k : ArgumentKind} {token : String} {a : Argument} {ks : List ArgumentKind}
    {tokens : List String} {e : ParseError} (ha : Means k token a)
    (hrest : FirstSpoilt ks tokens e) : FirstSpoilt (k :: ks) (token :: tokens) e

theorem allMean_or_firstSpoilt {ks : List ArgumentKind} {tokens : List String}
    (h : tokens.length = ks.length) :
    (∃ arguments, AllMean ks tokens arguments) ∨ ∃ e, FirstSpoilt ks tokens e := by
  induction ks generalizing tokens with
  | nil =>
    rw [List.length_nil, List.length_eq_zero_iff] at h
    exact Or.inl ⟨[], h ▸ .nil⟩
  | cons k ks ih =>
    obtain ⟨token, tokens, rfl⟩ := List.exists_cons_of_length_eq_add_one h
    rcases means_or_spoils k token with ⟨a, ha⟩ | ⟨e, he⟩
    · rcases ih (Nat.succ.inj h) with ⟨arguments, hrest⟩ | ⟨e, hrest⟩
      · exact Or.inl ⟨a :: arguments, .cons ha hrest⟩
      · exact Or.inr ⟨e, .later ha hrest⟩
    · exact Or.inr ⟨e, .here ks tokens he⟩

theorem AllMean.length_eq {ks : List ArgumentKind} {tokens : List String}
    {arguments : List Argument} (h : AllMean ks tokens arguments) : tokens.length = ks.length := by
  induction h with
  | nil => rfl
  | cons _ _ ih => rw [List.length_cons, List.length_cons, ih]

theorem AllMean.read {ks : List ArgumentKind} {tokens : List String} {arguments : List Argument}
    (h : AllMean ks tokens arguments) : readArguments ks tokens = .ok arguments := by
  induction h with
  | nil => rfl
  | cons ha _ ih =>
    rw [readArguments, ha.read, ih]
    rfl

theorem FirstSpoilt.read {ks : List ArgumentKind} {tokens : List String} {e : ParseError}
    (h : FirstSpoilt ks tokens e) : readArguments ks tokens = .error e := by
  induction h with
  | here ks tokens he => rw [readArguments, he.read]
  | later ha _ ih =>
    rw [readArguments, ha.read, ih]
    rfl

/-- Arguments that are meant are of the kinds that are asked for. -/
theorem AllMean.map_kind {ks : List ArgumentKind} {tokens : List String}
    {arguments : List Argument} (h : AllMean ks tokens arguments) :
    arguments.map Argument.kind = ks := by
  induction h with
  | nil => rfl
  | cons ha _ ih => rw [List.map_cons, ArgumentKind.kind_of_read ha.read, ih]

/-! ## Lines -/

/-- The seven command words. -/
def commandWords : List String := ["turtle", "move", "left", "right", "pen", "colour", "quit"]

/-- What becomes of the words of a line. -/
inductive Verdict : List String → Except ParseError (Option Invocation) → Prop where
  /-- There are none. -/
  | blank : Verdict [] (.ok none)
  /-- The first is no command word, whatever the others are. -/
  | unknown {word : String} (tokens : List String) (h : word ∉ commandWords) :
    Verdict (word :: tokens) (.error (.unknownCommand word))
  /-- The others are too few, whatever they are. -/
  | tooFew {op : Operation} {tokens : List String} (h : tokens.length < op.arity) :
    Verdict (op.word :: tokens) (.error .tooFewArguments)
  /-- The others are too many, whatever they are. -/
  | tooMany {op : Operation} {tokens : List String} (h : op.arity < tokens.length) :
    Verdict (op.word :: tokens) (.error .tooManyArguments)
  /-- One of the others means nothing. -/
  | spoilt {op : Operation} {tokens : List String} {e : ParseError}
    (harity : tokens.length = op.arity) (h : FirstSpoilt op.signature tokens e) :
    Verdict (op.word :: tokens) (.error e)
  /-- All others mean something. -/
  | accepted {op : Operation} {tokens : List String} {arguments : List Argument}
    (h : AllMean op.signature tokens arguments) :
    Verdict (op.word :: tokens) (.ok (some ⟨op.word, op, arguments⟩))

theorem Operation.mem_commandWords_iff {word : String} :
    word ∈ commandWords ↔ ∃ op : Operation, op.word = word := by
  have hwords : commandWords = Operation.table.map Operation.word := rfl
  rw [hwords, List.mem_map]
  exact ⟨fun ⟨op, _, h⟩ ↦ ⟨op, h⟩, fun ⟨op, h⟩ ↦ ⟨op, op.mem_table, h⟩⟩

/-- Every line has a verdict. -/
theorem exists_verdict (ws : List String) : ∃ verdict, Verdict ws verdict := by
  cases ws with
  | nil => exact ⟨_, .blank⟩
  | cons word tokens =>
    by_cases hword : word ∈ commandWords
    · obtain ⟨op, rfl⟩ := Operation.mem_commandWords_iff.mp hword
      rcases Nat.lt_trichotomy tokens.length op.arity with hfew | harity | hmany
      · exact ⟨_, .tooFew hfew⟩
      · rcases allMean_or_firstSpoilt harity with ⟨arguments, h⟩ | ⟨e, h⟩
        · exact ⟨_, .accepted h⟩
        · exact ⟨_, .spoilt harity h⟩
      · exact ⟨_, .tooMany hmany⟩
    · exact ⟨_, .unknown tokens hword⟩

namespace Invocation

theorem ofWords_word (op : Operation) (tokens : List String) :
    ofWords (op.word :: tokens) = (ofOperation op tokens).map some := by
  rw [ofWords, Operation.ofWord?_word]

theorem ofOperation_of_length {op : Operation} {tokens : List String}
    (h : tokens.length = op.arity) :
    ofOperation op tokens =
      (readArguments op.signature tokens).map fun arguments ↦ ⟨op.word, op, arguments⟩ := by
  rw [ofOperation, if_neg (Nat.not_lt.mpr h.ge), if_neg (Nat.not_lt.mpr h.le)]

/-- Reading carries out the verdict. -/
theorem ofWords_of_verdict {ws : List String} {verdict : Except ParseError (Option Invocation)}
    (h : Verdict ws verdict) : ofWords ws = verdict := by
  cases h with
  | blank => rfl
  | @unknown word tokens h =>
    have hnone : Operation.ofWord? word = none := by
      rw [Option.eq_none_iff_forall_ne_some]
      intro op hop
      exact h (Operation.mem_commandWords_iff.mpr ⟨op, Operation.word_of_ofWord? hop⟩)
    rw [ofWords, hnone]
  | tooFew h =>
    rw [ofWords_word, ofOperation, if_pos h]
    rfl
  | tooMany h =>
    rw [ofWords_word, ofOperation, if_neg (Nat.lt_asymm h), if_pos h]
    rfl
  | spoilt harity h =>
    rw [ofWords_word, ofOperation_of_length harity, h.read]
    rfl
  | accepted h =>
    rw [ofWords_word, ofOperation_of_length h.length_eq, h.read]
    rfl

theorem ofWords_eq_iff {ws : List String} {verdict : Except ParseError (Option Invocation)} :
    ofWords ws = verdict ↔ Verdict ws verdict := by
  refine ⟨?_, ofWords_of_verdict⟩
  rintro rfl
  obtain ⟨verdict, h⟩ := exists_verdict ws
  rwa [ofWords_of_verdict h]

end Invocation

/-! ## What can be read -/

/-- An argument that a word can mean. -/
def Argument.IsSound : Argument → Prop
  | .name n => n ≠ "" ∧ ∀ c ∈ n.toList, Text.isBlank c = false
  | .distance d => d ≠ .nan ∧ Binary64.zero.lt d = true
  | _ => True

/-- An invocation as the command table has it, with arguments that words can mean. -/
structure Invocation.WellFormed (i : Invocation) : Prop where
  /-- The command is called by its word. -/
  command : i.command = i.operation.word
  /-- The arguments are of the kinds that the operation takes. -/
  fits : i.Fits
  /-- Each of them can be meant. -/
  sound : ∀ a ∈ i.arguments, a.IsSound

theorem Means.isSound {k : ArgumentKind} {token : String} {a : Argument} (h : Means k token a)
    (hword : Text.IsWord token.toList) : a.IsSound := by
  cases h with
  | name =>
    refine ⟨?_, hword.2⟩
    rintro rfl
    exact hword.1 rfl
  | distance hd hpositive =>
    refine ⟨?_, hpositive⟩
    rintro rfl
    cases hpositive
  | _ => trivial

theorem AllMean.isSound {ks : List ArgumentKind} {tokens : List String}
    {arguments : List Argument} (h : AllMean ks tokens arguments)
    (hwords : ∀ token ∈ tokens, Text.IsWord token.toList) : ∀ a ∈ arguments, a.IsSound := by
  induction h with
  | nil => simp
  | cons ha _ ih =>
    intro b hb
    rcases List.mem_cons.mp hb with rfl | hb
    · exact ha.isSound (hwords _ List.mem_cons_self)
    · exact ih (fun token htoken ↦ hwords token (List.mem_cons_of_mem _ htoken)) b hb

namespace Invocation

/-- What is read from a line is well-formed. -/
theorem wellFormed_of_ofLine {line : String} {i : Invocation} (h : ofLine line = .ok (some i)) :
    i.WellFormed := by
  have hwords : ∀ w ∈ Text.words line, Text.IsWord w.toList := fun w ↦ Text.isWord_of_mem_words
  rw [ofLine, ofWords_eq_iff] at h
  generalize Text.words line = ws at h hwords
  cases h with
  | accepted h =>
    exact ⟨rfl, h.map_kind, h.isSound fun token htoken ↦
      hwords token (List.mem_cons_of_mem _ htoken)⟩

/-- **The command language.** A line is read as what becomes of its words by the first rule that
they violate, or as a well-formed invocation if they violate none. Nothing else of the line matters,
so it may as well be trimmed. -/
theorem first_violated_rule (line : String) :
    (∀ ws, Text.LaidOut ws line ↔ ws = Text.words line) ∧
      (∀ verdict, ofLine line = verdict ↔ Verdict (Text.words line) verdict) ∧
      (∀ other, Text.words other = Text.words line → ofLine other = ofLine line) ∧
      ofLine (Text.trim line) = ofLine line ∧
      ∀ i, ofLine line = .ok (some i) → i.WellFormed := by
  refine ⟨fun ws ↦ Text.laidOut_iff, fun verdict ↦ ofWords_eq_iff, fun other h ↦ ?_, ?_,
    fun i ↦ wellFormed_of_ofLine⟩
  · rw [ofLine, ofLine, h]
  · rw [ofLine, ofLine, Text.words_trim]

end Invocation

end TurtleScript
