import Mathlib.Data.List.Basic
import TurtleScript.Command.Parser

/-!
# The grammar of the command language

What the words of a line ask for, as a grammar: one rule for each command (`Asks`). Reading is sound
and complete for it. An invocation that has been read asks for what the words of its line ask for
(`asks_of_ofWords`), and words that ask for something are read as such an invocation
(`ofWords_of_asks`). In particular an invocation that has been read never asks for nothing, so its
arguments always match its operation.

Everything a line can do is decided by its request. The rules are therefore what later arguments
split into cases, instead of the operations and the shapes of their arguments.
-/

namespace TurtleScript

/-- The words of a line ask for something. -/
inductive Asks : List String → Request → Prop where
  | create (n : String) : Asks ["turtle", n] (.act (.create n))
  | move (n : String) {token : String} {d : Binary64} (hd : readDistance token = .ok d) :
    Asks ["move", n, token] (.act (.order n (.move d)))
  | left (n : String) {token : String} {a : Binary64} (ha : readDegrees token = .ok a) :
    Asks ["left", n, token] (.act (.order n (.turnLeft a)))
  | right (n : String) {token : String} {a : Binary64} (ha : readDegrees token = .ok a) :
    Asks ["right", n, token] (.act (.order n (.turnRight a)))
  | pen (n : String) (down : Bool) : Asks ["pen", n, penWord down] (.act (.order n (.setPen down)))
  | colour (n : String) (c : Colour) : Asks ["colour", n, c.name] (.act (.order n (.setColour c)))
  | quit : Asks ["quit"] .quit

/-- The second word of a command that asks for an action is the name it is about. -/
theorem Asks.getElem?_one {ws : List String} {a : Action} (h : Asks ws (.act a)) :
    ws[1]? = some a.name := by
  cases h <;> rfl

/-! ## Reading single arguments -/

theorem map_eq_ok_iff {ε α β : Type} {f : α → β} {x : Except ε α} {b : β} :
    x.map f = .ok b ↔ ∃ a, x = .ok a ∧ f a = b := by
  cases x with
  | error e => simp [Except.map]
  | ok a => simp [Except.map]

theorem readPenState_eq_ok_iff {token : String} {down : Bool} :
    readPenState token = .ok down ↔ token = penWord down := by
  rw [readPenState]
  by_cases hup : token = "up"
  · cases down <;> simp [hup, penWord]
  · by_cases hdown : token = "down"
    · cases down <;> simp [hdown, penWord]
    · cases down <;> simp [hup, hdown, penWord]

theorem readColour_eq_ok_iff {token : String} {c : Colour} :
    readColour token = .ok c ↔ token = c.name := by
  rw [readColour]
  constructor
  · intro h
    split at h
    next => cases h
    next hc =>
      cases h
      exact (Colour.name_of_ofName? hc).symm
  · rintro rfl
    rw [Colour.ofName?_name]

/-! ## Reading invocations -/

namespace Invocation

theorem ofOperation_eq_ok_iff {op : Operation} {tokens : List String} {i : Invocation} :
    ofOperation op tokens = .ok i ↔ tokens.length = op.arity ∧
      ∃ arguments, readArguments op.signature tokens = .ok arguments ∧
        ⟨op.word, op, arguments⟩ = i := by
  rw [ofOperation]
  split
  · simp; omega
  · split
    · simp; omega
    · rw [map_eq_ok_iff]
      exact ⟨fun h ↦ ⟨by omega, h⟩, And.right⟩

/-- The first word of a command line is the word of its operation. -/
theorem ofWords_eq_ok_iff {ws : List String} {i : Invocation} :
    ofWords ws = .ok (some i) ↔
      ∃ op tokens, ws = op.word :: tokens ∧ ofOperation op tokens = .ok i := by
  cases ws with
  | nil => simp [ofWords]
  | cons word tokens =>
    rw [ofWords]
    constructor
    · intro h
      split at h
      next => cases h
      next op hop =>
        obtain ⟨j, hj, hji⟩ := map_eq_ok_iff.mp h
        cases hji
        exact ⟨op, tokens, by rw [Operation.word_of_ofWord? hop], hj⟩
    · rintro ⟨op, tokens', hws, h⟩
      rw [List.cons.injEq] at hws
      rw [hws.1, hws.2, Operation.ofWord?_word]
      exact map_eq_ok_iff.mpr ⟨i, h, rfl⟩

theorem eq_nil_of_ofWords {ws : List String} (h : ofWords ws = .ok none) : ws = [] := by
  cases ws with
  | nil => rfl
  | cons word tokens =>
    rw [ofWords] at h
    split at h
    · cases h
    · obtain ⟨i, -, hi⟩ := map_eq_ok_iff.mp h
      cases hi

/-- The commands that take a name and one argument more are all read alike. -/
theorem ofOperation_pair_eq_ok_iff {op : Operation} {kind : ArgumentKind} {tokens : List String}
    {i : Invocation} (hop : op.signature = [.name, kind]) :
    ofOperation op tokens = .ok i ↔ ∃ n token a, tokens = [n, token] ∧ kind.read token = .ok a ∧
      ⟨op.word, op, [.name n, a]⟩ = i := by
  rw [ofOperation_eq_ok_iff, Operation.arity, hop]
  constructor
  · rintro ⟨hlength, arguments, hread, rfl⟩
    obtain ⟨n, token, rfl⟩ := List.length_eq_two.mp hlength
    obtain ⟨rest, hrest, rfl⟩ := map_eq_ok_iff.mp hread
    rw [readArguments] at hrest
    split at hrest
    next => cases hrest
    next a ha =>
      cases hrest
      exact ⟨n, token, a, rfl, ha, rfl⟩
  · rintro ⟨n, token, a, rfl, ha, rfl⟩
    have hrest : readArguments [kind] [token] = .ok [a] := by
      rw [readArguments, ha]
      rfl
    exact ⟨rfl, [.name n, a], map_eq_ok_iff.mpr ⟨[a], hrest, rfl⟩, rfl⟩

/-- **Soundness.** What has been read asks for something, and the words ask for just that. -/
theorem asks_of_ofWords {ws : List String} {i : Invocation} (h : ofWords ws = .ok (some i)) :
    ∃ q, i.request? = some q ∧ Asks ws q := by
  obtain ⟨op, tokens, rfl, hop⟩ := ofWords_eq_ok_iff.mp h
  cases op with
  | turtle =>
    obtain ⟨hlength, arguments, hread, rfl⟩ := ofOperation_eq_ok_iff.mp hop
    obtain ⟨n, rfl⟩ := List.length_eq_one_iff.mp hlength
    cases hread
    exact ⟨_, rfl, .create n⟩
  | move =>
    obtain ⟨n, token, a, rfl, ha, rfl⟩ := (ofOperation_pair_eq_ok_iff rfl).mp hop
    obtain ⟨d, hd, rfl⟩ := map_eq_ok_iff.mp ha
    exact ⟨_, rfl, .move n hd⟩
  | left =>
    obtain ⟨n, token, a, rfl, ha, rfl⟩ := (ofOperation_pair_eq_ok_iff rfl).mp hop
    obtain ⟨d, hd, rfl⟩ := map_eq_ok_iff.mp ha
    exact ⟨_, rfl, .left n hd⟩
  | right =>
    obtain ⟨n, token, a, rfl, ha, rfl⟩ := (ofOperation_pair_eq_ok_iff rfl).mp hop
    obtain ⟨d, hd, rfl⟩ := map_eq_ok_iff.mp ha
    exact ⟨_, rfl, .right n hd⟩
  | pen =>
    obtain ⟨n, token, a, rfl, ha, rfl⟩ := (ofOperation_pair_eq_ok_iff rfl).mp hop
    obtain ⟨down, hdown, rfl⟩ := map_eq_ok_iff.mp ha
    rw [readPenState_eq_ok_iff] at hdown
    exact ⟨_, rfl, hdown ▸ .pen n down⟩
  | colour =>
    obtain ⟨n, token, a, rfl, ha, rfl⟩ := (ofOperation_pair_eq_ok_iff rfl).mp hop
    obtain ⟨c, hc, rfl⟩ := map_eq_ok_iff.mp ha
    rw [readColour_eq_ok_iff] at hc
    exact ⟨_, rfl, hc ▸ .colour n c⟩
  | quit =>
    obtain ⟨hlength, arguments, hread, rfl⟩ := ofOperation_eq_ok_iff.mp hop
    obtain rfl := List.length_eq_zero_iff.mp hlength
    cases hread
    exact ⟨_, rfl, .quit⟩

private theorem ofWords_pair (op : Operation) {kind : ArgumentKind} {n token : String}
    {a : Argument} (hop : op.signature = [.name, kind]) (ha : kind.read token = .ok a) :
    ofWords [op.word, n, token] = .ok (some ⟨op.word, op, [.name n, a]⟩) :=
  ofWords_eq_ok_iff.mpr
    ⟨op, [n, token], rfl, (ofOperation_pair_eq_ok_iff hop).mpr ⟨n, token, a, rfl, ha, rfl⟩⟩

/-- **Completeness.** Words that ask for something are read as an invocation that asks for it. -/
theorem ofWords_of_asks {ws : List String} {q : Request} (h : Asks ws q) :
    ∃ i, ofWords ws = .ok (some i) ∧ i.request? = some q := by
  cases h with
  | create n =>
    exact ⟨_, ofWords_eq_ok_iff.mpr ⟨.turtle, [n], rfl, rfl⟩, rfl⟩
  | move n hd =>
    exact ⟨_, ofWords_pair .move rfl (map_eq_ok_iff.mpr ⟨_, hd, rfl⟩), rfl⟩
  | left n ha =>
    exact ⟨_, ofWords_pair .left rfl (map_eq_ok_iff.mpr ⟨_, ha, rfl⟩), rfl⟩
  | right n ha =>
    exact ⟨_, ofWords_pair .right rfl (map_eq_ok_iff.mpr ⟨_, ha, rfl⟩), rfl⟩
  | pen n down =>
    have hdown : readPenState (penWord down) = .ok down := readPenState_eq_ok_iff.mpr rfl
    exact ⟨_, ofWords_pair .pen rfl (map_eq_ok_iff.mpr ⟨_, hdown, rfl⟩), rfl⟩
  | colour n c =>
    have hc : readColour c.name = .ok c := readColour_eq_ok_iff.mpr rfl
    exact ⟨_, ofWords_pair .colour rfl (map_eq_ok_iff.mpr ⟨_, hc, rfl⟩), rfl⟩
  | quit => exact ⟨_, ofWords_eq_ok_iff.mpr ⟨.quit, [], rfl, rfl⟩, rfl⟩

/-- Words ask for one thing at most. -/
theorem asks_unique {ws : List String} {q q' : Request} (h : Asks ws q) (h' : Asks ws q') :
    q = q' := by
  obtain ⟨i, hi, hq⟩ := ofWords_of_asks h
  obtain ⟨i', hi', hq'⟩ := ofWords_of_asks h'
  rw [hi] at hi'
  cases hi'
  rw [hq] at hq'
  exact Option.some.inj hq'

end Invocation

end TurtleScript
