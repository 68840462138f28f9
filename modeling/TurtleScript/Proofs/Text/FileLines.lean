import TurtleScript.Proofs.Text.Words
import TurtleScript.Text.Utf8

/-!
# The lines of a file

Cutting into lines goes through a concatenation if its first part ends with a newline
(`lines_append`). A newline put at the end of a part that has none goes to its last line only
(`lines_concat_newline`), and there it does not matter: it is decoded to a blank, and the blanks at
the end of a line are trimmed (`trim_lossy_concat_newline`).

No character reaches over a newline, so lines may be decoded on their own
(`decode_eq_flatMap_lines`).
-/

namespace TurtleScript

namespace Utf8

/-! ## Cutting -/

/-- Whether some bytes can be followed by others without changing their last line. -/
def Complete (bytes : Bytes) : Prop := bytes = [] ∨ bytes.getLast? = some newline

instance (bytes : Bytes) : Decidable (Complete bytes) := inferInstanceAs (Decidable (_ ∨ _))

/-- Some bytes with a newline at the end if that is missing. -/
def completed (bytes : Bytes) : Bytes := if Complete bytes then bytes else bytes ++ [newline]

theorem complete_completed (bytes : Bytes) : Complete (completed bytes) := by
  rw [completed]
  split
  next h => exact h
  next => exact Or.inr List.getLast?_concat

theorem lines_ne_nil {bytes : Bytes} (h : bytes ≠ []) : lines bytes ≠ [] := by
  intro hlines
  have hflatten := flatten_lines bytes
  rw [hlines, List.flatten_nil] at hflatten
  exact h hflatten.symm

theorem pushByte_newline (ls : List Bytes) : pushByte newline ls = [newline] :: ls := if_pos rfl

theorem pushByte_cons {b : UInt8} (hb : b ≠ newline) (line : Bytes) (ls : List Bytes) :
    pushByte b (line :: ls) = (b :: line) :: ls := if_neg hb

/-- A byte does not reach beyond the first line. -/
theorem pushByte_append (b : UInt8) {xs : List Bytes} (hxs : xs ≠ []) (ys : List Bytes) :
    pushByte b (xs ++ ys) = pushByte b xs ++ ys := by
  obtain ⟨x, xs, rfl⟩ := List.exists_cons_of_ne_nil hxs
  by_cases hb : b = newline
  · rw [hb, pushByte_newline, pushByte_newline]
    rfl
  · rw [List.cons_append, pushByte_cons hb, pushByte_cons hb, List.cons_append]

/-- **Cutting goes through a concatenation behind a newline.** -/
theorem lines_append {a : Bytes} (ha : Complete a) (b : Bytes) :
    lines (a ++ b) = lines a ++ lines b := by
  induction a with
  | nil => rfl
  | cons c a ih =>
    rw [List.cons_append, lines_cons, lines_cons]
    by_cases hnil : a = []
    · have hc : c = newline := by simpa [Complete, hnil] using ha
      rw [hnil, hc, List.nil_append, pushByte_newline, lines_nil, pushByte_newline,
        List.singleton_append]
    · have ha' : Complete a := by
        rcases ha with h | h
        · cases h
        · exact Or.inr (by rwa [List.getLast?_cons_of_ne_nil hnil] at h)
      rw [ih ha', pushByte_append c (lines_ne_nil hnil)]

/-- A newline at the end goes to the last line. -/
theorem lines_concat_newline {a : Bytes} (ha : ¬Complete a) :
    ∃ init last, lines a = init ++ [last] ∧
      lines (a ++ [newline]) = init ++ [last ++ [newline]] := by
  induction a with
  | nil => exact absurd (Or.inl rfl) ha
  | cons c a ih =>
    rw [List.cons_append, lines_cons, lines_cons]
    by_cases hnil : a = []
    · have hc : c ≠ newline := fun h ↦ ha (Or.inr (by rw [hnil, h]; rfl))
      refine ⟨[], [c], ?_, ?_⟩
      · rw [hnil, lines_nil, pushByte, if_neg hc, List.nil_append]
      · rw [hnil, List.nil_append, lines_cons, lines_nil, pushByte_newline, pushByte_cons hc]
        rfl
    · have ha' : ¬Complete a := by
        rintro (h | h)
        · exact hnil h
        · exact ha (Or.inr (by rwa [List.getLast?_cons_of_ne_nil hnil]))
      obtain ⟨init, last, hlines, hlines'⟩ := ih ha'
      rw [hlines, hlines']
      -- The byte goes to the first line, which is the last one as well if there is only one.
      by_cases hc : c = newline
      · refine ⟨[newline] :: init, last, ?_, ?_⟩ <;>
          rw [hc, pushByte_newline, List.cons_append]
      · cases init with
        | nil =>
          refine ⟨[], c :: last, ?_, ?_⟩ <;>
            rw [List.nil_append, pushByte_cons hc, List.nil_append]
          rfl
        | cons line init =>
          refine ⟨(c :: line) :: init, last, ?_, ?_⟩ <;>
            rw [List.cons_append, pushByte_cons hc, List.cons_append]

/-- **Cutting goes through to the front.** The lines in front of a line are the lines of what they
hold. -/
theorem lines_flatten_of_append {bytes line : Bytes} {before rest : List Bytes}
    (h : lines bytes = before ++ line :: rest) : lines before.flatten = before := by
  induction bytes generalizing before with
  | nil => simp at h
  | cons b bytes ih =>
    cases before with
    | nil => rfl
    | cons first before =>
      rw [lines_cons] at h
      by_cases hb : b = newline
      · rw [hb, pushByte_newline, List.cons_append, List.cons.injEq] at h
        obtain ⟨rfl, hlines⟩ := h
        rw [List.flatten_cons, List.singleton_append, lines_cons, ih hlines, pushByte_newline]
      · cases hlines : lines bytes with
        | nil => simp [hlines, pushByte, hb] at h
        | cons l ls =>
          rw [hlines, pushByte_cons hb, List.cons_append, List.cons.injEq] at h
          obtain ⟨rfl, hrest⟩ := h
          -- The byte goes to the first line, and the others are as they were.
          have hfront : lines (l :: before).flatten = l :: before := ih (by rw [hlines, hrest]; rfl)
          rw [List.flatten_cons, List.cons_append, lines_cons, ← List.flatten_cons, hfront,
            pushByte_cons hb]

/-! ## Decoding -/

/-- A state that takes no byte below 80 as a part of its sequence. -/
def State.Wide : State → Prop
  | .ready => True
  | .pending _ low _ _ => 0x80 ≤ low

theorem wide_start (b : UInt8) : (start b).1.Wide := by
  simp only [start]
  repeat' split
  all_goals simp [State.Wide]

theorem wide_next (state : State) (b : UInt8) : (next state b).1.Wide := by
  cases state with
  | ready => exact wide_start b
  | pending more low high bits =>
    rw [next]
    split
    · cases more with
      | zero => exact trivial
      | succ more => exact (by decide : (0x80 : UInt8) ≤ 0x80)
    · exact wide_start b

/-- A newline ends whatever is unfinished. -/
theorem next_newline {state : State} (h : state.Wide) :
    next state newline = (.ready, flush state ++ [some '\n']) := by
  cases state with
  | ready => decide
  | pending more low high bits =>
    have hlow : ¬(low ≤ newline ∧ newline ≤ high) := by
      rintro ⟨hle, -⟩
      exact absurd (UInt8.le_trans h hle) (by decide)
    rw [next, if_neg hlow]
    rfl

theorem decodeFrom_concat_newline {state : State} (h : state.Wide) (bytes : Bytes) :
    decodeFrom state (bytes ++ [newline]) = decodeFrom state bytes ++ [some '\n'] := by
  induction bytes generalizing state with
  | nil =>
    rw [List.nil_append, decodeFrom_cons, next_newline h, decodeFrom_nil, decodeFrom_nil]
    exact List.append_nil _
  | cons b bytes ih =>
    rw [List.cons_append, decodeFrom_cons, decodeFrom_cons, ih (wide_next state b),
      List.append_assoc]

/-- What a state adds to the first line is all that it adds. -/
theorem decodeFrom_eq_lines {state : State} (h : state.Wide) (bytes : Bytes) :
    decodeFrom state bytes =
      decodeFrom state ((lines bytes).headD []) ++ (lines bytes).tail.flatMap decode := by
  induction bytes generalizing state with
  | nil => exact (List.append_nil _).symm
  | cons b bytes ih =>
    rw [lines_cons]
    by_cases hb : b = newline
    · have hready : State.ready.Wide := trivial
      have hrest : decodeFrom .ready bytes = (lines bytes).flatMap decode := by
        rw [ih hready]
        cases lines bytes <;> rfl
      rw [hb, pushByte_newline, List.headD_cons, List.tail_cons, decodeFrom_cons, decodeFrom_cons,
        next_newline h, hrest, decodeFrom_nil, flush, List.append_nil]
    · rw [decodeFrom_cons, ih (wide_next state b)]
      cases lines bytes with
      | nil => simp [pushByte, hb]
      | cons line ls =>
        rw [pushByte_cons hb, List.headD_cons, List.headD_cons, List.tail_cons, List.tail_cons,
          decodeFrom_cons, List.append_assoc]

/-- **Lines may be decoded on their own.** -/
theorem decode_eq_flatMap_lines (bytes : Bytes) : decode bytes = (lines bytes).flatMap decode := by
  have hready : State.ready.Wide := trivial
  rw [decode, decodeFrom_eq_lines hready]
  cases lines bytes <;> rfl

/-- The lines of a text can be read strictly, and hold no other characters. -/
theorem strict?_of_mem_lines {bytes line : Bytes} {text : String} (h : strict? bytes = some text)
    (hline : line ∈ lines bytes) :
    strict? line = some (lossy line) ∧ ∀ c ∈ (lossy line).toList, c ∈ text.toList := by
  have hsub : ∀ item ∈ decode line, item ∈ decode bytes := fun item hitem ↦ by
    rw [decode_eq_flatMap_lines bytes]
    exact List.mem_flatMap.mpr ⟨line, hline, hitem⟩
  rw [strict?] at h ⊢
  split at h
  next hall =>
    cases h
    rw [List.all_eq_true] at hall
    refine ⟨if_pos (List.all_eq_true.mpr fun item hitem ↦ hall item (hsub item hitem)), ?_⟩
    intro c hc
    rw [lossy, String.toList_ofList, List.mem_map] at hc ⊢
    obtain ⟨item, hitem, rfl⟩ := hc
    exact ⟨item, hsub item hitem, rfl⟩
  next => cases h

/-- A newline at the end is read as such. -/
theorem toList_lossy_concat_newline (line : Bytes) :
    (lossy (line ++ [newline])).toList = (lossy line).toList ++ ['\n'] := by
  have hready : State.ready.Wide := trivial
  rw [lossy, lossy, decode, decode, decodeFrom_concat_newline hready, List.map_append,
    String.toList_ofList, String.toList_ofList]
  rfl

/-- **The newline of a line does not matter.** -/
theorem trim_lossy_concat_newline (line : Bytes) :
    Text.trim (lossy (line ++ [newline])) = Text.trim (lossy line) := by
  have hblank : Text.isBlank '\n' = true := by decide
  rw [Text.trim, Text.trim, toList_lossy_concat_newline, Text.trimmed_concat_of_isBlank hblank]

/-- Completing some bytes makes no difference to their trimmed lines. -/
theorem map_trim_lines_completed (bytes : Bytes) :
    (lines (completed bytes)).map (fun line ↦ Text.trim (lossy line)) =
      (lines bytes).map fun line ↦ Text.trim (lossy line) := by
  rw [completed]
  split
  next => rfl
  next h =>
    obtain ⟨init, last, hlines, hlines'⟩ := lines_concat_newline h
    rw [hlines, hlines', List.map_append, List.map_append, List.map_singleton,
      List.map_singleton, trim_lossy_concat_newline]

end Utf8

end TurtleScript
