import TurtleScript.Proofs.Text.Layout

/-!
# Replacing a word

A word of a text is replaced where it stands: all blanks and all other words stay as they are, and a
text with fewer words stays as it is altogether (`replaceWord`). As long as a word takes the place
of a word, the words of the text change in that one place too (`words_replaceWord`).
-/

namespace TurtleScript

namespace Text

/-! ## The front of a text -/

/-- The blanks in front of the first word. -/
def gapOf (cs : List Char) : List Char := cs.takeWhile isBlank

/-- The first word, or nothing. -/
def firstOf (cs : List Char) : List Char := (cs.dropWhile isBlank).takeWhile fun c ↦ !isBlank c

/-- What stands behind the first word. -/
def restOf (cs : List Char) : List Char := (cs.dropWhile isBlank).dropWhile fun c ↦ !isBlank c

/-- Nothing, or something that begins with a blank. -/
def StartsBlank (cs : List Char) : Prop := ∀ c, cs.head? = some c → isBlank c = true

variable {cs w rest : List Char}

theorem gapOf_append_firstOf_append_restOf (cs : List Char) :
    gapOf cs ++ firstOf cs ++ restOf cs = cs := by
  rw [gapOf, firstOf, restOf, List.append_assoc, List.takeWhile_append_dropWhile,
    List.takeWhile_append_dropWhile]

theorem isGap_gapOf (cs : List Char) : IsGap (gapOf cs) := fun _ hc ↦ List.mem_takeWhile_imp hc

theorem startsBlank_restOf (cs : List Char) : StartsBlank (restOf cs) := by
  intro c hc
  have hhead := List.head?_dropWhile_not (fun c ↦ !isBlank c) (cs.dropWhile isBlank)
  rw [← restOf, hc] at hhead
  simpa using hhead

theorem isWord_firstOf (h : firstOf cs ≠ []) : IsWord (firstOf cs) := by
  refine ⟨h, ?_⟩
  intro c hc
  simpa using List.mem_takeWhile_imp hc

/-- A text without a first word has nothing behind it. -/
theorem restOf_eq_nil (h : firstOf cs = []) : restOf cs = [] := by
  rw [restOf]
  cases hdrop : cs.dropWhile isBlank with
  | nil => rfl
  | cons c ds =>
    have hhead := List.head?_dropWhile_not isBlank cs
    rw [hdrop] at hhead
    have hc : isBlank c = false := hhead
    simp [firstOf, hdrop, hc] at h

/-! ## The words of a text -/

theorem wordsOf_word_append (hw : IsWord w) (hrest : StartsBlank rest) :
    wordsOf (w ++ rest) = w :: wordsOf rest := by
  cases rest with
  | nil => rw [List.append_nil, wordsOf_of_isWord hw, wordsOf_nil]
  | cons c rest =>
    have hc : isBlank c = true := hrest c rfl
    rw [wordsOf_append_blank hc, wordsOf_of_isWord hw, wordsOf_cons_of_isBlank hc,
      List.singleton_append]

theorem wordsOf_front (cs : List Char) (hw : IsWord w) (hrest : StartsBlank rest) :
    wordsOf (gapOf cs ++ w ++ rest) = w :: wordsOf rest := by
  rw [List.append_assoc, wordsOf_gap_append (isGap_gapOf cs), wordsOf_word_append hw hrest]

theorem wordsOf_of_firstOf_ne_nil (h : firstOf cs ≠ []) :
    wordsOf cs = firstOf cs :: wordsOf (restOf cs) := by
  have hfront := wordsOf_front cs (isWord_firstOf h) (startsBlank_restOf cs)
  rwa [gapOf_append_firstOf_append_restOf] at hfront

theorem wordsOf_of_firstOf_eq_nil (h : firstOf cs = []) : wordsOf cs = [] := by
  have hgap := gapOf_append_firstOf_append_restOf cs
  rw [h, restOf_eq_nil h, List.append_nil, List.append_nil] at hgap
  rw [← hgap, wordsOf_eq_nil_iff]
  exact isGap_gapOf cs

/-! ## Replacing -/

/-- Replace a word where it stands, the first one having the number 0. -/
def replaceIn (f : List Char → List Char) : Nat → List Char → List Char
  | 0, cs => if firstOf cs = [] then cs else gapOf cs ++ f (firstOf cs) ++ restOf cs
  | k + 1, cs =>
    if firstOf cs = [] then cs else gapOf cs ++ firstOf cs ++ replaceIn f k (restOf cs)

/-- Replace a word of a text. -/
def replaceWord (r : String → String) (k : Nat) (s : String) : String :=
  String.ofList (replaceIn (fun w ↦ (r (String.ofList w)).toList) k s.toList)

/-- Blanks in front stay there. -/
theorem StartsBlank.replaceIn (h : StartsBlank cs) (f : List Char → List Char) (k : Nat) :
    StartsBlank (replaceIn f k cs) := by
  cases cs with
  | nil => cases k <;> exact h
  | cons c cs =>
    have hgap : gapOf (c :: cs) = c :: cs.takeWhile isBlank :=
      List.takeWhile_cons_of_pos (h c rfl)
    cases k with
    | zero =>
      rw [Text.replaceIn]
      split
      · exact h
      · rw [hgap]
        exact h
    | succ k =>
      rw [Text.replaceIn]
      split
      · exact h
      · rw [hgap]
        exact h

/-- The induction is on the words in front of the one that is replaced. -/
theorem wordsOf_replaceIn {f : List Char → List Char} (hf : ∀ w, IsWord w → IsWord (f w)) (k : Nat)
    (cs : List Char) : wordsOf (replaceIn f k cs) = (wordsOf cs).modify k f := by
  induction k generalizing cs with
  | zero =>
    rw [replaceIn]
    split
    next h => rw [wordsOf_of_firstOf_eq_nil h, List.modify_nil]
    next h =>
      rw [wordsOf_front cs (hf _ (isWord_firstOf h)) (startsBlank_restOf cs),
        wordsOf_of_firstOf_ne_nil h, List.modify_zero_cons]
  | succ k ih =>
    rw [replaceIn]
    split
    next h => rw [wordsOf_of_firstOf_eq_nil h, List.modify_nil]
    next h =>
      rw [wordsOf_front cs (isWord_firstOf h) ((startsBlank_restOf cs).replaceIn f k), ih,
        wordsOf_of_firstOf_ne_nil h, List.modify_succ_cons]

/-- **One word is replaced, and no other.** -/
theorem words_replaceWord {r : String → String} (hr : ∀ w, IsWord w.toList → IsWord (r w).toList)
    (k : Nat) (s : String) : words (replaceWord r k s) = (words s).modify k r := by
  have hf : ∀ w, IsWord w → IsWord (r (String.ofList w)).toList := by
    intro w hw
    apply hr
    rwa [String.toList_ofList]
  rw [words, replaceWord, String.toList_ofList, wordsOf_replaceIn hf, words]
  apply List.ext_getElem?
  intro i
  rw [List.getElem?_map, List.getElem?_modify, List.getElem?_modify, List.getElem?_map]
  cases (wordsOf s.toList)[i]? with
  | none => rfl
  | some w => by_cases h : k = i <;> simp [h]

end Text

end TurtleScript
