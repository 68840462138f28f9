import Mathlib.Data.List.DropRight
import TurtleScript.Text.Words

/-!
# Words and trimming

A blank keeps what stands before it apart from what stands after it, and adds no word itself. So
blanks at the ends of a text make no difference to its words: trimming keeps them
(`words_trim`), and a text has no words exactly when it consists of blanks (`words_eq_nil_iff`).

## The first character

A trimmed text that is not empty starts with its first word, so the first character of that word is
that of the text (`head?_trim`). This is what tells the echo of a command from any other echo.
-/

namespace TurtleScript

namespace Text

/-! ## Cutting at a blank -/

theorem cutAtBlanks_ne_nil (cs : List Char) : cutAtBlanks cs ≠ [] := by
  cases cs with
  | nil => simp [cutAtBlanks]
  | cons c cs =>
    rw [cutAtBlanks]
    split
    · simp
    · split <;> simp

theorem cutAtBlanks_cons_of_isBlank {c : Char} (hc : isBlank c = true) (cs : List Char) :
    cutAtBlanks (c :: cs) = [] :: cutAtBlanks cs := if_pos hc

/-- **Blanks separate.** Nothing reaches across a blank. -/
theorem cutAtBlanks_append_blank {c : Char} (hc : isBlank c = true) (cs ds : List Char) :
    cutAtBlanks (cs ++ c :: ds) = cutAtBlanks cs ++ cutAtBlanks ds := by
  induction cs with
  | nil => exact cutAtBlanks_cons_of_isBlank hc ds
  | cons a cs ih =>
    by_cases ha : isBlank a = true
    · rw [List.cons_append, cutAtBlanks_cons_of_isBlank ha, ih, cutAtBlanks_cons_of_isBlank ha,
        List.cons_append]
    · rw [List.cons_append, cutAtBlanks, ih, if_neg ha, cutAtBlanks, if_neg ha]
      cases hcut : cutAtBlanks cs with
      | nil => exact absurd hcut (cutAtBlanks_ne_nil cs)
      | cons piece pieces => rfl

theorem wordsOf_append_blank {c : Char} (hc : isBlank c = true) (cs ds : List Char) :
    wordsOf (cs ++ c :: ds) = wordsOf cs ++ wordsOf ds := by
  rw [wordsOf, cutAtBlanks_append_blank hc, List.filter_append, wordsOf, wordsOf]

@[simp] theorem wordsOf_nil : wordsOf [] = [] := rfl

theorem wordsOf_cons_of_isBlank {c : Char} (hc : isBlank c = true) (cs : List Char) :
    wordsOf (c :: cs) = wordsOf cs := wordsOf_append_blank hc [] cs

theorem wordsOf_concat_of_isBlank {c : Char} (hc : isBlank c = true) (cs : List Char) :
    wordsOf (cs ++ [c]) = wordsOf cs := by
  rw [wordsOf_append_blank hc, wordsOf_nil, List.append_nil]

/-- A character that is not blank starts a word. -/
theorem wordsOf_cons_of_not_isBlank {c : Char} (hc : isBlank c = false) (cs : List Char) :
    ∃ w ws, wordsOf (c :: cs) = (c :: w) :: ws := by
  have hc : ¬isBlank c = true := by simp [hc]
  cases hcut : cutAtBlanks cs with
  | nil => exact absurd hcut (cutAtBlanks_ne_nil cs)
  | cons piece pieces =>
    refine ⟨piece, pieces.filter (!·.isEmpty), ?_⟩
    rw [wordsOf, cutAtBlanks, if_neg hc, hcut]
    exact List.filter_cons_of_pos rfl

theorem wordsOf_eq_nil_iff {cs : List Char} :
    wordsOf cs = [] ↔ ∀ c ∈ cs, isBlank c = true := by
  induction cs with
  | nil => simp
  | cons c cs ih =>
    cases hc : isBlank c with
    | true => rw [wordsOf_cons_of_isBlank hc, ih]; simp [hc]
    | false =>
      obtain ⟨w, ws, hw⟩ := wordsOf_cons_of_not_isBlank hc cs
      simp [hw, hc]

/-! ## Trimming -/

theorem wordsOf_dropWhile (cs : List Char) : wordsOf (cs.dropWhile isBlank) = wordsOf cs := by
  induction cs with
  | nil => rfl
  | cons c cs ih =>
    by_cases hc : isBlank c = true
    · rw [List.dropWhile_cons_of_pos hc, ih, wordsOf_cons_of_isBlank hc]
    · rw [List.dropWhile_cons_of_neg hc]

-- Stated on the reversed row, where the blanks to be dropped are in front.
private theorem wordsOf_reverse_dropWhile (cs : List Char) :
    wordsOf (cs.dropWhile isBlank).reverse = wordsOf cs.reverse := by
  induction cs with
  | nil => rfl
  | cons c cs ih =>
    by_cases hc : isBlank c = true
    · rw [List.dropWhile_cons_of_pos hc, ih, List.reverse_cons, wordsOf_concat_of_isBlank hc]
    · rw [List.dropWhile_cons_of_neg hc]

theorem wordsOf_trimmed (cs : List Char) : wordsOf (trimmed cs) = wordsOf cs := by
  rw [trimmed, wordsOf_reverse_dropWhile, List.reverse_reverse, wordsOf_dropWhile]

theorem trimmed_concat_of_isBlank {c : Char} (hc : isBlank c = true) (cs : List Char) :
    trimmed (cs ++ [c]) = trimmed cs := by
  rw [trimmed, trimmed, List.dropWhile_append]
  by_cases h : (cs.dropWhile isBlank).isEmpty = true
  · rw [if_pos h, List.isEmpty_iff.mp h, List.dropWhile_cons_of_pos hc]
    rfl
  · rw [if_neg h, List.reverse_append, List.reverse_singleton, List.singleton_append,
      List.dropWhile_cons_of_pos hc]

theorem isBlank_of_trimmed_eq_cons {cs ds : List Char} {c : Char} (h : trimmed cs = c :: ds) :
    isBlank c = false := by
  have hstarts : trimmed cs <+: cs.dropWhile isBlank := by
    rw [trimmed, ← List.reverse_suffix, List.reverse_reverse]
    exact List.dropWhile_suffix _
  obtain ⟨rest, hrest⟩ := hstarts
  rw [h, List.cons_append] at hrest
  have hhead := List.head?_dropWhile_not isBlank cs
  rw [← hrest] at hhead
  simpa using hhead

/-- Nothing is left to trim. -/
theorem trimmed_trimmed (cs : List Char) : trimmed (trimmed cs) = trimmed cs := by
  have hfront : (trimmed cs).dropWhile isBlank = trimmed cs := by
    cases htrimmed : trimmed cs with
    | nil => rfl
    | cons c ds =>
      have hc : isBlank c = false := isBlank_of_trimmed_eq_cons htrimmed
      rw [List.dropWhile_cons_of_neg (by simp [hc])]
  rw [trimmed, hfront, trimmed, List.reverse_reverse, List.dropWhile_idempotent]

/-! ## Texts -/

theorem mem_of_mem_trim {c : Char} {s : String} (h : c ∈ (trim s).toList) : c ∈ s.toList := by
  rw [trim, String.toList_ofList, trimmed, List.mem_reverse] at h
  exact (List.dropWhile_sublist _).mem (List.mem_reverse.mp ((List.dropWhile_sublist _).mem h))

@[simp] theorem words_trim (s : String) : words (trim s) = words s := by
  rw [words, trim, String.toList_ofList, wordsOf_trimmed, words]

@[simp] theorem trim_trim (s : String) : trim (trim s) = trim s := by
  rw [trim, trim, String.toList_ofList, trimmed_trimmed]

/-- **A text without words is blank.** -/
theorem words_eq_nil_iff {s : String} : words s = [] ↔ ∀ c ∈ s.toList, isBlank c = true := by
  rw [words, List.map_eq_nil_iff, wordsOf_eq_nil_iff]

/-- A trimmed text starts as its first word does. -/
theorem head?_trim {s w : String} {ws : List String} (h : words s = w :: ws) :
    (trim s).toList.head? = w.toList.head? := by
  rw [← words_trim, words] at h
  cases hs : (trim s).toList with
  | nil => rw [hs, wordsOf_nil, List.map_nil] at h; exact absurd h (by simp)
  | cons c cs =>
    have hc : isBlank c = false := by
      rw [trim, String.toList_ofList] at hs
      exact isBlank_of_trimmed_eq_cons hs
    obtain ⟨v, vs, hv⟩ := wordsOf_cons_of_not_isBlank hc cs
    rw [hs, hv, List.map_cons, List.cons.injEq] at h
    rw [← h.1, String.toList_ofList]
    rfl

end Text

end TurtleScript
