import TurtleScript.Proofs.Text.Words

/-!
# Laying out words

The words of a text are its longest stretches without a blank. Said the other way round: they are
the words that the text lays out, with blanks in front and behind as wanted and with at least one
between any two (`LaidOut`). Every text lays out just one list of words, and `Text.words` finds it
(`laidOut_iff`). So whoever writes words with whatever blanks between them knows how the text will
be read, and a single space is as good as any other gap.
-/

namespace TurtleScript

namespace Text

/-- There is nothing but blanks. -/
def IsGap (cs : List Char) : Prop := ∀ c ∈ cs, isBlank c = true

/-- Some characters with gaps in front of, between and behind them. What follows a word is at its
end or goes on with a blank, so the gaps between two words are not empty. -/
inductive Spread : List (List Char) → List Char → Prop where
  | nil {gap : List Char} (hgap : IsGap gap) : Spread [] gap
  | cons {gap rest : List Char} (w : List Char) {ws : List (List Char)} (hgap : IsGap gap)
    (hend : ∀ c, rest.head? = some c → isBlank c = true) (hrest : Spread ws rest) :
    Spread (w :: ws) (gap ++ w ++ rest)

/-- A text consists of some words and the gaps around them. -/
def LaidOut (ws : List String) (s : String) : Prop :=
  Spread (ws.map String.toList) s.toList ∧ ∀ w ∈ ws, IsWord w.toList

/-! ## The words that are found -/

theorem isGap_nil : IsGap [] := by
  intro c hc
  cases hc

theorem wordsOf_gap_append {gap : List Char} (hgap : IsGap gap) (cs : List Char) :
    wordsOf (gap ++ cs) = wordsOf cs := by
  induction gap with
  | nil => rfl
  | cons c gap ih =>
    have hc : isBlank c = true := hgap c List.mem_cons_self
    have hrest : IsGap gap := fun d hd ↦ hgap d (List.mem_cons_of_mem _ hd)
    rw [List.cons_append, wordsOf_cons_of_isBlank hc, ih hrest]

theorem cutAtBlanks_of_not_isBlank {w : List Char} (hw : ∀ c ∈ w, isBlank c = false) :
    cutAtBlanks w = [w] := by
  induction w with
  | nil => rfl
  | cons c w ih =>
    have hc : ¬isBlank c = true := by simp [hw c List.mem_cons_self]
    rw [cutAtBlanks, if_neg hc, ih fun d hd ↦ hw d (List.mem_cons_of_mem _ hd)]

theorem wordsOf_of_isWord {w : List Char} (hw : IsWord w) : wordsOf w = [w] := by
  rw [wordsOf, cutAtBlanks_of_not_isBlank hw.2]
  exact List.filter_cons_of_pos (by simpa using hw.1)

/-- One more blank in the first gap. -/
theorem Spread.cons_blank {c : Char} (hc : isBlank c = true) {ws : List (List Char)}
    {cs : List Char} (h : Spread ws cs) : Spread ws (c :: cs) := by
  have hwider : ∀ {gap}, IsGap gap → IsGap (c :: gap) := by
    intro gap hgap d hd
    rcases List.mem_cons.mp hd with rfl | hd
    · exact hc
    · exact hgap d hd
  cases h with
  | nil hgap => exact .nil (hwider hgap)
  | cons w hgap hend hrest => exact .cons w (hwider hgap) hend hrest

/-- What is laid out is found again. -/
theorem wordsOf_of_spread {ws : List (List Char)} {cs : List Char} (h : Spread ws cs)
    (hws : ∀ w ∈ ws, IsWord w) : wordsOf cs = ws := by
  induction h with
  | nil hgap => exact wordsOf_eq_nil_iff.mpr hgap
  | @cons gap rest w ws hgap hend hrest ih =>
    have hw : wordsOf w = [w] := wordsOf_of_isWord (hws w List.mem_cons_self)
    have hrest := ih fun v hv ↦ hws v (List.mem_cons_of_mem _ hv)
    rw [List.append_assoc, wordsOf_gap_append hgap]
    cases rest with
    | nil => rw [List.append_nil, hw, ← hrest, wordsOf_nil]
    | cons c rest =>
      have hc : isBlank c = true := hend c rfl
      rw [wordsOf_append_blank hc, hw, ← wordsOf_cons_of_isBlank hc, hrest]
      rfl

/-- One more character in front, which is not blank: it goes to the first word if nothing stands
between them, and is a word by itself otherwise. -/
theorem Spread.exists_cons_of_not_isBlank {c : Char} (hc : isBlank c = false)
    {ws : List (List Char)} {cs : List Char} (h : Spread ws cs) (hws : ∀ w ∈ ws, IsWord w) :
    ∃ ws', Spread ws' (c :: cs) ∧ ∀ w ∈ ws', IsWord w := by
  have hsingle : IsWord [c] := ⟨by simp, by simpa using hc⟩
  cases h with
  | nil hgap =>
    refine ⟨[[c]], .cons [c] isGap_nil (fun d hd ↦ ?_) (.nil hgap), by simpa using hsingle⟩
    exact hgap d (List.mem_of_mem_head? hd)
  | @cons gap rest w ws hgap hend hrest =>
    rw [List.forall_mem_cons] at hws
    cases gap with
    | nil =>
      have hlonger : IsWord (c :: w) := by
        refine ⟨by simp, ?_⟩
        rw [List.forall_mem_cons]
        exact ⟨hc, hws.1.2⟩
      refine ⟨(c :: w) :: ws, .cons (c :: w) isGap_nil hend hrest, ?_⟩
      rw [List.forall_mem_cons]
      exact ⟨hlonger, hws.2⟩
    | cons g gap =>
      have hg : ∀ d, (g :: gap ++ w ++ rest).head? = some d → isBlank d = true := by
        rintro d ⟨⟩
        exact hgap g List.mem_cons_self
      refine ⟨[c] :: w :: ws, .cons [c] isGap_nil hg (.cons w hgap hend hrest), ?_⟩
      rw [List.forall_mem_cons, List.forall_mem_cons]
      exact ⟨hsingle, hws⟩

/-- Every row of characters lays out some words. -/
theorem exists_spread (cs : List Char) : ∃ ws, Spread ws cs ∧ ∀ w ∈ ws, IsWord w := by
  induction cs with
  | nil => exact ⟨[], .nil isGap_nil, by simp⟩
  | cons c cs ih =>
    obtain ⟨ws, hspread, hws⟩ := ih
    by_cases hc : isBlank c = true
    · exact ⟨ws, hspread.cons_blank hc, hws⟩
    · exact hspread.exists_cons_of_not_isBlank (by simpa using hc) hws

/-- **The words of a text.** A text lays out its words and no others. -/
theorem laidOut_iff {ws : List String} {s : String} : LaidOut ws s ↔ ws = words s := by
  have hround : ∀ vs : List String, (vs.map String.toList).map String.ofList = vs := by
    intro vs
    simp [Function.comp_def]
  constructor
  · rintro ⟨hspread, hws⟩
    have hchars := wordsOf_of_spread hspread (by simpa using hws)
    rw [words, hchars, hround]
  · rintro rfl
    obtain ⟨ws, hspread, hws⟩ := exists_spread s.toList
    have hchars : (words s).map String.toList = ws := by
      rw [words, wordsOf_of_spread hspread hws]
      simp [Function.comp_def]
    refine ⟨hchars ▸ hspread, fun w hw ↦ hws _ ?_⟩
    rw [← hchars]
    exact List.mem_map_of_mem hw

theorem isWord_of_mem_words {s w : String} (h : w ∈ words s) : IsWord w.toList :=
  (laidOut_iff.mpr rfl).2 w h

/-- A word that is written out is checked character by character. -/
theorem isWord_of_all {w : List Char} (hw : w ≠ []) (h : (w.all fun c ↦ !isBlank c) = true) :
    IsWord w := by
  refine ⟨hw, fun c hc ↦ ?_⟩
  have hblank := List.all_eq_true.mp h c hc
  simpa using hblank

/-! ## Single spaces -/

/-- Words with single spaces between them. -/
theorem spread_intercalate (ws : List String) :
    Spread (ws.map String.toList) (" ".intercalate ws).toList := by
  have hspace : isBlank ' ' = true := by decide
  induction ws with
  | nil => exact .nil isGap_nil
  | cons w ws ih =>
    cases ws with
    | nil =>
      have h : Spread [w.toList] ([] ++ w.toList ++ []) :=
        .cons w.toList isGap_nil (by simp) (.nil isGap_nil)
      simpa using h
    | cons v ws =>
      have hrest := ih.cons_blank hspace
      have hend : ∀ c, (' ' :: (" ".intercalate (v :: ws)).toList).head? = some c →
          isBlank c = true := by
        intro c hc
        cases hc
        exact hspace
      have h := Spread.cons w.toList isGap_nil hend hrest
      simpa [String.intercalate_cons_cons] using h

end Text

end TurtleScript
