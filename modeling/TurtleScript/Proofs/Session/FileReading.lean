import TurtleScript.Proofs.Session.Concatenation
import TurtleScript.Proofs.Text.LossyDecoding
import TurtleScript.Proofs.Text.Newlines

/-!
# Cutting before reading

The bytes of a file are cut behind every newline byte, and every piece is read on its own. What is
handed over is the same as if the whole file were read first and its text cut then
(`reads_cut_file`): no sequence reaches over a newline, and an invalid one that is broken off by a
newline spoils its own line only.

Both sides of this are cut in the same sense (`IsCut`), and a file is taken apart from its front:
either it has no newline, or there is a first one (`Utf8.line_induction`).
-/

namespace TurtleScript

/-! ## Cutting -/

section

variable {α : Type} {separator : α}

/-- Some pieces that are cut behind every separator: all but the last end in their only separator,
and the last is not empty and has none but possibly at its end. -/
structure IsCut (separator : α) (pieces : List (List α)) : Prop where
  /-- All but the last end in their only separator. -/
  inner : ∀ piece ∈ pieces.dropLast, ∃ init, separator ∉ init ∧ piece = init ++ [separator]
  /-- The last is not empty and has none but possibly at its end. -/
  last : ∀ piece, pieces.getLast? = some piece → piece ≠ [] ∧ separator ∉ piece.dropLast

theorem IsCut.nil : IsCut separator [] := ⟨by simp, by simp⟩

theorem IsCut.singleton {piece : List α} (hne : piece ≠ []) (h : separator ∉ piece) :
    IsCut separator [piece] := by
  refine ⟨by simp, ?_⟩
  intro last hlast
  rw [← Option.some.inj hlast]
  exact ⟨hne, fun hmem ↦ h (List.dropLast_subset _ hmem)⟩

theorem IsCut.cons {pieces : List (List α)} (h : IsCut separator pieces) {init : List α}
    (hinit : separator ∉ init) : IsCut separator ((init ++ [separator]) :: pieces) := by
  rcases pieces with - | ⟨piece, pieces⟩
  · refine ⟨by simp, ?_⟩
    intro last hlast
    obtain rfl : init ++ [separator] = last := Option.some.inj hlast
    rw [List.dropLast_concat]
    exact ⟨by simp, hinit⟩
  · refine ⟨?_, ?_⟩
    · intro inner hinner
      rw [List.dropLast_cons_cons, List.mem_cons] at hinner
      rcases hinner with rfl | hinner
      · exact ⟨init, hinit, rfl⟩
      · exact h.inner inner hinner
    · intro last hlast
      rw [List.getLast?_cons_cons] at hlast
      exact h.last last hlast

end

namespace Utf8

/-- Bytes without a newline are one line, if there are any. -/
theorem lines_of_not_mem {bytes : Bytes} (hne : bytes ≠ []) (h : newline ∉ bytes) :
    lines bytes = [bytes] := by
  induction bytes with
  | nil => exact absurd rfl hne
  | cons b bytes ih =>
    rw [List.mem_cons, not_or] at h
    have hb : b ≠ newline := Ne.symm h.1
    by_cases hnil : bytes = []
    · rw [hnil, lines_cons, lines_nil, pushByte, if_neg hb]
    · rw [lines_cons, ih hnil h.2, pushByte_cons hb]

/-- A line ends at the first newline. -/
theorem lines_append_newline {init : Bytes} (hinit : newline ∉ init) (rest : Bytes) :
    lines (init ++ newline :: rest) = (init ++ [newline]) :: lines rest := by
  induction init with
  | nil => exact pushByte_newline _
  | cons b init ih =>
    rw [List.mem_cons, not_or] at hinit
    rw [List.cons_append, lines_cons, ih hinit.2, pushByte_cons (Ne.symm hinit.1)]
    rfl

/-- Bytes have no newline, or there is a first one. -/
theorem line_induction {motive : Bytes → Prop} (nil : motive [])
    (last : ∀ bytes, bytes ≠ [] → newline ∉ bytes → motive bytes)
    (cut : ∀ init rest, newline ∉ init → motive rest → motive (init ++ newline :: rest))
    (bytes : Bytes) : motive bytes := by
  induction hlength : bytes.length using Nat.strongRecOn generalizing bytes with
  | ind length ih =>
    by_cases hnewline : newline ∈ bytes
    · obtain ⟨init, rest, rfl, hinit⟩ := List.eq_append_cons_of_mem hnewline
      have hshorter : rest.length < length := by
        rw [← hlength, List.length_append, List.length_cons]
        omega
      exact cut init rest hinit (ih _ hshorter rest rfl)
    · by_cases hnil : bytes = []
      · rw [hnil]
        exact nil
      · exact last bytes hnil hnewline

theorem isCut_lines (bytes : Bytes) : IsCut newline (lines bytes) := by
  induction bytes using line_induction with
  | nil => exact .nil
  | last bytes hne hnewline =>
    rw [lines_of_not_mem hne hnewline]
    exact .singleton hne hnewline
  | cut init rest hinit ih =>
    rw [lines_append_newline hinit]
    exact ih.cons hinit

/-- How many lines there are: one for each newline, and one more for what stands behind the last. -/
theorem length_lines (bytes : Bytes) :
    (lines bytes).length = bytes.count newline + if Complete bytes then 0 else 1 := by
  induction bytes using line_induction with
  | nil => rfl
  | last bytes hne hnewline =>
    have hopen : ¬Complete bytes := by
      rintro (h | h)
      · exact hne h
      · exact hnewline (List.mem_of_getLast? h)
    rw [lines_of_not_mem hne hnewline, List.count_eq_zero.mpr hnewline, if_neg hopen]
    rfl
  | cut init rest hinit ih =>
    have hcomplete : Complete (init ++ newline :: rest) ↔ Complete rest := by
      rcases rest with - | ⟨b, rest⟩ <;> simp [Complete]
    rw [lines_append_newline hinit, List.length_cons, ih, List.count_append, List.count_cons_self,
      List.count_eq_zero.mpr hinit]
    simp only [hcomplete]
    omega

/-! ## Reading -/

/-- The lines of some bytes, each read on its own. -/
def texts (bytes : Bytes) : List String := (lines bytes).map lossy

theorem lossy_ne_nil {bytes : Bytes} (h : bytes ≠ []) : (lossy bytes).toList ≠ [] := by
  intro hnil
  have hread := decodes_lossy bytes
  rw [hnil] at hread
  cases hread
  exact h rfl

theorem isCut_texts (bytes : Bytes) : IsCut '\n' ((texts bytes).map String.toList) := by
  induction bytes using line_induction with
  | nil => exact .nil
  | last bytes hne hnewline =>
    rw [texts, lines_of_not_mem hne hnewline]
    exact .singleton (lossy_ne_nil hne) (newline_not_mem_lossy hnewline)
  | cut init rest hinit ih =>
    rw [texts, lines_append_newline hinit, List.map_cons, List.map_cons,
      toList_lossy_concat_newline]
    exact ih.cons (newline_not_mem_lossy hinit)

/-- **Nothing is lost.** The lines put together again are what the whole is read as. -/
theorem join_texts (bytes : Bytes) : String.join (texts bytes) = lossy bytes := by
  apply String.toList_injective
  rw [toList_lossy, decode_eq_flatMap_lines, List.map_flatMap, String.toList_join, texts,
    List.flatMap_map]
  simp only [toList_lossy]

end Utf8

/-! ## A file -/

/-- Without the command to stop all lines are taken. -/
theorem upToQuit_eq_self {lines : List Line} (h : ∀ line ∈ lines, line.words ≠ ["quit"]) :
    upToQuit lines = lines := by
  induction lines with
  | nil => rfl
  | cons line lines ih =>
    rw [upToQuit, if_neg (h line List.mem_cons_self), ih]
    exact fun line hline ↦ h line (List.mem_cons_of_mem _ hline)

/-- The lines of a file with their numbers, as they are handed over. -/
theorem numbered_lines (number : Nat) (bytes : Bytes) :
    numbered number (Utf8.lines bytes) =
      ((Utf8.texts bytes).zipIdx number).map fun line ↦ (line.1, some line.2) := by
  rw [numbered, Utf8.texts, List.zipIdx_map, List.map_map]
  rfl

namespace Session

theorem runFile_of_file (s : Session) {files : Files} {path bytes : Bytes}
    (hfile : files path = .ok (.file bytes)) :
    s.runFile files path =
      Reply.andThen ⟨s, [.told (.echo (readingText path))]⟩
        fun s ↦ s.runLines 1 (Utf8.lines bytes) := by
  rw [runFile, hfile]
  rfl

/-- **Cutting a file before it is read loses nothing.** If the command to stop has not been carried
out before a file nor in it, then these texts are handed over, numbered from 1. Put together again
they are the one lenient reading of the whole file, which is the text itself if the file encodes
one. All but the last end in their only newline, and the last is not empty and has none but possibly
at its end. There are as many as newline bytes, and one more if the file does not end in one and is
not empty. And each is read from a piece of the file alone. -/
theorem reads_cut_file (s : Session) (files : Files) (path bytes : Bytes)
    (hstart : s.finished = false) (hfile : files path = .ok (.file bytes))
    (hend : (s.runFile files path).session.finished = false) :
    ∃ texts : List String,
      s.runFile files path =
          Reply.andThen ⟨s, [.told (.echo (readingText path))]⟩ (fun s ↦
            s.processAll ((texts.zipIdx 1).map fun line ↦ (line.1, some line.2))) ∧
        (∀ cs, Utf8.Decodes bytes cs ↔ cs = (String.join texts).toList) ∧
        (∀ text, Utf8.encode text = bytes → String.join texts = text) ∧
        IsCut '\n' (texts.map String.toList) ∧
        texts.length = bytes.count Utf8.newline +
          (if bytes ≠ [] ∧ bytes.getLast? ≠ some Utf8.newline then 1 else 0) ∧
        ∃ pieces : List Bytes, pieces.flatten = bytes ∧ IsCut Utf8.newline pieces ∧
          texts = pieces.map Utf8.lossy := by
  have hstart' : ¬s.finished = true := by simp [hstart]
  have hrun := s.runFile_of_file hfile
  refine ⟨Utf8.texts bytes, ?_, ?_, ?_, Utf8.isCut_texts bytes, ?_, Utf8.lines bytes,
    Utf8.flatten_lines bytes, Utf8.isCut_lines bytes, rfl⟩
  · have hquit : ∀ line ∈ numbered 1 (Utf8.lines bytes), line.words ≠ ["quit"] := by
      rintro line hline hwords
      rw [hrun, Reply.session_andThen] at hend
      obtain ⟨⟨piece, number⟩, hmem, rfl⟩ := List.mem_map.mp hline
      have hpiece : piece ∈ Utf8.lines bytes := List.fst_mem_of_mem_zipIdx hmem
      have hfinished := (s.finished_runLines 1 (Utf8.lines bytes)).mpr
        (Or.inr ⟨piece, hpiece, hwords⟩)
      rw [hend] at hfinished
      cases hfinished
    rw [hrun, Reply.andThen, Reply.andThen, runLines_eq_processAll hstart',
      upToQuit_eq_self hquit, numbered_lines]
  · intro cs
    rw [Utf8.join_texts, Utf8.decodes_iff]
  · rintro text rfl
    rw [Utf8.join_texts, Utf8.lossy_encode]
  · rw [Utf8.texts, List.length_map, Utf8.length_lines]
    by_cases hnil : bytes = [] <;> by_cases hlast : bytes.getLast? = some Utf8.newline <;>
      simp [Utf8.Complete, hnil, hlast]

/-- A newline breaks off a sequence of three bytes. What is before it and what is behind it are read
on their own. -/
theorem reads_cut_file_broken_off :
    (start.runFile (fun _ ↦ .ok (.file [0xE2, 0x82, 0x0A, 0xAC])) []).session.finished = false ∧
      ∃ texts : List String, String.join texts = "\uFFFD\n\uFFFD" ∧
        start.runFile (fun _ ↦ .ok (.file [0xE2, 0x82, 0x0A, 0xAC])) [] =
          Reply.andThen ⟨start, [.told (.echo (readingText []))]⟩ (fun s ↦
            s.processAll ((texts.zipIdx 1).map fun line ↦ (line.1, some line.2))) := by
  have hend : (start.runFile (fun _ ↦ .ok (.file [0xE2, 0x82, 0x0A, 0xAC])) []).session.finished =
      false := by
    decide +kernel
  obtain ⟨texts, hrun, hread, -⟩ := reads_cut_file start _ [] [0xE2, 0x82, 0x0A, 0xAC] rfl rfl hend
  refine ⟨hend, texts, ?_, hrun⟩
  apply String.toList_injective
  rw [← (hread _).mp (Utf8.decodes_lossy _)]
  decide +kernel

end Session

end TurtleScript
