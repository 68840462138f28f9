import TurtleScript.Proofs.Session.Concatenation

/-!
# What is not read

Behind the command to stop nothing is read: no further line, no further path. So two rows of bytes
are as good as each other if they are the same up to the end of a line that is read as that command
(`AlikeUpToQuit`), and so are two rows of paths up to a file of that kind
(`FilesAlikeUpToQuit`). What follows may be anything: bytes that are no text, directories, paths
that lead nowhere, or nothing at all. A session cannot tell them apart (`runFiles_alike`).
-/

namespace TurtleScript

/-! ## Alike up to the command to stop -/

/-- The last line of some bytes is read as the command to stop. -/
def EndsWithQuit (read : Bytes → Option String) (bytes : Bytes) : Prop :=
  ∃ line text, (Utf8.lines bytes).getLast? = some line ∧ read line = some text ∧
    Text.words text = ["quit"]

/-- Two rows of bytes are the same up to the end of a line that is read as the command to stop. -/
inductive AlikeUpToQuit (read : Bytes → Option String) : Bytes → Bytes → Prop where
  /-- Anything may follow the newline of that line. -/
  | behind {head : Bytes} (hquit : EndsWithQuit read head)
    (hnewline : head.getLast? = some Utf8.newline) (rest rest' : Bytes) :
    AlikeUpToQuit read (head ++ rest) (head ++ rest')
  /-- A line without a newline is the last one. -/
  | atEnd {bytes : Bytes} (hquit : EndsWithQuit read bytes) : AlikeUpToQuit read bytes bytes

/-- Two rows of paths are the same, and lead to the same, up to a file whose lines are alike up to
the command to stop. -/
inductive FilesAlikeUpToQuit (files files' : Files) : List Bytes → List Bytes → Prop where
  | intro {before : List Bytes} {path a b : Bytes} (hbefore : ∀ p ∈ before, files p = files' p)
    (ha : files path = .ok (.file a)) (hb : files' path = .ok (.file b))
    (halike : AlikeUpToQuit (fun line ↦ some (Utf8.lossy line)) a b)
    (later later' : List Bytes) :
    FilesAlikeUpToQuit files files' (before ++ path :: later) (before ++ path :: later')

theorem AlikeUpToQuit.exists_lines {read : Bytes → Option String} {a b : Bytes}
    (h : AlikeUpToQuit read a b) :
    ∃ before line more more' text, Utf8.lines a = before ++ line :: more ∧
      Utf8.lines b = before ++ line :: more' ∧ read line = some text ∧
      Text.words text = ["quit"] := by
  cases h with
  | @behind head hquit hnewline rest rest' =>
    obtain ⟨line, text, hlast, hread, hwords⟩ := hquit
    obtain ⟨before, hlines⟩ := List.getLast?_eq_some_iff.mp hlast
    have hcut : ∀ rest, Utf8.lines (head ++ rest) = before ++ line :: Utf8.lines rest := by
      intro rest
      rw [Utf8.lines_append (Or.inr hnewline), hlines, List.append_assoc, List.singleton_append]
    exact ⟨before, line, _, _, text, hcut rest, hcut rest', hread, hwords⟩
  | atEnd hquit =>
    obtain ⟨line, text, hlast, hread, hwords⟩ := hquit
    obtain ⟨before, hlines⟩ := List.getLast?_eq_some_iff.mp hlast
    exact ⟨before, line, [], [], text, hlines, hlines, hread, hwords⟩

theorem FilesAlikeUpToQuit.ne_nil {files files' : Files} {paths paths' : List Bytes}
    (h : FilesAlikeUpToQuit files files' paths paths') : paths ≠ [] := by
  obtain ⟨-, -, -, -, later, later'⟩ := h
  exact List.append_ne_nil_of_right_ne_nil _ (List.cons_ne_nil _ _)

/-- More paths at the end make no difference. -/
theorem FilesAlikeUpToQuit.append {files files' : Files} {paths paths' : List Bytes}
    (h : FilesAlikeUpToQuit files files' paths paths') (more more' : List Bytes) :
    FilesAlikeUpToQuit files files' (paths ++ more) (paths' ++ more') := by
  obtain ⟨hbefore, ha, hb, halike, later, later'⟩ := h
  rw [List.append_assoc, List.append_assoc]
  exact .intro hbefore ha hb halike (later ++ more) (later' ++ more')

/-! ## Sessions that have stopped -/

namespace Session

/-- Nothing is read behind the command to stop. -/
theorem runLines_behind_quit (s : Session) (number : Nat) (before : List Bytes) {line : Bytes}
    (hquit : Text.words (Utf8.lossy line) = ["quit"]) (more : List Bytes) :
    s.runLines number (before ++ line :: more) = s.runLines number (before ++ [line]) := by
  have hfinished : (s.runLines number (before ++ [line])).session.finished = true := by
    rw [finished_runLines]
    exact Or.inr ⟨line, List.mem_append_right _ List.mem_cons_self, hquit⟩
  rw [List.append_cons, runLines_append]
  exact andThen_of_idle (runLines_of_finished hfinished _ more)

theorem runOpening_alike (s : Session) (path : Bytes) {a b : Bytes}
    (h : AlikeUpToQuit (fun line ↦ some (Utf8.lossy line)) a b) :
    s.runOpening path (.ok (.file a)) = s.runOpening path (.ok (.file b)) ∧
      (s.runOpening path (.ok (.file b))).session.finished = true := by
  obtain ⟨before, line, more, more', text, ha, hb, hread, hquit⟩ := h.exists_lines
  obtain rfl := Option.some.inj hread
  have hfinished : (s.runLines 1 (Utf8.lines b)).session.finished = true := by
    rw [finished_runLines, hb]
    exact Or.inr ⟨line, List.mem_append_right _ List.mem_cons_self, hquit⟩
  refine ⟨?_, hfinished⟩
  simp only [runOpening, runContent, ha, hb]
  rw [Reply.andThen, Reply.andThen, runLines_behind_quit _ _ _ hquit more,
    runLines_behind_quit _ _ _ hquit more']

theorem runFiles_congr (s : Session) {files files' : Files} {paths : List Bytes}
    (h : ∀ p ∈ paths, files p = files' p) : s.runFiles files paths = s.runFiles files' paths := by
  induction paths generalizing s with
  | nil => rfl
  | cons path paths ih =>
    have hpath : files path = files' path := h path List.mem_cons_self
    have hpaths : ∀ p ∈ paths, files p = files' p := fun p hp ↦ h p (List.mem_cons_of_mem _ hp)
    rw [runFiles, runFiles, runFile, runFile, hpath]
    simp only [ih _ hpaths]

/-- The file with the command to stop in it is the last one to be opened. -/
theorem runFiles_behind_quit {s : Session} {files : Files} {path : Bytes}
    (hs : ¬s.finished = true) (h : (s.runFile files path).session.finished = true)
    (later : List Bytes) : s.runFiles files (path :: later) = s.runFile files path := by
  rw [runFiles_cons hs]
  exact andThen_of_idle (runFiles_of_finished h files later)

theorem runFiles_cons_alike (s : Session) {files files' : Files} {path a b : Bytes}
    (ha : files path = .ok (.file a)) (hb : files' path = .ok (.file b))
    (h : AlikeUpToQuit (fun line ↦ some (Utf8.lossy line)) a b) (later later' : List Bytes) :
    s.runFiles files (path :: later) = s.runFiles files' (path :: later') ∧
      (s.runFiles files' (path :: later')).session.finished = true := by
  by_cases hs : s.finished = true
  · rw [runFiles_of_finished hs, runFiles_of_finished hs]
    exact ⟨rfl, hs⟩
  · obtain ⟨hsame, hfinished⟩ := s.runOpening_alike path h
    have hfile : s.runFile files path = s.runFile files' path := by
      rw [runFile, runFile, ha, hb, hsame]
    have hstops : (s.runFile files' path).session.finished = true := by
      rw [runFile, hb]
      exact hfinished
    rw [runFiles_behind_quit hs hstops, runFiles_behind_quit hs (hfile ▸ hstops), hfile]
    exact ⟨rfl, hstops⟩

/-- **What is not read makes no difference.** Two rows of paths that are alike up to the command to
stop do the same to every session, and both stop it. -/
theorem runFiles_alike (s : Session) {files files' : Files} {paths paths' : List Bytes}
    (h : FilesAlikeUpToQuit files files' paths paths') :
    s.runFiles files paths = s.runFiles files' paths' ∧
      (s.runFiles files' paths').session.finished = true := by
  obtain ⟨hbefore, ha, hb, halike, later, later'⟩ := h
  rw [runFiles_append, runFiles_append, s.runFiles_congr hbefore, Reply.andThen, Reply.andThen]
  obtain ⟨hsame, hfinished⟩ := Session.runFiles_cons_alike _ ha hb halike later later'
  rw [hsame]
  exact ⟨rfl, hfinished⟩

end Session

end TurtleScript
