import Mathlib.Data.List.Nodup
import Mathlib.Logic.Equiv.Basic
import TurtleScript.Proofs.Registry.Ledger
import TurtleScript.Proofs.Session.Lines
import TurtleScript.Proofs.Text.Replacement

/-!
# Names are opaque

A turtle may have any word for a name: a number, a colour, or the word of a command. If all names
are replaced by others, different names by different ones, then every line comes to the same as
before, only that the other names are spoken of (`names_opaque`).

## What a line comes to

Messages are texts, so a renaming cannot act on them. It acts on what a line comes to (`Upshot`):
from this and the text of the line all its events follow, and the names in it are those of turtles.

## The argument

The second word of a line that asks for an action is the name it is about, and a line that asks for
nothing fails for a reason that the second word has no part in. Two sessions mirror each other if
each turtle of one is in the other under its new name, and nobody else is there (`Mirrors`). A line
and its renamed form keep it so, since a renaming that is injective reaches no other turtle.
-/

open scoped List

namespace TurtleScript

variable {r : String → String}

/-! ## Renaming -/

/-- A change of a turtle under another name. -/
def Change.rename (r : String → String) : Change → Change
  | .created n => .created (r n)
  | .turnedLeft n heading => .turnedLeft (r n) heading
  | .turnedRight n heading => .turnedRight (r n) heading
  | .moved n start stop penDown => .moved (r n) start stop penDown
  | .pen n down => .pen (r n) down
  | .colour n c => .colour (r n) c

/-- A failure with another name. -/
def TurtleError.rename (r : String → String) : TurtleError → TurtleError
  | .alreadyExists n => .alreadyExists (r n)
  | .doesNotExist n => .doesNotExist (r n)

/-- An action on another name. -/
def Action.rename (r : String → String) : Action → Action
  | .create n => .create (r n)
  | .order n o => .order (r n) o

/-- A piece of work under another name. It is the same turtle. -/
def Work.rename (r : String → String) (w : Work) : Work := { w with change := w.change.rename r }

/-- A line with another name for its second word. -/
def Line.rename (r : String → String) (line : Line) : Line :=
  (Text.replaceWord r 1 line.1, line.2)

theorem Action.name_rename (a : Action) : (a.rename r).name = r a.name := by
  cases a <;> rfl

theorem Turtle.record_rename (t : Turtle) (n : String) (o : Order) :
    t.record (r n) o = (t.record n o).rename r := by
  cases o <;> rfl

/-- Work takes no notice of the name. -/
theorem Action.work_rename (a : Action) (t : Option Turtle) :
    (a.rename r).work t = ((a.work t).mapError (TurtleError.rename r)).map (Work.rename r) := by
  cases a with
  | create n => cases t <;> rfl
  | order n o =>
    cases t with
    | none => rfl
    | some t =>
      simp only [rename, work, Except.mapError, Except.map, Work.rename, Turtle.record_rename]

/-! ## The grammar -/

/-- Whatever is asked of a turtle is asked of another one in its place. -/
theorem Asks.rename {ws : List String} {a : Action} (h : Asks ws (.act a)) :
    Asks (ws.modify 1 r) (.act (a.rename r)) := by
  cases h <;> constructor <;> assumption

theorem Asks.rename_quit {ws : List String} (h : Asks ws .quit) : Asks (ws.modify 1 r) .quit := by
  cases h
  exact .quit

/-- The first argument of an operation is a name, if it has any. -/
theorem Operation.signature_cases (op : Operation) :
    op.signature = [] ∨ ∃ kinds, op.signature = .name :: kinds := by
  cases op <;> simp [signature]

theorem map_eq_error_iff {ε α β : Type} {f : α → β} {x : Except ε α} {e : ε} :
    x.map f = .error e ↔ x = .error e := by
  cases x <;> simp [Except.map]

theorem readArguments_signature_cons {op : Operation} {n : String} {tokens : List String}
    {e : ParseError} (h : readArguments op.signature (n :: tokens) = .error e) (m : String) :
    readArguments op.signature (m :: tokens) = .error e := by
  rcases op.signature_cases with hop | ⟨kinds, hop⟩
  · rw [hop] at h
    cases h
  · rw [hop] at h ⊢
    exact map_eq_error_iff.mpr (map_eq_error_iff.mp h)

namespace Invocation

theorem ofOperation_cons {op : Operation} {n : String} {tokens : List String} {e : ParseError}
    (h : ofOperation op (n :: tokens) = .error e) (m : String) :
    ofOperation op (m :: tokens) = .error e := by
  rw [ofOperation, List.length_cons] at h ⊢
  split_ifs at h ⊢
  · exact h
  · exact h
  · exact map_eq_error_iff.mpr (readArguments_signature_cons (map_eq_error_iff.mp h) m)

/-- A line is spoilt by other words than its second. -/
theorem ofWords_modify_one {ws : List String} {e : ParseError} (h : ofWords ws = .error e) :
    ofWords (ws.modify 1 r) = .error e := by
  rcases ws with - | ⟨word, - | ⟨n, tokens⟩⟩
  · cases h
  · exact h
  · rw [List.modify_succ_cons, List.modify_zero_cons]
    rw [ofWords] at h ⊢
    cases hop : Operation.ofWord? word with
    | none =>
      rw [hop] at h
      exact h
    | some op =>
      rw [hop] at h
      exact map_eq_error_iff.mpr (ofOperation_cons (map_eq_error_iff.mp h) (r n))

end Invocation

/-! ## What a line comes to -/

/-- What a line comes to. -/
inductive Upshot where
  /-- It is blank. -/
  | blank
  /-- It is no command. -/
  | malformed (e : ParseError)
  /-- It is the command to stop. -/
  | quit
  /-- It asks for an action that fails. -/
  | failed (e : TurtleError)
  /-- It asks for an action that is done. -/
  | done (change : Change) (drawn : Option Segment)

namespace Upshot

/-- The events of a line that fails. -/
def refusal (line : Line) (e : CommandError) : List Event :=
  [.noted (.failed (Text.trim line.1) e),
    .told (.error (Session.complaint (Text.trim line.1) line.2 e))]

/-- All events of a line. -/
def events (line : Line) : Upshot → List Event
  | blank => []
  | malformed e => refusal line (.parse e)
  | quit => [.noted .quit, .told .shutdown, .told (.echo (Text.trim line.1))]
  | failed e => refusal line (.turtle e)
  | done change drawn =>
    .noted (.changed change) :: (drawn.map Event.drew).toList ++
      [.told (.echo (Text.trim line.1))]

/-- The same with other names. -/
def rename (r : String → String) : Upshot → Upshot
  | blank => blank
  | malformed e => malformed e
  | quit => quit
  | failed e => failed (e.rename r)
  | done change drawn => done (change.rename r) drawn

end Upshot

/-! ## Two sessions -/

namespace Session

/-- The second session has the turtles of the first under their new names, and no others. -/
structure Mirrors (r : String → String) (s t : Session) : Prop where
  /-- Both have been stopped, or neither. -/
  finished : t.finished = s.finished
  /-- A turtle is found under its new name. -/
  get?_name : ∀ n, t.registry.get? (r n) = s.registry.get? n
  /-- There are no others. -/
  exists_name : ∀ m turtle, t.registry.get? m = some turtle → ∃ n, r n = m

variable {s t : Session}

theorem Mirrors.refl_start : Mirrors r start start := by
  refine ⟨rfl, fun _ ↦ rfl, ?_⟩
  intro m turtle h
  cases h

/-- The same turtle is put under a name and under its new name. -/
theorem Mirrors.put (h : Mirrors r s t) (hr : Function.Injective r) (n : String)
    (turtle : Turtle) :
    Mirrors r { s with registry := s.registry.put n turtle }
      { t with registry := t.registry.put (r n) turtle } := by
  refine ⟨h.finished, ?_, ?_⟩
  · intro m
    by_cases hm : n = m
    · rw [hm, Registry.get?_put_self, Registry.get?_put_self]
    · have hm' : r n ≠ r m := fun heq ↦ hm (hr heq)
      rw [Registry.get?_put_of_ne _ _ hm, Registry.get?_put_of_ne _ _ hm']
      exact h.get?_name m
  · intro m other hm
    by_cases hn : r n = m
    · exact ⟨n, hn⟩
    · rw [Registry.get?_put_of_ne _ _ hn] at hm
      exact h.exists_name m other hm

/-- **The step.** A line and its renamed form come to the same, up to names. -/
theorem Mirrors.process (h : Mirrors r s t) (hr : Function.Injective r)
    (hword : ∀ w, Text.IsWord w.toList → Text.IsWord (r w).toList) (line : Line) :
    ∃ u : Upshot, (s.process line.1 line.2).events = u.events line ∧
      (t.process (line.rename r).1 (line.rename r).2).events =
        (u.rename r).events (line.rename r) ∧
      Mirrors r (s.process line.1 line.2).session
        (t.process (line.rename r).1 (line.rename r).2).session := by
  have hwords : Text.words (line.rename r).1 = (Text.words line.1).modify 1 r :=
    Text.words_replaceWord hword 1 line.1
  cases s.lineCase line.1 line.2 with
  | blank hw hreply =>
    rw [hw, List.modify_nil] at hwords
    rw [hreply, process_of_blank hwords]
    exact ⟨.blank, rfl, rfl, h⟩
  | malformed e hw hreply =>
    have hw' := Invocation.ofWords_modify_one (r := r) hw
    rw [← hwords] at hw'
    rw [hreply, process_of_malformed hw']
    exact ⟨.malformed e, rfl, rfl, h⟩
  | quit hw hreply =>
    have hw' := hw.rename_quit (r := r)
    rw [← hwords] at hw'
    rw [hreply, process_of_quit hw']
    exact ⟨.quit, rfl, rfl, rfl, h.get?_name, h.exists_name⟩
  | failed a e hw he hreply =>
    have hw' := hw.rename (r := r)
    rw [← hwords] at hw'
    have he' : (a.rename r).work (t.registry.get? (a.rename r).name) = .error (e.rename r) := by
      rw [a.name_rename, h.get?_name, a.work_rename, he]
      rfl
    rw [hreply, process_of_failed hw' he']
    exact ⟨.failed e, rfl, rfl, h⟩
  | done a w hw hd hreply =>
    have hw' := hw.rename (r := r)
    rw [← hwords] at hw'
    have hd' : (a.rename r).work (t.registry.get? (a.rename r).name) = .ok (w.rename r) := by
      rw [a.name_rename, h.get?_name, a.work_rename, hd]
      rfl
    rw [hreply, process_of_done hw' hd', a.name_rename]
    exact ⟨.done w.change w.drawn, rfl, rfl, h.put hr a.name w.turtle⟩

/-- **The run.** -/
theorem Mirrors.processAll (h : Mirrors r s t) (hr : Function.Injective r)
    (hword : ∀ w, Text.IsWord w.toList → Text.IsWord (r w).toList) (lines : List Line) :
    ∃ upshots : List Upshot, upshots.length = lines.length ∧
      (s.replies lines).map Reply.events = List.zipWith Upshot.events lines upshots ∧
      (t.replies (lines.map (Line.rename r))).map Reply.events =
        List.zipWith Upshot.events (lines.map (Line.rename r)) (upshots.map (Upshot.rename r)) ∧
      Mirrors r (s.processAll lines).session
        (t.processAll (lines.map (Line.rename r))).session := by
  induction lines generalizing s t with
  | nil => exact ⟨[], rfl, rfl, rfl, h⟩
  | cons line lines ih =>
    obtain ⟨u, hevents, hevents', hnext⟩ := h.process hr hword line
    obtain ⟨upshots, hlength, hrest, hrest', hlast⟩ := ih hnext
    refine ⟨u :: upshots, ?_, ?_, ?_, ?_⟩
    · rw [List.length_cons, List.length_cons, hlength]
    · rw [replies_cons, List.map_cons, List.zipWith_cons_cons, hevents, hrest]
    · rw [List.map_cons, replies_cons, List.map_cons, List.map_cons, List.zipWith_cons_cons,
        hevents', hrest']
    · rw [List.map_cons, processAll_cons, processAll_cons, Reply.session_andThen,
        Reply.session_andThen]
      exact hlast

/-- The registries hold the same turtles. Their order may differ. -/
theorem Mirrors.perm_entries (h : Mirrors r s t) (hr : Function.Injective r) :
    t.registry.entries ~ s.registry.entries.map (Prod.map r id) := by
  have hnodup : ∀ registry : Registry, registry.entries.Nodup :=
    fun registry ↦ List.Nodup.of_map Prod.fst registry.nodup_names
  have hpair : Function.Injective (Prod.map r (id : Turtle → Turtle)) :=
    hr.prodMap Function.injective_id
  rw [List.perm_ext_iff_of_nodup (hnodup _) (List.Nodup.map hpair (hnodup _))]
  rintro ⟨m, turtle⟩
  rw [Registry.mem_entries_iff, List.mem_map]
  constructor
  · intro hm
    obtain ⟨n, rfl⟩ := h.exists_name m turtle hm
    rw [h.get?_name] at hm
    exact ⟨(n, turtle), Registry.mem_entries_iff.mpr hm, rfl⟩
  · rintro ⟨⟨n, other⟩, hn, heq⟩
    obtain ⟨rfl, rfl⟩ := Prod.mk.inj heq
    rw [h.get?_name]
    exact Registry.mem_entries_iff.mp hn

/-- **Names are opaque.** Let different words be replaced by different words. In a new session, each
of some lines comes to the same as it does with another word in place of its second, if it has one:
it is blank, is no command, stops the session, fails for the same reason, or is done with the same
segment or none. All its events follow from this and its text, with other names in them. In the end
the same turtles are there under their new names, and both sessions have been stopped or neither. -/
theorem names_opaque (r : String → String) (hr : Function.Injective r)
    (hword : ∀ w, Text.IsWord w.toList → Text.IsWord (r w).toList) (lines : List Line) :
    (∀ line ∈ lines, (line.rename r).words = line.words.modify 1 r) ∧
      (∃ upshots : List Upshot, upshots.length = lines.length ∧
        (start.replies lines).map Reply.events = List.zipWith Upshot.events lines upshots ∧
        (start.replies (lines.map (Line.rename r))).map Reply.events =
          List.zipWith Upshot.events (lines.map (Line.rename r))
            (upshots.map (Upshot.rename r))) ∧
      (start.processAll (lines.map (Line.rename r))).session.registry.entries ~
        (start.processAll lines).session.registry.entries.map (Prod.map r id) ∧
      (start.processAll (lines.map (Line.rename r))).session.finished =
        (start.processAll lines).session.finished := by
  obtain ⟨upshots, hlength, hevents, hevents', hlast⟩ :=
    Mirrors.refl_start.processAll hr hword lines
  refine ⟨?_, ⟨upshots, hlength, hevents, hevents'⟩, hlast.perm_entries hr, hlast.finished⟩
  intro line _
  exact Text.words_replaceWord hword 1 line.1

/-- A command word and a number change places, but only as names. -/
theorem names_opaque_swapped :
    let r := Equiv.swap "move" "10"
    let lines : List Line := [("turtle move", none), (" move  move 10 ", some 2)]
    (∀ w, Text.IsWord w.toList → Text.IsWord (r w).toList) ∧
      lines.map (Line.rename r) = [("turtle 10", none), (" move  10 10 ", some 2)] ∧
      (start.processAll (lines.map (Line.rename r))).session.registry.entries ~
        (start.processAll lines).session.registry.entries.map (Prod.map r id) := by
  intro r lines
  have hword : ∀ w, Text.IsWord w.toList → Text.IsWord (r w).toList := by
    intro w hw
    rw [Equiv.swap_apply_def]
    split_ifs
    · exact Text.isWord_of_all (by decide) (by decide)
    · exact Text.isWord_of_all (by decide) (by decide)
    · exact hw
  obtain ⟨-, -, hentries, -⟩ := names_opaque r r.injective hword lines
  exact ⟨hword, by decide +kernel, hentries⟩

end Session

end TurtleScript
