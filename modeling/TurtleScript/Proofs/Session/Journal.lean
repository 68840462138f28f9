import TurtleScript.Proofs.Log.Reading
import TurtleScript.Proofs.Registry.Ledger
import TurtleScript.Proofs.Session.Interpreter
import TurtleScript.Proofs.Session.Turns

/-!
# The log is a journal

The part of the program that keeps the turtles leaves one record of every change, and what has
changed can be read from the record. So its records are a journal: made once more from no turtles
on, in order, the changes that they tell of lead to the turtles that there are
(`Session.rebuilds_takeAll`). A record also says what was there before, and what has been drawn:
a move starts where the journal has left the turtle, and draws if the pen is recorded to be down
(`LogRecord.Tells`).

## Runs of calls

The operations of the registry are called by invocations, one for every action (`Action.step`). A
call that succeeds adds one record to the journal, and a call that fails adds none
(`Session.log_is_journal`).
-/

namespace TurtleScript

/-! ## The journal -/

/-- The record of an event, if it has one. -/
def Event.record? : Event → Option LogRecord
  | noted note => some (.ofNote note)
  | told .shutdown => some .shutdown
  | _ => none

/-- Drawing is not recorded. -/
theorem Event.record?_of_mem_drew {drawn : Option Segment} {event : Event}
    (h : event ∈ (drawn.map Event.drew).toList) : event.record? = none := by
  cases drawn with
  | none => cases h
  | some seg =>
    rw [Option.map_some, Option.toList_some, List.mem_singleton] at h
    rw [h]
    rfl

/-- The records of a reply that come from where the turtles are kept, in order. -/
def Reply.journal (r : Reply) : List LogRecord :=
  (r.events.filterMap Event.record?).filter fun record ↦ record.target = LogRecord.registryTarget

namespace Registry

/-- Make the change that a record tells of once more. -/
def replayRecord? (r : Registry) (record : LogRecord) : Option Registry :=
  record.change?.map r.replay

/-- Make the changes that some records tell of once more, in order. -/
def rebuild? (r : Registry) (records : List LogRecord) : Option Registry :=
  records.foldlM replayRecord? r

theorem rebuild?_append {r s : Registry} {a : List LogRecord} (h : r.rebuild? a = some s)
    (b : List LogRecord) : r.rebuild? (a ++ b) = s.rebuild? b := by
  rw [rebuild?, List.foldlM_append]
  exact congrArg (· >>= fun s ↦ s.rebuild? b) h

/-- The record of a deed rebuilds what the deed has left. -/
theorem replayRecord?_of_perform {r : Registry} {a : Action} {d : Deed}
    (h : r.perform a = .ok d) : r.replayRecord? (.ofChange d.change) = some d.registry := by
  rw [replayRecord?, LogRecord.change?_ofChange, Option.map_some, replay_change h]

/-- What is done is a move, drawn if the pen is down, or something else, which is not drawn. -/
theorem moved_or_still {r : Registry} {a : Action} {d : Deed} (h : r.perform a = .ok d) :
    (∃ name t distance, r.get? name = some t ∧
        d.change = .moved name t.position (t.ahead distance) t.penDown ∧
        d.drawn = if t.penDown then some ⟨t.position, t.ahead distance, t.colour⟩ else none) ∨
      (∀ name start stop down, d.change ≠ .moved name start stop down) ∧ d.drawn = none := by
  cases a with
  | create name =>
    rw [perform] at h
    split at h
    · cases h
    · cases h
      exact Or.inr ⟨by simp, rfl⟩
  | order name order =>
    rw [perform] at h
    split at h
    · cases h
    · rename_i t ht
      cases h
      cases order with
      | move distance => exact Or.inl ⟨name, t, distance, ht, rfl, rfl⟩
      | _ => exact Or.inr ⟨by simp [Turtle.record], rfl⟩

end Registry

/-! ## What a record tells -/

namespace LogRecord

/-- A record tells of a deed what it has changed and drawn, and of a move where it began. -/
structure Tells (record : LogRecord) (before : Registry) (d : Deed) : Prop where
  /-- It comes from where the turtles are kept. -/
  target : record.target = registryTarget
  /-- The change that it tells of leads to the turtles after the deed. -/
  replay : before.replayRecord? record = some d.registry
  /-- A move began where its turtle was, and the pen was as it was. -/
  moved : record.message = "moved" → ∃ name t, record.turtle? = some name ∧
    before.get? name = some t ∧ record.start? = some t.position ∧
      record.penDown? = some t.penDown
  /-- A segment was drawn just if the pen is said to have been down. -/
  drawn_iff : d.drawn ≠ none ↔ record.penDown? = some true
  /-- A segment that was drawn has the recorded ends. -/
  ends : ∀ seg, d.drawn = some seg →
    record.start? = some seg.start ∧ record.stop? = some seg.stop

/-- **The record of a deed tells of it.** -/
theorem tells_of_perform {before : Registry} {a : Action} {d : Deed}
    (h : before.perform a = .ok d) : (ofChange d.change).Tells before d := by
  have htarget : (ofNote (.changed d.change)).target = registryTarget :=
    target_ofNote_iff.mpr ⟨d.change, rfl⟩
  have hreplay := Registry.replayRecord?_of_perform h
  rcases Registry.moved_or_still h with
    ⟨name, t, distance, hget, hchange, hdrawn⟩ | ⟨hstill, hdrawn⟩
  · obtain ⟨hturtle, hstart, hstop, hpen⟩ :=
      fields_moved name t.position (t.ahead distance) t.penDown
    rw [← hchange] at hturtle hstart hstop hpen
    refine ⟨htarget, hreplay, fun _ ↦ ⟨name, t, hturtle, hget, hstart, hpen⟩, ?_, ?_⟩
    · rw [hdrawn, hpen]
      cases t.penDown <;> simp
    · intro seg hseg
      rw [hdrawn, Option.ite_none_right_eq_some] at hseg
      obtain ⟨-, hseg⟩ := hseg
      obtain rfl := Option.some.inj hseg
      exact ⟨hstart, hstop⟩
  · obtain ⟨hmessage, hpen⟩ := still_of_ne_moved hstill
    refine ⟨htarget, hreplay, fun hmoved ↦ absurd hmoved hmessage, ?_, ?_⟩
    · simp [hdrawn, hpen]
    · simp [hdrawn]

end LogRecord

/-! ## Replies -/

namespace Reply

@[simp] theorem journal_andThen (r : Reply) (next : Session → Reply) :
    (r.andThen next).journal = r.journal ++ (next r.session).journal := by
  rw [journal, events_andThen, List.filterMap_append, List.filter_append]
  rfl

/-- A change leaves one record, if nothing else does. -/
theorem journal_changed (s : Session) (c : Change) {events : List Event}
    (h : ∀ event ∈ events, event.record? = none) :
    (Reply.mk s (.noted (.changed c) :: events)).journal = [.ofChange c] := by
  have hrecord : (Event.noted (.changed c)).record? = some (.ofChange c) := rfl
  have htarget : (LogRecord.ofChange c).target = LogRecord.registryTarget :=
    LogRecord.target_ofNote_iff.mpr ⟨c, rfl⟩
  rw [journal, List.filterMap_cons_some hrecord, List.filterMap_eq_nil_iff.mpr h]
  exact List.filter_cons_of_pos (decide_eq_true htarget)

/-- The journal of a reply leads from the turtles before to the turtles after. -/
def Rebuilds (s : Session) (r : Reply) : Prop :=
  s.registry.rebuild? r.journal = some r.session.registry

theorem Rebuilds.andThen {s : Session} {r : Reply} {next : Session → Reply} (h : Rebuilds s r)
    (hnext : Rebuilds r.session (next r.session)) : Rebuilds s (r.andThen next) := by
  rw [Rebuilds, journal_andThen, Registry.rebuild?_append h]
  exact hnext

end Reply

namespace Session

open Reply

/-! ## Every session keeps a journal -/

section

variable {s : Session} {a : Action} {w : Work}

/-- The record of an action that is done rebuilds what it has left. -/
theorem rebuilds_done (hd : a.work (s.registry.get? a.name) = .ok w) {events : List Event}
    (h : ∀ event ∈ events, event.record? = none) :
    Rebuilds s ⟨{ s with registry := s.registry.put a.name w.turtle },
      .noted (.changed w.change) :: events⟩ := by
  have hperform : s.registry.perform a =
      .ok ⟨s.registry.put a.name w.turtle, w.change, w.drawn⟩ := by
    rw [Registry.perform_eq, hd]
    rfl
  have hreplay := Registry.replayRecord?_of_perform hperform
  rw [Rebuilds, journal_changed _ _ h, Registry.rebuild?, List.foldlM_cons, hreplay]
  rfl

theorem rebuilds_process (s : Session) (text : String) (number : Option Nat) :
    Rebuilds s (s.process text number) := by
  cases s.lineCase text number with
  | blank hw hr =>
    rw [hr]
    rfl
  | malformed e hw hr =>
    rw [hr]
    rfl
  | quit hw hr =>
    rw [hr]
    rfl
  | failed a e hw he hr =>
    rw [hr]
    rfl
  | done a w hw hd hr =>
    rw [hr]
    refine rebuilds_done hd fun event hevent ↦ ?_
    rcases List.mem_append.mp hevent with h | h
    · exact Event.record?_of_mem_drew h
    · rw [List.mem_singleton.mp h]
      rfl

theorem rebuilds_execute {i : Invocation} {r : Reply} (h : s.execute i = .ok r) :
    Rebuilds s r := by
  rcases execute_cases h with ⟨-, rfl⟩ | ⟨a, w, -, hd, rfl⟩
  · rfl
  · exact rebuilds_done hd fun event ↦ Event.record?_of_mem_drew

end

theorem rebuilds_takeTurn (s : Session) (turn : Turn) : Rebuilds s (s.takeTurn turn) := by
  cases turn with
  | line text number => exact s.rebuilds_process text number
  | path path opening =>
    cases opening with
    | error failure => rfl
    | ok content => cases content <;> rfl

theorem rebuilds_follow (s : Session) (turns : List Turn) : Rebuilds s (s.follow turns) := by
  induction turns generalizing s with
  | nil => rfl
  | cons turn turns ih =>
    by_cases h : s.finished = true
    · rw [follow_of_finished h]
      rfl
    · rw [follow_cons h]
      exact (s.rebuilds_takeTurn turn).andThen (ih _)

theorem rebuilds_runOpening (s : Session) (path : Bytes) (opening : Opening) :
    Rebuilds s (s.runOpening path opening) := by
  cases opening with
  | error failure => rfl
  | ok content =>
    have hreading : Rebuilds s ⟨s, [.told (.echo (readingText path))]⟩ := rfl
    refine hreading.andThen ?_
    cases content with
    | file bytes =>
      rw [runContent, runLines_eq_follow]
      exact s.rebuilds_follow _
    | directory =>
      rw [runContent]
      split <;> rfl

/-- **One step.** -/
theorem rebuilds_take (s : Session) (files : Files) (step : Step) :
    Rebuilds s (s.take files step) := by
  cases step with
  | line text number => exact s.rebuilds_process text number
  | execute i =>
    rw [take]
    split
    next r h => exact rebuilds_execute h
    next => rfl
  | file path => exact s.rebuilds_runOpening path (files path)
  | files paths =>
    rw [take, runFiles_eq_follow]
    exact s.rebuilds_follow _

/-- **The journal of a session rebuilds its turtles,** whatever steps it takes. -/
theorem rebuilds_takeAll (s : Session) (files : Files) (steps : List Step) :
    Rebuilds s (s.takeAll files steps) := by
  induction steps generalizing s with
  | nil => rfl
  | cons step steps ih => exact (s.rebuilds_take files step).andThen (ih _)

end Session

/-! ## Runs of calls -/

/-- The invocation that asks for an action. -/
def Action.invocation : Action → Invocation
  | .create n => ⟨Operation.turtle.word, .turtle, [.name n]⟩
  | .order n (.move d) => ⟨Operation.move.word, .move, [.name n, .distance d]⟩
  | .order n (.turnLeft a) => ⟨Operation.left.word, .left, [.name n, .degrees a]⟩
  | .order n (.turnRight a) => ⟨Operation.right.word, .right, [.name n, .degrees a]⟩
  | .order n (.setPen down) => ⟨Operation.pen.word, .pen, [.name n, .penState down]⟩
  | .order n (.setColour c) => ⟨Operation.colour.word, .colour, [.name n, .colour c]⟩

/-- The step that calls for an action. -/
def Action.step (a : Action) : Step := .execute a.invocation

theorem Action.request?_invocation (a : Action) : a.invocation.request? = some (.act a) := by
  cases a with
  | create n => rfl
  | order n o => cases o <;> rfl

namespace Session

open Reply

variable {s : Session} {a : Action}

theorem take_step_of_error (files : Files) {e : TurtleError} (h : s.registry.perform a = .error e) :
    s.take files a.step = s.idle := by
  rw [Action.step, take, execute, a.request?_invocation]
  simp only [h]

theorem take_step_of_ok (files : Files) {d : Deed} (h : s.registry.perform a = .ok d) :
    s.take files a.step = ⟨{ s with registry := d.registry },
      .noted (.changed d.change) :: (d.drawn.map Event.drew).toList⟩ := by
  rw [Action.step, take, execute, a.request?_invocation]
  simp only [h]

/-- What is left of a drawing once it has been noted. -/
theorem drawn_take_step_of_ok (files : Files) {d : Deed} (h : s.registry.perform a = .ok d) :
    (s.take files a.step).drawn = d.drawn.toList := by
  rw [take_step_of_ok files h, Reply.drawn]
  cases d.drawn <;> rfl

theorem journal_take_step_of_ok (files : Files) {d : Deed} (h : s.registry.perform a = .ok d) :
    (s.take files a.step).journal = [.ofChange d.change] := by
  rw [take_step_of_ok files h]
  exact journal_changed _ _ fun event ↦ Event.record?_of_mem_drew

/-- Calls do to the turtles what their actions do. -/
theorem registry_takeAll_steps (s : Session) (files : Files) (actions : List Action) :
    (s.takeAll files (actions.map Action.step)).session.registry =
      s.registry.afterAll actions := by
  induction actions generalizing s with
  | nil => rfl
  | cons a actions ih =>
    rw [List.map_cons, takeAll_cons, session_andThen, ih, Registry.afterAll, Registry.afterAll,
      List.foldl_cons, Registry.after]
    cases h : s.registry.perform a with
    | error e => rw [take_step_of_error files h, idle_session]
    | ok d => rw [take_step_of_ok files h]

/-- **The log is a journal.** Whatever steps a new session takes, the records that come from where
the turtles are kept rebuild the turtles from none. Among calls of all kinds, with arguments of
whatever value, a call that fails adds no record, and draws and changes nothing. One that succeeds
adds one record behind those before it, which tells of what has been done: it leads from the
turtles that the earlier records rebuild to those that there are now; a move starts where its turtle
is and records its pen; and a segment is drawn just if the pen is recorded to be down. -/
theorem log_is_journal (files : Files) :
    (∀ steps, Registry.empty.rebuild? (start.takeAll files steps).journal =
      some (start.takeAll files steps).session.registry) ∧
    ∀ (before : List Action) (a : Action),
      let past := start.takeAll files (before.map Action.step)
      let now := start.takeAll files ((before ++ [a]).map Action.step)
      past.session.registry = Registry.empty.afterAll before ∧
      ((∃ e, past.session.registry.perform a = .error e ∧
          now.journal = past.journal ∧ now.drawn = past.drawn ∧
          now.session.registry = past.session.registry) ∨
        ∃ d record, past.session.registry.perform a = .ok d ∧
          now.journal = past.journal ++ [record] ∧ now.drawn = past.drawn ++ d.drawn.toList ∧
          now.session.registry = d.registry ∧ record.Tells past.session.registry d) := by
  refine ⟨start.rebuilds_takeAll files, ?_⟩
  intro before a past now
  have hnow : now = past.andThen fun s ↦ s.take files a.step := by
    simp only [now, past, List.map_append, List.map_singleton, takeAll_append, takeAll_cons,
      takeAll_nil, andThen_idle]
  refine ⟨start.registry_takeAll_steps files before, ?_⟩
  rw [hnow, journal_andThen, drawn_andThen, session_andThen]
  cases h : past.session.registry.perform a with
  | error e =>
    refine Or.inl ⟨e, rfl, ?_⟩
    rw [take_step_of_error files h]
    exact ⟨List.append_nil _, List.append_nil _, rfl⟩
  | ok d =>
    refine Or.inr ⟨d, .ofChange d.change, rfl, ?_, ?_, ?_, LogRecord.tells_of_perform h⟩
    · rw [journal_take_step_of_ok files h]
    · rw [drawn_take_step_of_ok files h]
    · rw [take_step_of_ok files h]

end Session

end TurtleScript
