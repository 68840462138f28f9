import TurtleScript.Proofs.Session.Lines
import TurtleScript.Proofs.Text.ByteOrder
import TurtleScript.Proofs.Text.Layout

/-!
# The ledger of names

Whatever calls are made, from no turtles on, the registry lists the names of the creations that have
succeeded. Each of them has succeeded once, for a name that is there cannot be created again, and
none is ever lost, for nothing is removed. So the names are a rearrangement of the creations, by the
order of their bytes (`names_of_creations`).

## The law of one call

A call adds one name, if it is a creation that succeeds, or none (`names_after`). What many calls
add follows by induction, from any registry (`names_afterAll`). Which names a session can reach is a
law of the same kind for a line: a name that is new is a word of it.
-/

open scoped List

namespace TurtleScript

namespace Registry

/-! ## Names -/

theorem mem_names_iff {r : Registry} {n : String} : n ∈ r.names ↔ r.get? n ≠ none := by
  rw [names, List.mem_map, Option.ne_none_iff_exists']
  constructor
  · rintro ⟨⟨m, t⟩, hmem, rfl⟩
    exact ⟨t, mem_entries_iff.mp hmem⟩
  · rintro ⟨t, ht⟩
    exact ⟨(n, t), mem_entries_iff.mpr ht, rfl⟩

theorem not_mem_names_iff {r : Registry} {n : String} : n ∉ r.names ↔ r.get? n = none := by
  rw [mem_names_iff, not_not]

theorem names_increase (r : Registry) : r.names.Pairwise (· < ·) := List.pairwise_map.mpr r.sorted

theorem nodup_names (r : Registry) : r.names.Nodup := by
  refine r.names_increase.imp ?_
  intro n m hlt hnm
  exact String.lt_irrefl m (hnm ▸ hlt)

theorem length_names (r : Registry) : r.names.length = r.size := List.length_map _

theorem isEmpty_iff {r : Registry} : r.isEmpty = true ↔ r.size = 0 := by
  rw [isEmpty, List.isEmpty_iff, size, List.length_eq_zero_iff]

theorem mem_names_put {r : Registry} {n m : String} {t : Turtle} :
    m ∈ (r.put n t).names ↔ m = n ∨ m ∈ r.names := by
  rw [mem_names_iff, mem_names_iff]
  by_cases h : n = m
  · subst h
    simp
  · rw [get?_put_of_ne r t h]
    simp [Ne.symm h]

/-! ## One call -/

theorem perform_create_iff {r : Registry} {n : String} :
    (∃ d, r.perform (.create n) = .ok d) ↔ n ∉ r.names := by
  rw [not_mem_names_iff, perform]
  cases r.get? n <;> simp

theorem perform_create_eq_error_iff {r : Registry} {n : String} {e : TurtleError} :
    r.perform (.create n) = .error e ↔ n ∈ r.names ∧ e = .alreadyExists n := by
  rw [mem_names_iff, perform]
  cases r.get? n <;> simp [eq_comm]

theorem perform_order_iff {r : Registry} {n : String} {o : Order} :
    (∃ d, r.perform (.order n o) = .ok d) ↔ n ∈ r.names := by
  rw [mem_names_iff, perform]
  cases r.get? n <;> simp

theorem perform_order_eq_error_iff {r : Registry} {n : String} {o : Order} {e : TurtleError} :
    r.perform (.order n o) = .error e ↔ n ∉ r.names ∧ e = .doesNotExist n := by
  rw [not_mem_names_iff, perform]
  cases r.get? n <;> simp [eq_comm]

/-- The registry after a call. -/
def after (r : Registry) (a : Action) : Registry :=
  match r.perform a with
  | .ok d => d.registry
  | .error _ => r

/-- The name that a call creates, or none. -/
def createdBy (r : Registry) : Action → List String
  | .create n =>
    match r.perform (.create n) with
    | .ok _ => [n]
    | .error _ => []
  | .order _ _ => []

/-- The outcomes of a call. -/
inductive CallCase (r : Registry) (a : Action) : Prop where
  /-- It is to create a name that is there. -/
  | taken (n : String) (ha : a = .create n) (hn : n ∈ r.names)
    (he : r.perform a = .error (.alreadyExists n)) (hafter : r.after a = r)
  /-- It is to order a turtle that is not there. -/
  | missing (n : String) (o : Order) (ha : a = .order n o) (hn : n ∉ r.names)
    (he : r.perform a = .error (.doesNotExist n)) (hafter : r.after a = r)
  /-- It creates a name. -/
  | created (n : String) (ha : a = .create n) (hn : n ∉ r.names) (d : Deed)
    (hd : r.perform a = .ok d) (hafter : r.after a = r.put n .fresh)
  /-- It is an order that is followed. -/
  | followed (n : String) (o : Order) (t : Turtle) (ha : a = .order n o) (hn : n ∈ r.names)
    (d : Deed) (hd : r.perform a = .ok d) (hafter : r.after a = r.put n (t.follow o))

/-- **Every call has one of the outcomes.** -/
theorem callCase (r : Registry) (a : Action) : CallCase r a := by
  cases a with
  | create n =>
    cases hn : r.get? n with
    | none =>
      have hd : r.perform (.create n) = .ok ⟨r.put n .fresh, .created n, none⟩ := by
        simp [perform, hn]
      exact .created n rfl (not_mem_names_iff.mpr hn) _ hd (by rw [after, hd])
    | some t =>
      have he : r.perform (.create n) = .error (.alreadyExists n) := by simp [perform, hn]
      exact .taken n rfl (mem_names_iff.mpr (by simp [hn])) he (by rw [after, he])
  | order n o =>
    cases hn : r.get? n with
    | none =>
      have he : r.perform (.order n o) = .error (.doesNotExist n) := by simp [perform, hn]
      exact .missing n o rfl (not_mem_names_iff.mpr hn) he (by rw [after, he])
    | some t =>
      have hd : r.perform (.order n o) =
          .ok ⟨r.put n (t.follow o), t.record n o, t.drawing o⟩ := by simp [perform, hn]
      exact .followed n o t rfl (mem_names_iff.mpr (by simp [hn])) _ hd (by rw [after, hd])

/-- **The law of one call.** It adds the name that it creates, and nothing else comes or goes. -/
theorem names_after (r : Registry) (a : Action) :
    (r.after a).names ~ r.createdBy a ++ r.names := by
  cases r.callCase a with
  | taken n ha hn he hafter =>
    have hnone : r.createdBy a = [] := by rw [ha] at he ⊢; rw [createdBy, he]
    rw [hnone, hafter, List.nil_append]
  | missing n o ha hn he hafter => rw [ha, createdBy, ← ha, hafter, List.nil_append]
  | created n ha hn d hd hafter =>
    have hone : r.createdBy a = [n] := by rw [ha] at hd ⊢; rw [createdBy, hd]
    have hnodup : (n :: r.names).Nodup := List.nodup_cons.mpr ⟨hn, r.nodup_names⟩
    rw [hone, hafter]
    refine (List.perm_ext_iff_of_nodup (nodup_names _) hnodup).mpr fun m ↦ ?_
    rw [mem_names_put, List.mem_cons]
  | followed n o t ha hn d hd hafter =>
    rw [ha, createdBy, ← ha, hafter, List.nil_append]
    refine (List.perm_ext_iff_of_nodup (nodup_names _) r.nodup_names).mpr fun m ↦ ?_
    rw [mem_names_put]
    exact or_iff_right_of_imp fun hm ↦ hm ▸ hn

/-- No call reaches another name. -/
theorem get?_after_of_ne (r : Registry) {a : Action} {m : String} (h : m ≠ a.name) :
    (r.after a).get? m = r.get? m := by
  cases r.callCase a with
  | taken n ha hn he hafter => rw [hafter]
  | missing n o ha hn he hafter => rw [hafter]
  | created n ha hn d hd hafter =>
    rw [hafter]
    exact r.get?_put_of_ne _ fun hnm ↦ h (by rw [ha, ← hnm]; rfl)
  | followed n o t ha hn d hd hafter =>
    rw [hafter]
    exact r.get?_put_of_ne _ fun hnm ↦ h (by rw [ha, ← hnm]; rfl)

/-! ## Many calls -/

/-- The registry after some calls. -/
def afterAll (r : Registry) (actions : List Action) : Registry := actions.foldl after r

/-- The names that calls create, call by call. -/
def created (r : Registry) : List Action → List String
  | [] => []
  | a :: actions => r.createdBy a ++ (r.after a).created actions

/-- **The law of many calls.** -/
theorem names_afterAll (r : Registry) (actions : List Action) :
    (r.afterAll actions).names ~ r.created actions ++ r.names := by
  induction actions generalizing r with
  | nil => exact List.Perm.refl _
  | cons a actions ih =>
    calc ((r.after a).afterAll actions).names
        ~ (r.after a).created actions ++ (r.after a).names := ih (r.after a)
      _ ~ (r.after a).created actions ++ (r.createdBy a ++ r.names) :=
        (r.names_after a).append_left _
      _ ~ r.createdBy a ++ ((r.after a).created actions ++ r.names) :=
        List.perm_append_comm_assoc _ _ _
      _ ~ r.created (a :: actions) ++ r.names := by rw [created, List.append_assoc]

/-! ## Names that lines can reach -/

/-- A name that is new after a line is a word of the line. -/
theorem mem_words_of_mem_names_process {s : Session} {text : String} {number : Option Nat}
    {n : String} (h : n ∈ (s.process text number).session.registry.names) :
    n ∈ s.registry.names ∨ n ∈ Text.words text := by
  rw [mem_names_iff] at h
  rcases s.get?_process_cases text number n with ⟨hsame, -⟩ | ⟨a, w, hasks, rfl, -⟩
  · rw [hsame] at h
    exact Or.inl (mem_names_iff.mpr h)
  · exact Or.inr (List.mem_of_getElem? hasks.getElem?_one)

/-- A name that is new after some lines is a word of one of them. -/
theorem mem_words_of_mem_names_processAll {s : Session} {lines : List Line} {n : String}
    (h : n ∈ (s.processAll lines).session.registry.names) :
    n ∈ s.registry.names ∨ ∃ line ∈ lines, n ∈ line.words := by
  induction lines generalizing s with
  | nil => exact Or.inl h
  | cons line lines ih =>
    rw [Session.processAll_cons, Reply.session_andThen] at h
    rcases ih h with hn | ⟨other, hother, hn⟩
    · rcases mem_words_of_mem_names_process hn with hn | hn
      · exact Or.inl hn
      · exact Or.inr ⟨line, List.mem_cons_self, hn⟩
    · exact Or.inr ⟨other, List.mem_cons_of_mem _ hother, hn⟩

/-! ## The whole -/

/-- **The names are those of the creations.** Whatever calls are made from no turtles on, the names
are listed in the order of their bytes, they are those of the creations that have succeeded, each of
which has done so once, and they are what can be looked up. From any registry, a creation succeeds
just if the name is not there, an order just if it is, and the error names it. A call that fails has
changed nothing, none has an effect on another name, and no name is ever lost. The names that
lines can reach are words. -/
theorem names_of_creations :
    (∀ actions : List Action,
      ((empty.afterAll actions).names.map Utf8.encode).Pairwise (· < ·) ∧
      (empty.afterAll actions).names ~ empty.created actions ∧
      (empty.created actions).Nodup ∧
      (empty.afterAll actions).size = (empty.created actions).length ∧
      ((empty.afterAll actions).isEmpty = true ↔ (empty.afterAll actions).size = 0) ∧
      (∀ n, (empty.afterAll actions).get? n ≠ none ↔ n ∈ (empty.afterAll actions).names) ∧
      ∀ n t, (empty.afterAll actions).get? n = some t ↔
        (n, t) ∈ (empty.afterAll actions).entries) ∧
    (∀ r : Registry,
      (∀ n, (∃ d, r.perform (.create n) = .ok d) ↔ n ∉ r.names) ∧
      (∀ n o, (∃ d, r.perform (.order n o) = .ok d) ↔ n ∈ r.names) ∧
      (∀ n e, r.perform (.create n) = .error e ↔ n ∈ r.names ∧ e = .alreadyExists n) ∧
      (∀ n o e, r.perform (.order n o) = .error e ↔ n ∉ r.names ∧ e = .doesNotExist n) ∧
      (∀ a e, r.perform a = .error e → r.after a = r) ∧
      (∀ a m, m ≠ a.name → (r.after a).get? m = r.get? m) ∧
      ∀ a, r.names ⊆ (r.after a).names) ∧
    ∀ (lines : List Line) (n : String),
      n ∈ (Session.start.processAll lines).session.registry.names →
        n ≠ "" ∧ ∀ c ∈ n.toList, Text.isBlank c = false := by
  refine ⟨fun actions ↦ ?_, fun r ↦ ?_, fun lines n hn ↦ ?_⟩
  · have hperm : (empty.afterAll actions).names ~ empty.created actions := by
      simpa [names, empty] using empty.names_afterAll actions
    refine ⟨?_, hperm, hperm.nodup_iff.mp (nodup_names _), ?_, isEmpty_iff,
      fun n ↦ mem_names_iff.symm, fun n t ↦ mem_entries_iff.symm⟩
    · exact List.pairwise_map.mpr ((names_increase _).imp Utf8.encode_lt_encode)
    · rw [← length_names]
      exact hperm.length_eq
  · refine ⟨fun n ↦ perform_create_iff, fun n o ↦ perform_order_iff,
      fun n e ↦ perform_create_eq_error_iff, fun n o e ↦ perform_order_eq_error_iff,
      fun a e he ↦ ?_, fun a m ↦ r.get?_after_of_ne, fun a m hm ↦ ?_⟩
    · rw [after, he]
    · exact (r.names_after a).mem_iff.mpr (List.mem_append_right _ hm)
  · rcases mem_words_of_mem_names_processAll hn with hstart | ⟨line, -, hword⟩
    · cases hstart
    · obtain ⟨hne, hblank⟩ := Text.isWord_of_mem_words hword
      exact ⟨fun h ↦ hne (by rw [h]; rfl), hblank⟩

end Registry

end TurtleScript
