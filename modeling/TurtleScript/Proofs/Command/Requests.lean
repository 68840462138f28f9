import TurtleScript.Command.Operation

/-!
# What an invocation asks for

Two tables speak of the arguments of an operation: the signatures, by which the words of a line are
read, and the requests, by which an invocation is carried out. The second is restated here as one
rule for each operation (`Requests`), and arguments are split into cases by these rules. The tables
agree: an invocation asks for something just if its arguments are of the kinds of the signature
(`Invocation.fits_iff`), even if no line can write them.
-/

namespace TurtleScript

/-- An operation with its arguments asks for something. -/
inductive Requests : Operation → List Argument → Request → Prop where
  | create (n : String) : Requests .turtle [.name n] (.act (.create n))
  | move (n : String) (d : Binary64) :
    Requests .move [.name n, .distance d] (.act (.order n (.move d)))
  | left (n : String) (a : Binary64) :
    Requests .left [.name n, .degrees a] (.act (.order n (.turnLeft a)))
  | right (n : String) (a : Binary64) :
    Requests .right [.name n, .degrees a] (.act (.order n (.turnRight a)))
  | pen (n : String) (down : Bool) :
    Requests .pen [.name n, .penState down] (.act (.order n (.setPen down)))
  | colour (n : String) (c : Colour) :
    Requests .colour [.name n, .colour c] (.act (.order n (.setColour c)))
  | quit : Requests .quit [] .quit

namespace Requests

variable {op : Operation} {arguments : List Argument}

/-- What asks for something has the kinds of the signature. -/
theorem map_kind {q : Request} (h : Requests op arguments q) :
    arguments.map Argument.kind = op.signature := by
  cases h <;> rfl

private theorem exists_name_cons {kinds : List ArgumentKind}
    (h : arguments.map Argument.kind = .name :: kinds) :
    ∃ n rest, arguments = .name n :: rest ∧ rest.map Argument.kind = kinds := by
  obtain ⟨a, rest, rfl, ha, hrest⟩ := List.map_eq_cons_iff.mp h
  cases a <;> cases ha
  exact ⟨_, rest, rfl, hrest⟩

/-- What has the kinds of the signature asks for something. -/
theorem exists_of_map_kind (h : arguments.map Argument.kind = op.signature) :
    ∃ q, Requests op arguments q := by
  cases op with
  | turtle =>
    obtain ⟨n, rest, rfl, hrest⟩ := exists_name_cons h
    obtain rfl := List.map_eq_nil_iff.mp hrest
    exact ⟨_, .create n⟩
  | quit =>
    obtain rfl := List.map_eq_nil_iff.mp h
    exact ⟨_, .quit⟩
  | _ =>
    -- All other operations take a name and one argument more, whose kind decides its constructor.
    obtain ⟨n, rest, rfl, hrest⟩ := exists_name_cons h
    obtain ⟨a, more, rfl, ha, hmore⟩ := List.map_eq_cons_iff.mp hrest
    obtain rfl := List.map_eq_nil_iff.mp hmore
    cases a <;> cases ha
    exact ⟨_, by constructor⟩

end Requests

namespace Invocation

theorem request?_eq_some_iff {i : Invocation} {q : Request} :
    i.request? = some q ↔ Requests i.operation i.arguments q := by
  obtain ⟨command, operation, arguments⟩ := i
  constructor
  · intro h
    simp only [request?] at h
    split at h
    all_goals cases h
    all_goals constructor
  · intro h
    cases h <;> rfl

/-- **The two tables agree.** -/
theorem fits_iff {i : Invocation} : i.Fits ↔ ∃ q, i.request? = some q := by
  simp only [request?_eq_some_iff]
  exact ⟨Requests.exists_of_map_kind, fun ⟨_, h⟩ ↦ h.map_kind⟩

/-! ## The command to stop -/

theorem request?_eq_quit_iff {i : Invocation} :
    i.request? = some .quit ↔ i.operation = .quit ∧ i.arguments = [] := by
  rw [request?_eq_some_iff]
  generalize i.operation = op, i.arguments = arguments
  constructor
  · rintro ⟨⟩
    exact ⟨rfl, rfl⟩
  · rintro ⟨rfl, rfl⟩
    exact .quit

/-- Only the operation to stop asks to stop. -/
theorem operation_eq_quit_iff {i : Invocation} {q : Request} (h : i.request? = some q) :
    i.operation = .quit ↔ q = .quit := by
  rw [request?_eq_some_iff] at h
  generalize i.operation = op, i.arguments = arguments at h ⊢
  cases h <;> simp

/-! ## Names -/

/-- The invocation names a turtle. -/
def Names (i : Invocation) (n : String) : Prop := i.arguments.head? = some (.name n)

/-- What is asked of a turtle is asked of the one that is named. -/
theorem names_iff_of_act {i : Invocation} {a : Action} (h : i.request? = some (.act a))
    {n : String} : i.Names n ↔ a.name = n := by
  rw [request?_eq_some_iff] at h
  rw [Names]
  generalize i.operation = op, i.arguments = arguments at h ⊢
  cases h <;> simp [Action.name]

/-- The command to stop names nobody. -/
theorem not_names_of_quit {i : Invocation} (h : i.request? = some .quit) (n : String) :
    ¬i.Names n := by
  rw [Names, (request?_eq_quit_iff.mp h).2]
  simp

/-- Only one operation asks for a new turtle. -/
theorem operation_eq_turtle_iff {i : Invocation} {a : Action} (h : i.request? = some (.act a)) :
    i.operation = .turtle ↔ a = .create a.name := by
  rw [request?_eq_some_iff] at h
  generalize i.operation = op, i.arguments = arguments at h ⊢
  cases h <;> simp [Action.name]

end Invocation

end TurtleScript
