import TurtleScript.Turtle

/-!
# The registry of turtles

Every turtle has a name of its own. The registry lists them in the order of their names, by code
point and so by the bytes of their UTF-8 form as well.

## Representation

The list is strictly increasing in its names, which the type keeps as a proof. So there is one
registry for every set of named turtles: two registries with the same lookups are equal
(`Registry.ext_get?`), however they came about.
-/

namespace TurtleScript

/-- Entries with strictly increasing names. -/
def NamesIncrease (entries : List (String × Turtle)) : Prop :=
  entries.Pairwise fun a b ↦ a.1 < b.1

/-- The named turtles. -/
structure Registry where
  /-- The names and turtles. -/
  entries : List (String × Turtle)
  /-- The names are in order, and none occurs twice. -/
  sorted : NamesIncrease entries

namespace Registry

instance : DecidableEq Registry := fun a b ↦
  decidable_of_iff (a.entries = b.entries)
    ⟨fun h ↦ by cases a; cases b; cases h; rfl, fun h ↦ h ▸ rfl⟩

/-- No turtles. -/
def empty : Registry := ⟨[], List.Pairwise.nil⟩

/-! ## Entries -/

/-- The turtle of a name in a list of entries. -/
def lookup (name : String) : List (String × Turtle) → Option Turtle
  | [] => none
  | entry :: entries => if entry.1 = name then some entry.2 else lookup name entries

/-- Put a turtle under a name, in its place and instead of the one that has the name. -/
def putEntry (name : String) (turtle : Turtle) : List (String × Turtle) → List (String × Turtle)
  | [] => [(name, turtle)]
  | entry :: entries =>
    if name < entry.1 then (name, turtle) :: entry :: entries
    else if name = entry.1 then (name, turtle) :: entries
    else entry :: putEntry name turtle entries

theorem mem_putEntry {name : String} {turtle : Turtle} {e : String × Turtle}
    {entries : List (String × Turtle)} (h : e ∈ putEntry name turtle entries) :
    e = (name, turtle) ∨ e ∈ entries := by
  induction entries with
  | nil => simpa [putEntry] using h
  | cons entry entries ih =>
    rw [putEntry] at h
    split at h
    · simpa using h
    · split at h
      · rcases List.mem_cons.mp h with rfl | h
        · exact Or.inl rfl
        · exact Or.inr (List.mem_cons_of_mem _ h)
      · rcases List.mem_cons.mp h with rfl | h
        · exact Or.inr List.mem_cons_self
        · exact (ih h).imp_right (List.mem_cons_of_mem _)

theorem namesIncrease_putEntry (name : String) (turtle : Turtle) {entries : List (String × Turtle)}
    (h : NamesIncrease entries) : NamesIncrease (putEntry name turtle entries) := by
  induction entries with
  | nil => exact List.pairwise_singleton _ _
  | cons entry entries ih =>
    obtain ⟨hhead, htail⟩ := List.pairwise_cons.mp h
    rw [putEntry]
    split
    · rename_i hlt
      refine List.pairwise_cons.mpr ⟨fun e he ↦ ?_, h⟩
      rcases List.mem_cons.mp he with rfl | he
      · exact hlt
      · exact String.lt_trans hlt (hhead e he)
    · rename_i hnlt
      split
      · rename_i heq
        exact List.pairwise_cons.mpr ⟨fun e he ↦ heq ▸ hhead e he, htail⟩
      · rename_i hne
        refine List.pairwise_cons.mpr ⟨fun e he ↦ ?_, ih htail⟩
        rcases mem_putEntry he with rfl | he
        · exact String.not_le.mp fun hle ↦ hne (String.le_antisymm hle (String.not_lt.mp hnlt))
        · exact hhead e he

theorem lookup_putEntry_self (name : String) (turtle : Turtle) (entries : List (String × Turtle)) :
    lookup name (putEntry name turtle entries) = some turtle := by
  induction entries with
  | nil => simp [putEntry, lookup]
  | cons entry entries ih =>
    rw [putEntry]
    split
    · simp [lookup]
    · split
      · simp [lookup]
      · rename_i hne
        simp [lookup, Ne.symm hne, ih]

theorem lookup_putEntry_of_ne {name other : String} (turtle : Turtle) (h : name ≠ other)
    (entries : List (String × Turtle)) :
    lookup other (putEntry name turtle entries) = lookup other entries := by
  induction entries with
  | nil => simp [putEntry, lookup, h]
  | cons entry entries ih =>
    rw [putEntry]
    split
    · simp [lookup, h]
    · split
      · rename_i heq
        simp [lookup, h, ← heq]
      · simp [lookup, ih]

theorem mem_of_lookup {name : String} {turtle : Turtle} {entries : List (String × Turtle)}
    (h : lookup name entries = some turtle) : (name, turtle) ∈ entries := by
  induction entries with
  | nil => simp [lookup] at h
  | cons entry entries ih =>
    rw [lookup] at h
    split at h
    · rename_i hname
      cases h
      exact hname ▸ List.mem_cons_self
    · exact List.mem_cons_of_mem _ (ih h)

theorem lookup_of_mem {name : String} {turtle : Turtle} {entries : List (String × Turtle)}
    (hsorted : NamesIncrease entries) (h : (name, turtle) ∈ entries) :
    lookup name entries = some turtle := by
  induction entries with
  | nil => simp at h
  | cons entry entries ih =>
    obtain ⟨hhead, htail⟩ := List.pairwise_cons.mp hsorted
    rcases List.mem_cons.mp h with rfl | h
    · simp [lookup]
    · have hlt : entry.1 < name := hhead _ h
      have hne : entry.1 ≠ name := fun heq ↦ String.lt_irrefl name (heq ▸ hlt)
      rw [lookup, if_neg hne]
      exact ih htail h

/-! ## Operations -/

/-- The turtle of a name. -/
def get? (r : Registry) (name : String) : Option Turtle := lookup name r.entries

/-- Put a turtle under a name, instead of the one that has it. -/
def put (r : Registry) (name : String) (turtle : Turtle) : Registry where
  entries := putEntry name turtle r.entries
  sorted := namesIncrease_putEntry name turtle r.sorted

/-- The names, in order. -/
def names (r : Registry) : List String := r.entries.map Prod.fst

/-- How many turtles there are. -/
def size (r : Registry) : Nat := r.entries.length

/-- Whether there are no turtles. -/
def isEmpty (r : Registry) : Bool := r.entries.isEmpty

/-- The same names with turtles that are equal as numbers compare. -/
def same (r s : Registry) : Bool :=
  r.names == s.names && (r.entries.zip s.entries).all fun p ↦ p.1.2.same p.2.2

@[simp] theorem get?_empty (name : String) : empty.get? name = none := rfl

@[simp] theorem get?_put_self (r : Registry) (name : String) (turtle : Turtle) :
    (r.put name turtle).get? name = some turtle :=
  lookup_putEntry_self name turtle r.entries

theorem get?_put_of_ne (r : Registry) {name other : String} (turtle : Turtle) (h : name ≠ other) :
    (r.put name turtle).get? other = r.get? other :=
  lookup_putEntry_of_ne turtle h r.entries

/-- An entry is what the lookup of its name finds. -/
theorem mem_entries_iff {r : Registry} {name : String} {turtle : Turtle} :
    (name, turtle) ∈ r.entries ↔ r.get? name = some turtle :=
  ⟨lookup_of_mem r.sorted, mem_of_lookup⟩

private theorem eq_of_mem_iff {a b : List (String × Turtle)} (ha : NamesIncrease a)
    (hb : NamesIncrease b) (h : ∀ e, e ∈ a ↔ e ∈ b) : a = b := by
  induction a generalizing b with
  | nil =>
    cases b with
    | nil => rfl
    | cons e b => exact absurd ((h e).mpr List.mem_cons_self) (by simp)
  | cons d a ih =>
    cases b with
    | nil => exact absurd ((h d).mp List.mem_cons_self) (by simp)
    | cons e b =>
      obtain ⟨hd, hatail⟩ := List.pairwise_cons.mp ha
      obtain ⟨he, hbtail⟩ := List.pairwise_cons.mp hb
      have hde : d = e := by
        rcases List.mem_cons.mp ((h d).mp List.mem_cons_self) with hde | hdb
        · exact hde
        · rcases List.mem_cons.mp ((h e).mpr List.mem_cons_self) with hed | hea
          · exact hed.symm
          · exact absurd (String.lt_trans (hd e hea) (he d hdb)) (String.lt_irrefl _)
      subst hde
      have hab : a = b := by
        refine ih hatail hbtail fun x ↦ ⟨fun hx ↦ ?_, fun hx ↦ ?_⟩
        · rcases List.mem_cons.mp ((h x).mp (List.mem_cons_of_mem _ hx)) with rfl | hx'
          · exact absurd (hd x hx) (String.lt_irrefl _)
          · exact hx'
        · rcases List.mem_cons.mp ((h x).mpr (List.mem_cons_of_mem _ hx)) with rfl | hx'
          · exact absurd (he x hx) (String.lt_irrefl _)
          · exact hx'
      rw [hab]

/-- **One registry for every set of named turtles.** -/
theorem ext_get? {r s : Registry} (h : ∀ name, r.get? name = s.get? name) : r = s := by
  have hentries : r.entries = s.entries :=
    eq_of_mem_iff r.sorted s.sorted fun e ↦ by
      rw [mem_entries_iff, mem_entries_iff, h]
  cases r; cases s; cases hentries; rfl

end Registry

end TurtleScript
