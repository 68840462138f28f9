import TurtleScript.Text.ClusterClass

/-!
# Clusters

A text is cut into extended grapheme clusters, the pieces that a reader takes for characters. The
cut is made from left to right, and whether the next character joins the cluster before it depends
on what the text so far ends in (`Ending`). Nothing is lost by cutting (`flatten_clusters`).
-/

namespace TurtleScript

namespace Text

/-- How far consonants have been linked at the end of a text. -/
inductive Conjunct where
  /-- There is no consonant to link to. -/
  | none
  /-- There is one, and no linker after it. -/
  | consonant
  /-- There is one, and a linker after it. -/
  | linked
  deriving DecidableEq

/-- What the end of a text says about the next character. -/
structure Ending where
  /-- The class of the last character. -/
  last : ClusterClass
  /-- The last characters are a pictograph, extenders and at most one joiner at the very end. -/
  pictograph : Bool
  /-- An odd number of indicators stands at the end. -/
  halfFlag : Bool
  /-- How far consonants have been linked. -/
  conjunct : Conjunct

namespace Ending

/-- Whether a character of the given class joins the cluster before it. -/
def joins (e : Ending) (c : ClusterClass) : Bool :=
  if e.last.isControl || c.isControl then e.last = .carriageReturn && c = .newline
  else
    c.extendsCluster || e.last = .prepended || e.last.continuesSyllable c ||
      (c = .consonant && e.conjunct = .linked) ||
      (c = .pictograph && e.last = .joiner && e.pictograph) ||
      (c = .indicator && e.halfFlag)

/-- Whether the text ends in an extended pictograph after one more character. -/
def nextPictograph (e : Ending) : ClusterClass → Bool
  | .pictograph => true
  | .extender | .linker | .nonJoiner | .joiner => e.pictograph && e.last ≠ .joiner
  | _ => false

/-- How far consonants are linked after one more character. -/
def nextConjunct (e : Ending) : ClusterClass → Conjunct
  | .consonant => .consonant
  | .linker => if e.conjunct = .none then .none else .linked
  | .extender | .joiner => e.conjunct
  | _ => .none

/-- The end of a text after one more character. -/
def push (e : Ending) (c : ClusterClass) : Ending where
  last := c
  pictograph := e.nextPictograph c
  halfFlag := c = .indicator && !e.halfFlag
  conjunct := e.nextConjunct c

/-- The end of the empty text, which nothing joins. -/
def empty : Ending := ⟨.control, false, false, .none⟩

end Ending

/-- What is left of the cluster at the end of a text, and the clusters after it, once more
characters have followed the text. -/
def clustersFrom (e : Ending) : List Char → List Char × List (List Char)
  | [] => ([], [])
  | c :: cs =>
    let rest := clustersFrom (e.push (.ofChar c)) cs
    if e.joins (.ofChar c) then (c :: rest.1, rest.2) else ([], (c :: rest.1) :: rest.2)

/-- The clusters of a text. -/
def clusters (cs : List Char) : List (List Char) := (clustersFrom .empty cs).2

theorem append_flatten_clustersFrom (e : Ending) (cs : List Char) :
    (clustersFrom e cs).1 ++ (clustersFrom e cs).2.flatten = cs := by
  induction cs generalizing e with
  | nil => rfl
  | cons c cs ih =>
    simp only [clustersFrom]
    split
    · exact congrArg (c :: ·) (ih _)
    · exact congrArg (c :: ·) (ih _)

theorem clustersFrom_empty_fst (cs : List Char) : (clustersFrom .empty cs).1 = [] := by
  cases cs with
  | nil => rfl
  | cons c cs =>
    have hjoins : Ending.empty.joins (.ofChar c) = false := by
      simp [Ending.joins, Ending.empty, ClusterClass.isControl]
    simp [clustersFrom, hjoins]

/-- **Nothing is lost by cutting.** -/
theorem flatten_clusters (cs : List Char) : (clusters cs).flatten = cs := by
  have h := append_flatten_clustersFrom .empty cs
  rwa [clustersFrom_empty_fst, List.nil_append] at h

end Text

end TurtleScript
