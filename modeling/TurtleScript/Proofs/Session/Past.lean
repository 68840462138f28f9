import Mathlib.Data.List.Induction
import TurtleScript.Proofs.Session.Lines

/-!
# The past of a turtle

Pen and colour of a turtle can be read off the lines of the past. Only the lines after the first
that creates the turtle count, since no line before it can reach the turtle and no line ever creates
it again. Of these the last that says anything of the pen decides about the pen, and the
last that says anything of the colour about the colour (`remembers_processAll`).

What a line says is a matter of its words alone, whether or not it succeeds. This is sound because
after the creation nothing that is said in this way can fail.
-/

namespace TurtleScript

/-! ## What lines say -/

/-- The part `since` of a past after the first line that creates a turtle of the name. -/
def Since (n : String) (past since : List (List String)) : Prop :=
  ∃ before, past = before ++ ["turtle", n] :: since ∧ ["turtle", n] ∉ before

/-- What a line says of the pen of a turtle: whether it is to be down. -/
def penSaid (n : String) (ws : List String) : Option Bool :=
  if ws = ["pen", n, "down"] then some true
  else if ws = ["pen", n, "up"] then some false
  else none

/-- What a line says of the colour of a turtle: a name of the palette. -/
def colourSaid (n : String) (ws : List String) : Option Colour :=
  Colour.palette.find? fun c ↦ ws = ["colour", n, c.name]

/-- What the last of some lines that says anything says, or else an initial value. -/
def lastSaid {α : Type} (said : List String → Option α) (initial : α)
    (lines : List (List String)) : α := (lines.filterMap said).getLast?.getD initial

theorem Since.unique {n : String} {past since since' : List (List String)}
    (h : Since n past since) (h' : Since n past since') : since = since' := by
  obtain ⟨before, hpast, hbefore⟩ := h
  obtain ⟨before', hpast', hbefore'⟩ := h'
  -- Neither part before may hold the line that creates the turtle, so both end with the same line.
  induction before generalizing past before' with
  | nil =>
    cases before' with
    | nil =>
      rw [hpast] at hpast'
      exact (List.cons.inj hpast').2
    | cons ws before' =>
      rw [hpast] at hpast'
      rw [← (List.cons.inj hpast').1] at hbefore'
      exact absurd List.mem_cons_self hbefore'
  | cons ws before ih =>
    cases before' with
    | nil =>
      rw [hpast] at hpast'
      rw [(List.cons.inj hpast').1] at hbefore
      exact absurd List.mem_cons_self hbefore
    | cons ws' before' =>
      rw [hpast] at hpast'
      exact ih rfl (fun hmem ↦ hbefore (List.mem_cons_of_mem _ hmem)) before'
        (List.cons.inj hpast').2 fun hmem ↦ hbefore' (List.mem_cons_of_mem _ hmem)

theorem Since.mem {n : String} {past since : List (List String)} (h : Since n past since) :
    ["turtle", n] ∈ past := by
  obtain ⟨before, rfl, -⟩ := h
  exact List.mem_append_right _ List.mem_cons_self

theorem Since.concat {n : String} {past since : List (List String)} (h : Since n past since)
    (ws : List String) : Since n (past ++ [ws]) (since ++ [ws]) := by
  obtain ⟨before, rfl, hbefore⟩ := h
  exact ⟨before, by simp, hbefore⟩

theorem lastSaid_concat {α : Type} (said : List String → Option α) (initial : α)
    (lines : List (List String)) (ws : List String) :
    lastSaid said initial (lines ++ [ws]) = (said ws).getD (lastSaid said initial lines) := by
  rw [lastSaid, List.filterMap_append]
  cases h : said ws with
  | none => simp [h, lastSaid]
  | some a => simp [h]

/-! ## Saying and asking

What is said of a pen or a colour is what the line asks for, if it asks a turtle for a change of
them. -/

/-- What an order says of the pen. -/
def Order.pen? : Order → Option Bool
  | .setPen down => some down
  | _ => none

/-- What an order says of the colour. -/
def Order.colour? : Order → Option Colour
  | .setColour c => some c
  | _ => none

theorem Turtle.penDown_follow (t : Turtle) (order : Order) :
    (t.follow order).penDown = order.pen?.getD t.penDown := by
  cases order <;> rfl

theorem Turtle.colour_follow (t : Turtle) (order : Order) :
    (t.follow order).colour = order.colour?.getD t.colour := by
  cases order <;> rfl

theorem penSaid_of_asks {n : String} {ws : List String} {order : Order}
    (h : Asks ws (.act (.order n order))) : penSaid n ws = order.pen? := by
  cases h with
  | pen n down => cases down <;> simp [penSaid, penWord, Order.pen?]
  | _ => simp [penSaid, Order.pen?]

theorem colourSaid_of_asks {n : String} {ws : List String} {order : Order}
    (h : Asks ws (.act (.order n order))) : colourSaid n ws = order.colour? := by
  cases h with
  | colour n c => cases c <;> simp [colourSaid, Colour.palette, Colour.name, Order.colour?]
  | _ => simp [colourSaid, Colour.palette, Order.colour?]

theorem asks_of_penSaid {n : String} {ws : List String} {down : Bool}
    (h : penSaid n ws = some down) : Asks ws (.act (.order n (.setPen down))) := by
  rw [penSaid] at h
  split at h
  next hws =>
    cases h
    exact hws ▸ .pen n true
  next =>
    split at h
    next hws =>
      cases h
      exact hws ▸ .pen n false
    next => cases h

theorem asks_of_colourSaid {n : String} {ws : List String} {c : Colour}
    (h : colourSaid n ws = some c) : Asks ws (.act (.order n (.setColour c))) := by
  have hws : ws = ["colour", n, c.name] := by simpa using List.find?_some h
  exact hws ▸ .colour n c

/-! ## The invariant -/

/-- A past accounts for what stands under a name. -/
inductive Remembers (n : String) (past : List (List String)) : Option Turtle → Prop where
  | absent (h : ["turtle", n] ∉ past) : Remembers n past none
  | present {since : List (List String)} {t : Turtle} (h : Since n past since)
    (hpen : t.penDown = lastSaid (penSaid n) true since)
    (hcolour : t.colour = lastSaid (colourSaid n) .blue since) : Remembers n past (some t)

/-- A line after which the turtle is what it was, as it could do nothing that the line asks for. -/
theorem Remembers.idle {n : String} {past : List (List String)} {t? : Option Turtle}
    {ws : List String} (h : Remembers n past t?)
    (hidle : ∀ a w, Asks ws (.act a) → a.name = n → a.work t? ≠ .ok w) :
    Remembers n (past ++ [ws]) t? := by
  cases h with
  | absent h =>
    refine .absent fun hmem ↦ ?_
    rcases List.mem_append.mp hmem with hmem | hmem
    · exact h hmem
    · rw [List.mem_singleton] at hmem
      exact hidle (.create n) _ (hmem ▸ .create n) rfl rfl
  | present h hpen hcolour =>
    have hsilent : ∀ order, ¬Asks ws (.act (.order n order)) := fun order ha ↦ hidle _ _ ha rfl rfl
    have hpen' : penSaid n ws = none :=
      Option.eq_none_iff_forall_ne_some.mpr fun _ hp ↦ hsilent _ (asks_of_penSaid hp)
    have hcolour' : colourSaid n ws = none :=
      Option.eq_none_iff_forall_ne_some.mpr fun _ hc ↦ hsilent _ (asks_of_colourSaid hc)
    refine .present (h.concat ws) ?_ ?_
    · rw [lastSaid_concat, hpen', hpen, Option.getD_none]
    · rw [lastSaid_concat, hcolour', hcolour, Option.getD_none]

/-- A line that asks for an action which has been done. -/
theorem Remembers.done {past : List (List String)} {t? : Option Turtle} {ws : List String}
    {a : Action} {w : Work} (h : Remembers a.name past t?) (ha : Asks ws (.act a))
    (hd : a.work t? = .ok w) : Remembers a.name (past ++ [ws]) (some w.turtle) := by
  cases h with
  | absent h =>
    cases a with
    | order n order => cases hd
    | create n =>
      rw [Action.work, Except.ok.injEq] at hd
      rw [← hd]
      generalize ha' : Request.act (.create n) = q at ha
      cases ha with
      | create m =>
        cases ha'
        exact .present ⟨past, rfl, h⟩ rfl rfl
      | _ => cases ha'
  | present h hpen hcolour =>
    cases a with
    | create n => cases hd
    | order n order =>
      cases hd
      refine .present (h.concat ws) ?_ ?_
      · rw [Turtle.penDown_follow, lastSaid_concat, Action.name, penSaid_of_asks ha, hpen,
          Action.name]
      · rw [Turtle.colour_follow, lastSaid_concat, Action.name, colourSaid_of_asks ha, hcolour,
          Action.name]

/-- **The step.** Taking a line keeps account of every name. -/
theorem Remembers.process {n : String} {past : List (List String)} {s : Session}
    (h : Remembers n past (s.registry.get? n)) (text : String) (number : Option Nat) :
    Remembers n (past ++ [Text.words text])
      ((s.process text number).session.registry.get? n) := by
  rcases s.get?_process_cases text number n with ⟨hsame, hidle⟩ | ⟨a, w, ha, rfl, hd, hget⟩
  · rw [hsame]
    exact h.idle hidle
  · rw [hget]
    exact h.done ha hd

/-- **The run.** The lines taken so far account for every name. -/
theorem remembers_processAll (n : String) (lines : List Line) :
    Remembers n (lines.map Line.words)
      ((Session.start.processAll lines).session.registry.get? n) := by
  -- The past grows at its end, so the last line is the one that is taken off.
  induction lines using List.reverseRecOn with
  | nil => exact .absent (by simp)
  | append_singleton lines line ih =>
    rw [Session.processAll_concat, Reply.session_andThen, List.map_append]
    exact ih.process line.1 line.2

end TurtleScript
