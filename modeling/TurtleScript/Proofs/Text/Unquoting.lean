import Mathlib.Data.Nat.Notation
import TurtleScript.Text.Quoted

/-!
# Quoted text is read back

Quoting loses nothing. A reader that goes through a quoted text character by character needs to know
only where it stands (`QuotePlace`) and what has been written so far: a character that was put
behind a backslash or turned into a number is known as soon as its last character has been read
(`foldlM_quotedChar`). So every text is read from what stands between its quotes
(`unquoted?_quoted`).
-/

namespace TurtleScript

namespace Text

/-! ## Reading -/

/-- Where the reader of a quoted text stands. -/
inductive QuotePlace where
  /-- In front of the first quote. -/
  | before
  /-- Among the characters of the text. -/
  | inside
  /-- Behind a backslash. -/
  | escape
  /-- Behind the letter that announces a number. -/
  | brace
  /-- Within a number, of which this much has been read. -/
  | number (n : ℕ)
  /-- Behind the last quote. -/
  | behind
  deriving DecidableEq

/-- The reader of a quoted text. -/
structure Unquoting where
  /-- Where it stands. -/
  place : QuotePlace
  /-- The characters that it has read. -/
  written : List Char

/-- The value of a hexadecimal digit. -/
def hexDigit? (c : Char) : Option ℕ := (List.range 16).find? fun d ↦ Nat.digitChar d = c

/-- The character that a letter behind a backslash stands for. -/
def ofEscape? (c : Char) : Option Char :=
  if c = '"' || c = '\\' then some c
  else if c = 'n' then some '\n'
  else if c = 'r' then some '\r'
  else if c = 't' then some '\t'
  else if c = '0' then some '\x00'
  else none

namespace Unquoting

/-- Go on to another place. -/
def go (u : Unquoting) (place : QuotePlace) : Unquoting := { u with place }

/-- Take a character that has been read. -/
def write (u : Unquoting) (c : Char) : Unquoting := ⟨.inside, u.written ++ [c]⟩

/-- Read a character. -/
def read (u : Unquoting) (c : Char) : Option Unquoting :=
  match u.place with
  | .before => if c = '"' then some (u.go .inside) else none
  | .inside =>
    if c = '"' then some (u.go .behind)
    else if c = '\\' then some (u.go .escape)
    else some (u.write c)
  | .escape => if c = 'u' then some (u.go .brace) else (ofEscape? c).map u.write
  | .brace => if c = '\x7b' then some (u.go (.number 0)) else none
  | .number n =>
    if c = '\x7d' then some (u.write (Char.ofNat n))
    else (hexDigit? c).map fun d ↦ u.go (.number (16 * n + d))
  | .behind => none

end Unquoting

/-- The text that a quoted text shows. -/
def unquoted? (t : String) : Option String := do
  let u ← t.toList.foldlM Unquoting.read ⟨.before, []⟩
  if u.place = .behind then some (String.ofList u.written) else none

/-- Read on from where some characters have led. -/
theorem Unquoting.foldlM_append {u v : Unquoting} {cs : List Char}
    (h : cs.foldlM Unquoting.read u = some v) (ds : List Char) :
    (cs ++ ds).foldlM Unquoting.read u = ds.foldlM Unquoting.read v := by
  rw [List.foldlM_append, h, Option.bind_eq_bind, Option.bind_some]

/-! ## Numbers -/

theorem hexDigit?_digitChar {d : ℕ} (hd : d < 16) : hexDigit? (Nat.digitChar d) = some d := by
  have h : ∀ d < 16, hexDigit? (Nat.digitChar d) = some d := by decide
  exact h d hd

theorem read_digitChar (written : List Char) (n : ℕ) {d : ℕ} (hd : d < 16) :
    Unquoting.read ⟨.number n, written⟩ (Nat.digitChar d) =
      some ⟨.number (16 * n + d), written⟩ := by
  have hbrace : ∀ d < 16, Nat.digitChar d ≠ '\x7d' := by decide
  simp only [Unquoting.read, if_neg (hbrace d hd), hexDigit?_digitChar hd, Option.map_some,
    Unquoting.go]

/-- The digits of a number are read as the number. -/
theorem foldlM_toDigits (written : List Char) (n : ℕ) :
    (Nat.toDigits 16 n).foldlM Unquoting.read ⟨.number 0, written⟩ =
      some ⟨.number n, written⟩ := by
  induction n using Nat.strongRecOn with
  | ind n ih =>
    by_cases hn : n < 16
    · rw [Nat.toDigits_of_lt_base hn, List.foldlM_cons, read_digitChar written 0 hn, Nat.mul_zero,
        Nat.zero_add]
      rfl
    · have hlast : n % 16 < 16 := Nat.mod_lt n (by decide)
      rw [Nat.toDigits_of_base_le (by decide) (Nat.le_of_not_lt hn),
        Unquoting.foldlM_append (ih (n / 16) (by omega)), List.foldlM_cons,
        read_digitChar written _ hlast, Nat.div_add_mod]
      rfl

/-! ## Characters -/

/-- **A character is read back.** -/
theorem foldlM_quotedChar (written : List Char) (c : Char) :
    (quotedChar c).foldlM Unquoting.read ⟨.inside, written⟩ =
      some ⟨.inside, written ++ [c]⟩ := by
  rw [quotedChar]
  split
  next h =>
    rw [Bool.or_eq_true, decide_eq_true_iff, decide_eq_true_iff] at h
    rcases h with rfl | rfl <;> rfl
  next hmark =>
    split
    next h => rw [h]; rfl
    split
    next h => rw [h]; rfl
    split
    next h => rw [h]; rfl
    split
    next h => rw [h]; rfl
    split
    next =>
      have hopen : ['\\', 'u', '\x7b'].foldlM Unquoting.read ⟨.inside, written⟩ =
          some ⟨.number 0, written⟩ := rfl
      have hclose : ['\x7d'].foldlM Unquoting.read ⟨.number c.toNat, written⟩ =
          some ⟨.inside, written ++ [Char.ofNat c.toNat]⟩ := rfl
      rw [byNumber, List.append_assoc, Unquoting.foldlM_append hopen,
        Unquoting.foldlM_append (foldlM_toDigits written c.toNat), hclose, Char.ofNat_toNat]
    next =>
      rw [Bool.or_eq_true, decide_eq_true_iff, decide_eq_true_iff, not_or] at hmark
      have hread : Unquoting.read ⟨.inside, written⟩ c = some ⟨.inside, written ++ [c]⟩ := by
        simp only [Unquoting.read, if_neg hmark.1, if_neg hmark.2, Unquoting.write]
      rw [List.foldlM_cons, hread]
      rfl

theorem foldlM_flatMap_quotedChar (written cs : List Char) :
    (cs.flatMap quotedChar).foldlM Unquoting.read ⟨.inside, written⟩ =
      some ⟨.inside, written ++ cs⟩ := by
  induction cs generalizing written with
  | nil =>
    rw [List.append_nil]
    rfl
  | cons c cs ih =>
    rw [List.flatMap_cons, Unquoting.foldlM_append (foldlM_quotedChar written c), ih,
      List.append_assoc, List.singleton_append]

/-- **Quoted text is read back.** -/
theorem unquoted?_quoted (s : String) : unquoted? (quoted s) = some s := by
  have hopen : ['"'].foldlM Unquoting.read ⟨.before, []⟩ = some ⟨.inside, []⟩ := rfl
  have hclose : ['"'].foldlM Unquoting.read ⟨.inside, s.toList⟩ = some ⟨.behind, s.toList⟩ := rfl
  have hread : (quoted s).toList.foldlM Unquoting.read ⟨.before, []⟩ =
      some ⟨.behind, s.toList⟩ := by
    rw [quoted, String.toList_ofList, ← List.singleton_append, List.append_assoc,
      Unquoting.foldlM_append hopen, Unquoting.foldlM_append (foldlM_flatMap_quotedChar [] _),
      List.nil_append, hclose]
  simp only [unquoted?, hread, Option.bind_eq_bind, Option.bind_some, if_true, String.ofList_toList]

end Text

end TurtleScript
