/-!
# Reading bytes as UTF-8

Bytes are decoded by a machine that takes one byte at a time and holds at most one unfinished
sequence. An item of its output is a character, or `none` for a piece that is no character: the
longest beginning of a valid sequence that is not completed, or else a single byte. Reading
leniently puts U+FFFD in the place of every such piece; reading strictly refuses them.

The machine never holds anything at a byte below 80, so bytes may be cut after a newline and the
parts decoded on their own.
-/

namespace TurtleScript

/-- A row of bytes: the content of a file, a path or an argument. -/
abbrev Bytes := List UInt8

namespace Utf8

/-- What the machine holds between two bytes. -/
inductive State where
  /-- Nothing: the next byte starts a character. -/
  | ready
  /-- An unfinished sequence that needs `more + 1` more bytes. The next one must lie between `low`
  and `high`, and `bits` are those read so far. -/
  | pending (more : Nat) (low high : UInt8) (bits : Nat)
  deriving DecidableEq

/-- What the machine does with a byte when it holds nothing. The bounds keep out overlong forms,
surrogates and everything past the last code point. -/
def start (b : UInt8) : State × List (Option Char) :=
  if b < 0x80 then (.ready, [some (Char.ofNat b.toNat)])
  else if b < 0xC2 then (.ready, [none])
  else if b < 0xE0 then (.pending 0 0x80 0xBF (b.toNat - 0xC0), [])
  else if b < 0xF0 then
    let low := if b = 0xE0 then 0xA0 else 0x80
    let high := if b = 0xED then 0x9F else 0xBF
    (.pending 1 low high (b.toNat - 0xE0), [])
  else if b < 0xF5 then
    let low := if b = 0xF0 then 0x90 else 0x80
    let high := if b = 0xF4 then 0x8F else 0xBF
    (.pending 2 low high (b.toNat - 0xF0), [])
  else (.ready, [none])

/-- One byte: the state after it, and what can be told now. -/
def next : State → UInt8 → State × List (Option Char)
  | .ready, b => start b
  | .pending more low high bits, b =>
    if low ≤ b ∧ b ≤ high then
      let bits := bits * 64 + (b.toNat - 0x80)
      match more with
      | 0 => (.ready, [some (Char.ofNat bits)])
      | more + 1 => (.pending more 0x80 0xBF bits, [])
    else
      let (state, items) := start b
      (state, none :: items)

/-- What the end of the bytes adds. -/
def flush : State → List (Option Char)
  | .ready => []
  | .pending .. => [none]

/-- The items of some bytes, from a state on. -/
def decodeFrom : State → Bytes → List (Option Char)
  | state, [] => flush state
  | state, b :: bs => (next state b).2 ++ decodeFrom (next state b).1 bs

/-- The items of some bytes. -/
def decode (bytes : Bytes) : List (Option Char) := decodeFrom .ready bytes

/-- The character that stands for a piece that is no character. -/
def replacement : Char := '\uFFFD'

/-- Read leniently. -/
def lossy (bytes : Bytes) : String :=
  String.ofList ((decode bytes).map fun item ↦ item.getD replacement)

/-- Read strictly: only if every piece is a character. -/
def strict? (bytes : Bytes) : Option String :=
  if (decode bytes).all Option.isSome then some (lossy bytes) else none

/-- The bytes of a text. -/
def encode (s : String) : Bytes := s.toUTF8.toList

/-- The newline byte. -/
def newline : UInt8 := 10

/-- Put a byte in front of the first line. -/
def pushByte (b : UInt8) (lines : List Bytes) : List Bytes :=
  if b = newline then [b] :: lines
  else
    match lines with
    | [] => [[b]]
    | line :: lines => (b :: line) :: lines

/-- Cut bytes into lines. Each line but the last ends with its newline; the last one may lack it,
and is not empty. -/
def lines (bytes : Bytes) : List Bytes := bytes.foldr pushByte []

@[simp] theorem decodeFrom_nil (state : State) : decodeFrom state [] = flush state := rfl

@[simp] theorem decodeFrom_cons (state : State) (b : UInt8) (bs : Bytes) :
    decodeFrom state (b :: bs) = (next state b).2 ++ decodeFrom (next state b).1 bs := rfl

@[simp] theorem lines_nil : lines [] = [] := rfl

@[simp] theorem lines_cons (b : UInt8) (bs : Bytes) : lines (b :: bs) = pushByte b (lines bs) := rfl

/-- Nothing is lost in cutting. -/
theorem flatten_lines (bytes : Bytes) : (lines bytes).flatten = bytes := by
  induction bytes with
  | nil => rfl
  | cons b bs ih =>
    by_cases hb : b = newline
    · simp [pushByte, hb, ih]
    · cases h : lines bs with
      | nil => simp_all [pushByte]
      | cons line rest =>
        rw [h] at ih
        simpa [pushByte, hb, h] using ih

end Utf8

end TurtleScript
