/-!
# UTF-8 with replacement

Bytes are read as UTF-8 by a machine that holds the character begun so far. A byte that cannot
continue it, and the end of the bytes inside a character, put one replacement character for all the
bytes of the broken beginning; the byte itself then starts afresh. No input is refused.
Spec guidance: `SPEC_FULL.md` §6 (`from_file`).
-/

namespace CaptureFilter.Text.Utf8

/-- The character that stands for bytes that are not UTF-8. -/
def replacement : Char := '\uFFFD'

/-- A character begun: the bits read, the bytes owed, and the range of the next byte. -/
structure Begun where
  /-- The bits of the bytes read so far. -/
  bits : Nat
  /-- The number of bytes still owed, one at least. -/
  owed : Nat
  /-- The least next byte. -/
  low : Nat := 0x80
  /-- The greatest next byte. -/
  high : Nat := 0xBF
  deriving DecidableEq, Repr

/-- The characters put out by a byte, and the character begun after it. -/
abbrev Step := List Char × Option Begun

/-- A byte where no character has begun. -/
def start (b : Nat) : Step :=
  if b < 0x80 then ([Char.ofNat b], none)
  else if 0xC2 ≤ b ∧ b ≤ 0xDF then ([], some { bits := b - 0xC0, owed := 1 })
  else if b = 0xE0 then ([], some { bits := 0, owed := 2, low := 0xA0 })
  else if b = 0xED then ([], some { bits := 0xD, owed := 2, high := 0x9F })
  else if 0xE1 ≤ b ∧ b ≤ 0xEF then ([], some { bits := b - 0xE0, owed := 2 })
  else if b = 0xF0 then ([], some { bits := 0, owed := 3, low := 0x90 })
  else if b = 0xF4 then ([], some { bits := 4, owed := 3, high := 0x8F })
  else if 0xF1 ≤ b ∧ b ≤ 0xF3 then ([], some { bits := b - 0xF0, owed := 3 })
  else ([replacement], none)

/-- A byte after what has begun. -/
def step : Option Begun → Nat → Step
  | none, b => start b
  | some begun, b =>
    if begun.low ≤ b ∧ b ≤ begun.high then
      let bits := begun.bits * 64 + (b - 0x80)
      if begun.owed ≤ 1 then ([Char.ofNat bits], none)
      else ([], some { bits, owed := begun.owed - 1 })
    else (replacement :: (start b).1, (start b).2)

/-- What the end of the bytes puts out. -/
def finish (begun : Option Begun) : List Char := if begun.isSome then [replacement] else []

/-- The characters of the bytes that follow what has begun. -/
def decodeFrom (begun : Option Begun) : List UInt8 → List Char
  | [] => finish begun
  | b :: rest => (step begun b.toNat).1 ++ decodeFrom (step begun b.toNat).2 rest

/-- The characters of a row of bytes. -/
def decode (bytes : List UInt8) : List Char := decodeFrom none bytes

/-- An ASCII byte is its own character. -/
theorem start_of_lt {b : Nat} (h : b < 0x80) : start b = ([Char.ofNat b], none) := by
  simp [start, h]

end CaptureFilter.Text.Utf8
