import CaptureFilter.Text.Digit
import CaptureFilter.Text.Utf8

/-!
# Percent coding

A percent sign before two hexadecimal digits stands for the byte they denote. The bytes between two
characters beyond ASCII are read as UTF-8 together; a percent sign before anything else stands for
itself.
Spec guidance: `SPEC_FULL.md` §C (`get_protocol`).
-/

namespace CaptureFilter.Text.Percent

/-- A part of percent-coded text: a byte, or a character that is not coded. -/
inductive Part where
  /-- A byte, coded or ASCII. -/
  | octet (b : UInt8)
  /-- A character beyond ASCII. -/
  | scalar (c : Char)
  deriving DecidableEq, Repr

/-- The part that an uncoded character makes. -/
def Part.ofChar (c : Char) : Part :=
  if c.toNat < 0x80 then .octet (UInt8.ofNat c.toNat) else .scalar c

/-- The parts of a text. -/
def parts : List Char → List Part
  | [] => []
  | '%' :: high :: low :: rest =>
    if isHexDigit high && isHexDigit low then
      .octet (UInt8.ofNat (ofHexDigits [high, low])) :: parts rest
    else Part.ofChar '%' :: parts (high :: low :: rest)
  | c :: rest => Part.ofChar c :: parts rest

/-- The characters of the parts that follow a character begun. -/
def charactersFrom (begun : Option Utf8.Begun) : List Part → List Char
  | [] => Utf8.finish begun
  | .octet b :: rest =>
    (Utf8.step begun b.toNat).1 ++ charactersFrom (Utf8.step begun b.toNat).2 rest
  | .scalar c :: rest => Utf8.finish begun ++ c :: charactersFrom none rest

/-- The text that a percent-coded text stands for. -/
def decode (s : String) : String := String.ofList (charactersFrom none (parts s.toList))

end CaptureFilter.Text.Percent
