import CaptureFilter.Protocol.Table
import CaptureFilter.Text.Blank
import CaptureFilter.Text.Cut
import CaptureFilter.Text.Lines
import CaptureFilter.Text.Numeral
import CaptureFilter.Text.Utf8

/-!
# Protocol databases

A protocol database is a text of lines. Behind a number sign a line is comment; before it stand a
name, a number and perhaps an alias. A line with fewer than two fields or without digits as its
second field enters nothing. Digits that form no number make the whole database unreadable.
Spec guidance: `SPEC_FULL.md` §6 (`from_lines`, `from_file`).
-/

namespace CaptureFilter.Protocol

open Text

/-- What a line enters. -/
structure Entry where
  /-- The protocol's name. -/
  name : String
  /-- The digits of its number. -/
  digits : List Char
  /-- Another name for it. -/
  alias? : Option String
  deriving DecidableEq, Repr

/-- The entry of a line, if it makes one. -/
def Entry.ofLine? (line : List Char) : Option Entry :=
  match wordsOf (cut '#' line).1 with
  | name :: digits :: rest =>
    if digits.all Numeral.isAnyDigit then
      some ⟨String.ofList name, digits, (rest.head?).map String.ofList⟩
    else none
  | _ => none

/-- A table with an entry made: the name, then the alias. -/
def Table.enter (t : Table) (entry : Entry) : Except Numeral.Error Table := do
  let number ← Numeral.read entry.digits
  let named := t.insert entry.name number
  return match entry.alias? with
    | some other => named.insert other number
    | none => named

/-- The table of a database's lines. Supports `from_lines`. -/
def Table.ofLines (lines : List (List Char)) : Except Numeral.Error Table :=
  (lines.filterMap Entry.ofLine?).foldlM Table.enter .empty

/-- The table of a database file. Supports `from_file`. -/
def Table.ofFile (bytes : List UInt8) : Except Numeral.Error Table :=
  Table.ofLines (lines (Utf8.decode bytes))

end CaptureFilter.Protocol
