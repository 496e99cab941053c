import CaptureFilter.Named
import CaptureFilter.Text.Case

/-!
# Protocol tables

A table of protocol names and their numbers. Names are compared without regard to case, and a name
entered again takes its new number.
Spec guidance: `SPEC_FULL.md` §6 (`ProtocolTable`).
-/

namespace CaptureFilter.Protocol

open Text

/-- A table of protocol numbers; the names are in lower case and the latest entry comes first.
Supports `ProtocolTable`. -/
structure Table where
  /-- The names and numbers entered, the latest first. -/
  entries : List (String × Int)
  deriving DecidableEq, Repr

namespace Table

/-- The table without entries. -/
def empty : Table := ⟨[]⟩

/-- Enters a name. -/
def insert (t : Table) (name : String) (number : Int) : Table := ⟨(lower name, number) :: t.entries⟩

/-- The number of a name. Supports `ProtocolTable.lookup`. -/
def lookup (t : Table) (name : String) : Option Int :=
  if name.isEmpty then none else t.entries.lookup (lower name)

/-- The number of names in the table. Supports `__len__`. -/
def size (t : Table) : Nat := (t.entries.map Prod.fst).eraseDups.length

/-- The table of a list of pairs. Pairs of exactly the same name are one pair first, in the place of
the first and with the number of the last. -/
def ofPairs (pairs : List (String × Int)) : Table :=
  (Named.ofSettings pairs).foldl (fun t (name, number) ↦ t.insert name number) empty

/-- Nothing is found in the empty table. -/
theorem lookup_empty (name : String) : empty.lookup name = none := by
  simp [lookup, empty]

end Table

end CaptureFilter.Protocol
