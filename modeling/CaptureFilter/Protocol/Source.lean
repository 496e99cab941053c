import CaptureFilter.Protocol.Database

/-!
# The default table

The default table is read from a database file when a name is first looked up, and kept from then
on, whatever becomes of the file. A missing file makes an empty table. A file that cannot be read as
a database makes no table; the next look-up reads the file again.
Spec guidance: `SPEC_FULL.md` §5 and §9 (`get_protocol_table`).
-/

namespace CaptureFilter.Protocol

open Text

/-- A table that is to hand, or the reason why there is none. -/
abbrev Source := Except Numeral.Error Table

/-- The table that a file makes, which may be missing. Supports `get_protocol_table`. -/
def Source.ofFile : Option (List UInt8) → Source
  | none => .ok .empty
  | some bytes => Table.ofFile bytes

/-- The default table and the file behind it. Supports `_default_table`. -/
structure Default where
  /-- The file's bytes, unless it is missing. -/
  file : Option (List UInt8)
  /-- The table, once it has been read. -/
  loaded : Option Table := none
  deriving DecidableEq, Repr

namespace Default

/-- The table that a look-up uses. -/
def source (d : Default) : Source :=
  match d.loaded with
  | some t => .ok t
  | none => Source.ofFile d.file

/-- The state after a look-up: the table is kept if there is one. -/
def consulted (d : Default) : Default :=
  match d.source with
  | .ok t => { d with loaded := some t }
  | .error _ => d

/-- The state after the file is replaced, or deleted. -/
def withFile (d : Default) (file : Option (List UInt8)) : Default := { d with file }

/-- The state after the table is forgotten. -/
def forget (d : Default) : Default := { d with loaded := none }

/-- What a look-up uses does not change by looking up. -/
theorem source_consulted (d : Default) : d.consulted.source = d.source := by
  unfold consulted
  split
  · next t h => rw [h]; rfl
  · rfl

end Default

end CaptureFilter.Protocol
