import CaptureFilter.Submission
import CaptureFilter.Text.Cut

/-!
# Entries

An entry is a submission on one line: section, kind, operator and input, with colons between them.
The input is all that follows the third colon, so it may hold colons itself; an entry without a
third colon has the empty input. Reading what has been written gives the submission back if none of
its three names holds a colon.
Spec guidance: `SPEC_FULL.md` §D (`parse_attribute`).
-/

namespace CaptureFilter.Submission

open Text

/-- The submission of an entry, which needs at least two colons. Supports `parse_attribute`. -/
def ofText? (entry : String) : Option Submission :=
  match cut ':' entry.toList with
  | (_, none) => none
  | (place, some rest) =>
    match cut ':' rest with
    | (_, none) => none
    | (kind, some rest) =>
      let (operator, input) := cut ':' rest
      some
        { kind := String.ofList kind
          place := .text (String.ofList place)
          operator := String.ofList operator
          input := String.ofList (input.getD []) }

/-- The entry of a submission. -/
def entry (s : Submission) : String :=
  s.place.plain ++ ":" ++ s.kind ++ ":" ++ s.operator ++ ":" ++ s.input

/-- Reading an entry that has been written gives the submission back. -/
theorem ofText?_entry {kind place operator : String} (input : String)
    (hplace : ':' ∉ place.toList) (hkind : ':' ∉ kind.toList) (hop : ':' ∉ operator.toList) :
    ofText? (entry ⟨kind, .text place, operator, input⟩) =
      some ⟨kind, .text place, operator, input⟩ := by
  have split : (entry ⟨kind, .text place, operator, input⟩).toList =
      place.toList ++ ':' :: (kind.toList ++ ':' :: (operator.toList ++ ':' :: input.toList)) := by
    simp [entry, SectionName.plain]
  simp [ofText?, split, cut_append_cons hplace, cut_append_cons hkind, cut_append_cons hop]

end CaptureFilter.Submission

namespace CaptureFilter

/-- Why entries have no expression. -/
inductive EntryFault where
  /-- The entry lacks a part. -/
  | malformed (entry : String)
  /-- The entry, or all entries together, are refused. -/
  | refused (failure : Failure)
  deriving Repr

namespace EntryFault

/-- The wording of a fault. -/
def message : EntryFault → String
  | .malformed entry => "Expected SECTION:TYPE:MATCH[:INPUT], got '" ++ entry ++ "'"
  | .refused failure => failure.message

/-- The full account of a fault. -/
def account : EntryFault → Json.Value
  | .refused (.filter e) => e.account
  | fault => .record [("message", .text fault.message)]

end EntryFault

/-- The criterion of an entry. Supports `parse_attribute`. -/
def Criterion.ofEntry (protocols : Protocol.Source) (entry : String) :
    Except EntryFault Criterion :=
  match Submission.ofText? entry with
  | none => .error (.malformed entry)
  | some s => (s.criterion protocols).mapError .refused

end CaptureFilter
