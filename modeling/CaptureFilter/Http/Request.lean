import CaptureFilter.Submission
import CaptureFilter.Validation

/-!
# Requests

What the services are asked, and the bodies that clients write for it. Bodies are read by a reader
that the services are given. It is relied on for the bodies that clients write; what it makes of
other bodies, and how it words its problems with them, is left to it.
Spec guidance: `SPEC_FULL.md` §C (`POST /api/compile`, `POST /api/attributes/validate`).
-/

namespace CaptureFilter

open Text Validation

namespace Submission

/-- A submission as a body. -/
def toJson (s : Submission) : Json.Value :=
  .record [("type", .text s.kind), ("section", s.place.value), ("match", .text s.operator),
    ("input", .text s.input)]

/-- A submission that can be written: the number of its section, if it is named by one, has not too
many digits. -/
def Writable (s : Submission) : Prop := ∀ n, s.place = .number n → ¬ Numeral.Unwritable n

end Submission

namespace Http

/-- A request for an expression. Supports `CompileRequest`. -/
structure CompileRequest where
  /-- The criteria, in order. -/
  submissions : List Submission := []
  /-- Whether the interface carries tags, if that is said. -/
  vlan : Option Bool := none
  /-- The interface to capture on. -/
  interface : Option String := none
  deriving DecidableEq, Repr

/-- A request for an expression as a body. Whether the interface carries tags is left out if it is
not said. -/
def CompileRequest.toJson (r : CompileRequest) : Json.Value :=
  .record ([("attributes", .list (r.submissions.map Submission.toJson)),
      ("interface", r.interface.elim .null .text)] ++
    (r.vlan.map fun vlan ↦ ("vlan_supported", Json.Value.bool vlan)).toList)

/-- A reader of the bodies of requests. -/
structure BodyReader where
  /-- Reads a submission. -/
  submission : Json.Value → Checked Submission
  /-- Reads a request for an expression. -/
  compileRequest : Json.Value → Checked CompileRequest

/-- A reader that reads from bodies what has been written into them. -/
structure BodyReader.Faithful (reader : BodyReader) : Prop where
  /-- A submission that has been written is read. -/
  submission_toJson (s : Submission) (h : s.Writable) : reader.submission s.toJson = .ok s
  /-- A request that has been written is read. -/
  compileRequest_toJson (r : CompileRequest) (h : ∀ s ∈ r.submissions, s.Writable) :
    reader.compileRequest r.toJson = .ok r

end Http

end CaptureFilter
