import CaptureFilter.Expression.Compile
import CaptureFilter.Http.Request
import CaptureFilter.Interface
import CaptureFilter.Program
import CaptureFilter.Text.Percent

/-!
# Services

The four services: compiling criteria, checking one criterion, looking up a protocol, and reporting
that the service is up. A criterion at fault is answered with the account of its fault. Digits that
cannot be read or written are no answer; whoever runs the service has to deal with them.
Spec guidance: `SPEC_FULL.md` §C (`compile_filter`, `validate_attribute`, `get_protocol`,
`health_check`) and §7.
-/

namespace CaptureFilter.Http

open Text Validation

/-- The answer to a request. -/
inductive Response where
  /-- A status and a body. -/
  | reply (status : Nat) (body : Json.Value)
  /-- A list of problems in the body of the request. -/
  | invalid (problems : List Problem)

/-- The answer to a request, unless digits cannot be read or written. -/
abbrev Served := Except Numeral.Error Response

/-- The answer to criteria at fault. Supports `_error_response`. -/
def unprocessable (e : FilterError) : Response := .reply 422 (.record [("detail", e.account)])

/-- The answer that a result makes. -/
def serve (result : Except Failure Json.Value) : Served :=
  match result with
  | .ok v => .ok (.reply 200 v)
  | .error (.filter e) => .ok (unprocessable e)
  | .error (.numeral e) => .error e

/-- The answer to a request whose body is checked first. -/
def serveChecked {α : Type} (checked : Checked α) (handle : α → Except Failure Json.Value) :
    Served :=
  match checked with
  | .error problems => .ok (.invalid problems)
  | .ok a => serve (handle a)

/-- Whether the interface of a request carries tags: as it is said, or by its name. -/
def CompileRequest.carriesTags (request : CompileRequest) (untaggedPrefixes : List String) : Bool :=
  request.vlan.getD (Interface.carriesTags untaggedPrefixes request.interface)

/-- The answer to a request for an expression, if it has one. Supports `compile_filter`. -/
def CompileRequest.compile (request : CompileRequest) (context : Context) :
    Except Failure Json.Value := do
  let criteria ← request.submissions.mapM (Submission.criterion context.protocols)
  let vlan := request.carriesTags context.untaggedPrefixes
  let expression ← (Expression.compile vlan criteria).mapError fun e ↦ .filter (.compile e)
  return .record [("expression", .text expression), ("vlan_supported", .bool vlan),
    ("attributes", .list (criteria.map Criterion.view))]

namespace BodyReader

variable {reader : BodyReader} {context : Context} {v : Json.Value}

/-- Compiles the criteria of a request. Supports `compile_filter`. -/
def compile (reader : BodyReader) (context : Context) (v : Json.Value) : Served :=
  serveChecked (reader.compileRequest v) fun request ↦ request.compile context

/-- Checks one criterion. Supports `validate_attribute`. -/
def validate (reader : BodyReader) (context : Context) (v : Json.Value) : Served :=
  serveChecked (reader.submission v) fun s ↦ (s.criterion context.protocols).map Criterion.view

/-- A body that is read as a request for an expression is answered with it or its fault. -/
theorem compile_of_read {request : CompileRequest} (h : reader.compileRequest v = .ok request) :
    reader.compile context v = serve (request.compile context) := by
  rw [compile, h]
  rfl

/-- A body that is read as a submission is answered with its criterion or its fault. -/
theorem validate_of_read {s : Submission} (h : reader.submission v = .ok s) :
    reader.validate context v = serve ((s.criterion context.protocols).map Criterion.view) := by
  rw [validate, h]
  rfl

end BodyReader

/-- The answer to a request for what is not there. -/
def notFound (detail : String) : Response := .reply 404 (.record [("detail", .text detail)])

/-- The answer to a path that no service has. -/
def noService : Response := notFound "Not Found"

/-- Looks a protocol up. Supports `get_protocol`. -/
def protocolNamed (context : Context) (name : String) : Served := do
  let table ← context.protocols
  return match table.lookup name with
    | some number => .reply 200 (.record [("name", .text (lower name)), ("number", .int number)])
    | none => notFound ("Unknown protocol: " ++ name)

/-- Whether a path segment is left out when a path is made simple. -/
def isEmptySegment (s : List Char) : Bool := s = [] || s = ['.'] || s = ['.', '.']

/-- The protocol that a path segment names once it has been decoded. Slashes at its end lead on to
the path without them, in which a question mark or number sign ends the segment and which is decoded
twice; any other slash leads nowhere. At most `steps` such leads are followed. -/
def segmentName? : Nat → List Char → Option String
  | steps, s =>
    let rest := dropEndWhile (· == '/') s
    if rest = [] || rest.contains '/' then none
    else if rest = s then some (String.ofList s)
    else
      match steps with
      | 0 => none
      | steps + 1 =>
        let kept := rest.takeWhile fun c ↦ c ≠ '?' && c ≠ '#'
        if isEmptySegment kept then none
        else segmentName? steps (Percent.decode (Percent.decode (String.ofList kept))).toList

/-- Looks up the protocol that a path names. The name is decoded once more than the path is. -/
def protocol (context : Context) (name : String) : Served :=
  if isEmptySegment name.toList then .ok noService
  else
    match segmentName? name.length (Percent.decode name).toList with
    | some name => protocolNamed context name
    | none => .ok noService

/-- Reports that the service is up, and whether there is a protocol database. Supports
`health_check`. -/
def health (hasDatabase : Bool) : Response :=
  .reply 200 (.record [("status", .text "healthy"), ("service", .text Program.name),
    ("version", .text Program.version), ("protocols_file", .bool hasDatabase)])

end CaptureFilter.Http
