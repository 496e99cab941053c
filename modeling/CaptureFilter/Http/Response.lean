import CaptureFilter.Http.Body
import CaptureFilter.Http.Service

/-!
# Responses

The services as they run, with the reader of bodies that they are given.
Spec guidance: `SPEC_FULL.md` §C.
-/

namespace CaptureFilter.Http

/-- Compiles the criteria of a request. -/
def compile : Context → Json.Value → Served := bodyReader.compile

/-- Checks one criterion. -/
def validate : Context → Json.Value → Served := bodyReader.validate

end CaptureFilter.Http
