/-!
# The program

Its name and version, as its reports and services give them.
Spec guidance: `SPEC_FULL.md` §C and §D.
-/

namespace CaptureFilter.Program

/-- The name of the program. -/
def name : String := "capfilter"

/-- The version of the program. -/
def version : String := "0.1.0"

end CaptureFilter.Program
