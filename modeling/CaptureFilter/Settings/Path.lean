/-!
# File paths

The plain form of a path: slashes in a row count as one, parts that are a single dot are left out,
and so is a slash at the end. Two slashes in front, and no more, are kept both. A path of nothing is
a single dot. Parts of two dots stay, for what they mean depends on the files.
Spec guidance: `SPEC_FULL.md` §A (`protocols_file`, `ensure_path`).
-/

namespace CaptureFilter.Path

/-- The parts of a path that name something. -/
def parts (s : List Char) : List (List Char) :=
  (s.splitOn '/').filter fun part ↦ part ≠ [] && part ≠ ['.']

/-- The slashes that a path begins with. -/
def root (s : List Char) : List Char :=
  match (s.takeWhile (· = '/')).length with
  | 0 => []
  | 2 => ['/', '/']
  | _ => ['/']

/-- The plain form of a path. -/
def plain (s : String) : String :=
  let text := root s.toList ++ ['/'].intercalate (parts s.toList)
  if text.isEmpty then "." else String.ofList text

end CaptureFilter.Path
