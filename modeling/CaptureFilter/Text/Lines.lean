/-!
# Lines

A line ends at a line feed, at a carriage return, or at a carriage return followed by a line feed;
no other character ends one.
Spec guidance: `SPEC_FULL.md` §6 (`from_file`).
-/

namespace CaptureFilter.Text

/-- The lines of a text, without their ends. -/
def lines : List Char → List (List Char)
  | [] => [[]]
  | '\r' :: '\n' :: rest => [] :: lines rest
  | c :: rest =>
    if c = '\n' ∨ c = '\r' then [] :: lines rest
    else
      match lines rest with
      | [] => [[c]]
      | first :: others => (c :: first) :: others

end CaptureFilter.Text
