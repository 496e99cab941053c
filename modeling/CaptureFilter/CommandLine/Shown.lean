import CaptureFilter.Text.Blank

/-!
# Text as the terminal shows it

The report marks tags with square brackets. A tag begins with a bracket and a small letter or one of
three signs and ends with the next closing bracket. Tags in a text that is shown are protected and
come out as they are, but a backslash in front of any other bracket is taken for its protection, and
one that ends the text is doubled. Controls that would move the cursor back, down or to the margin
are left out, other controls take no room, and tabs fill up to the next multiple of eight columns.
Spec guidance: `SPEC_FULL.md` §D (`print_attributes`, `print_expression`, `print_error`).
-/

namespace CaptureFilter.CommandLine

open Text

/-- Whether a bracket followed by this text opens a tag. -/
def opensTag : List Char → Bool
  | [] => false
  | c :: rest =>
    (c.isLower || c = '#' || c = '/' || c = '@') &&
      (rest.find? fun d ↦ d = '[' || d = ']') = some ']'

/-- The text without the backslashes that protect brackets. -/
def dropProtection : List Char → List Char
  | '\\' :: '[' :: rest =>
    if opensTag rest then '\\' :: '[' :: dropProtection rest else '[' :: dropProtection rest
  | c :: rest => c :: dropProtection rest
  | [] => []

/-- The text with a single backslash at its end doubled. -/
def doubleFinalBackslash (s : List Char) : List Char :=
  match s.reverse with
  | '\\' :: '\\' :: _ => s
  | '\\' :: _ => s ++ ['\\']
  | _ => s

/-- Whether a character only moves the cursor. -/
def movesCursor (c : Char) : Bool :=
  c = '\x07' || c = '\x08' || c = '\x0b' || c = '\x0c' || c = '\r'

/-- The text as it is shown. -/
def shown (s : String) : List Char :=
  (dropProtection (doubleFinalBackslash s.toList)).filter (!movesCursor ·)

/-- Whether a character takes room on the terminal: all but the controls do. -/
def takesRoom (c : Char) : Bool := !(c.toNat < 0x20 || (0x7F ≤ c.toNat && c.toNat < 0xA0))

/-- The room that a text takes on the terminal. -/
def room (s : List Char) : Nat := s.countP takesRoom

/-- Whether a character ends a line where the room for a text is measured. -/
def endsMeasure (c : Char) : Bool :=
  c = '\n' || (0x1C ≤ c.toNat && c.toNat ≤ 0x1E) || c.toNat = 0x85 || c.toNat = 0x2028 ||
    c.toNat = 0x2029

/-- The room that a text asks for: that of its longest line. Tabs ask for none, like all controls,
for it is not yet known how far they reach. -/
def roomAsked (s : List Char) : Nat := ((s.splitOnP endsMeasure).map room).foldl max 0

/-- The columns between two stops for tabs. -/
def tabSize : Nat := 8

/-- A line from a column on, its tabs filled up. -/
def fillTabs (column : Nat) : List Char → List Char
  | [] => []
  | c :: rest =>
    if c = '\t' then
      let width := tabSize - column % tabSize
      List.replicate width ' ' ++ fillTabs (column + width) rest
    else c :: fillTabs (column + room [c]) rest

/-- A line without the blanks at its end that are beyond a number of characters. -/
def dropBlanksBeyond (width : Nat) (s : List Char) : List Char :=
  s.take (max width (dropEndWhile isBlank s).length)

/-- The lines of a text that is shown in a field of a width. -/
def shownLines (width : Nat) (s : List Char) : List (List Char) :=
  (s.splitOn '\n').map fun line ↦ dropBlanksBeyond width (fillTabs 0 line)

end CaptureFilter.CommandLine
