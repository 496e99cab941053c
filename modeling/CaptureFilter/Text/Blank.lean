/-!
# Blank characters

The characters that separate words: the controls from tab to carriage return and from file
separator to unit separator, the space, and the space, line and paragraph separators of all scripts.
Spec guidance: `SPEC_FULL.md` §4.1 (`set_input` splits on white space).
-/

namespace CaptureFilter.Text

/-- Whether a character separates words. -/
def isBlank (c : Char) : Bool :=
  let n := c.toNat
  (0x09 ≤ n && n ≤ 0x0D) || (0x1C ≤ n && n ≤ 0x20) || n == 0x85 || n == 0xA0 || n == 0x1680 ||
    (0x2000 ≤ n && n ≤ 0x200A) || n == 0x2028 || n == 0x2029 || n == 0x202F || n == 0x205F ||
    n == 0x3000

/-- The words of a text: its parts between blanks that are not empty. -/
def wordsOf (s : List Char) : List (List Char) :=
  (s.splitOnP isBlank).filter (fun part ↦ !part.isEmpty)

/-- The words of a text, in order. -/
def words (s : String) : List String := (wordsOf s.toList).map String.ofList

/-- A blank between two texts keeps their words apart and adds none. -/
theorem wordsOf_append_cons (s t : List Char) {c : Char} (h : isBlank c = true) :
    wordsOf (s ++ c :: t) = wordsOf s ++ wordsOf t := by
  simp [wordsOf, List.splitOnP_append_cons, h]

/-- A text without its last characters that satisfy `p`. It is Mathlib's `List.rdropWhile`, which
the modules that run do not import. -/
def dropEndWhile (p : Char → Bool) (s : List Char) : List Char :=
  (s.reverse.dropWhile p).reverse

/-- A text without the blanks at its two ends. -/
def trim (s : String) : String :=
  String.ofList (dropEndWhile isBlank (s.toList.dropWhile isBlank))

end CaptureFilter.Text
