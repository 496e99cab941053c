import CaptureFilter.Proofs.Encoding
import CaptureFilter.Proofs.LastEntry

/-!
# Databases in files

The lines of a protocol database are put into a file with any of the three line ends after each, and
the file's bytes make the same table as the lines, or have the same error. A carriage return and a
line feed that belong to two lines are one end in the file, which loses an empty line; the table
does not depend on empty lines, nor on whether lines are read with or without their ends.
Spec guidance: `SPEC_FULL.md` §6 (`from_lines`, `from_file`).
-/

namespace CaptureFilter

namespace Text

/-! ### Lines of a text -/

/-- What ends a line. -/
inductive LineEnd where
  | lineFeed
  | carriageReturn
  | both
  deriving DecidableEq, Repr

/-- The characters of a line's end. -/
def LineEnd.text : LineEnd → List Char
  | lineFeed => ['\n']
  | carriageReturn => ['\r']
  | both => ['\r', '\n']

/-- A text of lines with their ends, and perhaps of a last line without one. -/
def textOf (ended : List (List Char × LineEnd)) (last : Option (List Char)) : List Char :=
  ended.flatMap (fun (line, lineEnd) ↦ line ++ lineEnd.text) ++ last.getD []

/-- A line without the characters that end lines. -/
def Unbroken (line : List Char) : Prop := '\n' ∉ line ∧ '\r' ∉ line

/-- Looking at the characters shows whether a line is unbroken. -/
instance (line : List Char) : Decidable (Unbroken line) :=
  inferInstanceAs (Decidable ('\n' ∉ line ∧ '\r' ∉ line))

/-- The lines of a text as a reader gives them that keeps their ends: each end is a line feed, and
nothing follows the last. -/
def keptLines (s : List Char) : List (List Char) := keep (lines s)
where
  /-- Puts a line feed after each line but the last. -/
  keep : List (List Char) → List (List Char)
    | [] => []
    | [last] => if last.isEmpty then [] else [last]
    | line :: next :: rest => (line ++ ['\n']) :: keep (next :: rest)

/-- The lines that are not empty. -/
def filled (ls : List (List Char)) : List (List Char) := ls.filter (fun line ↦ !line.isEmpty)

variable {line s : List Char}

/-- A line feed ends a line. -/
theorem lines_lineFeed (s : List Char) : lines ('\n' :: s) = [] :: lines s := by
  simp [lines]

/-- A carriage return and a line feed end one line together. -/
theorem lines_both (s : List Char) : lines ('\r' :: '\n' :: s) = [] :: lines s := by
  simp [lines]

/-- A carriage return ends a line by itself unless a line feed follows. -/
theorem lines_carriageReturn (h : ∀ rest, s ≠ '\n' :: rest) :
    lines ('\r' :: s) = [] :: lines s := by
  have hno (rest : List Char) : '\r' = '\r' → s = '\n' :: rest → False := fun _ ↦ h rest
  rw [lines.eq_3 _ _ hno, if_pos (.inr rfl)]

/-- What stands before the first end belongs to the first line. -/
theorem lines_append (h : Unbroken line) {first : List Char} {others : List (List Char)}
    (hs : lines s = first :: others) : lines (line ++ s) = (line ++ first) :: others := by
  induction line with
  | nil => exact hs
  | cons c rest ih =>
    obtain ⟨hn, hr⟩ := h
    rw [List.mem_cons, not_or] at hn hr
    have hc : ¬ (c = '\n' ∨ c = '\r') := not_or.mpr ⟨Ne.symm hn.1, Ne.symm hr.1⟩
    have hno (t : List Char) : c = '\r' → rest ++ s = '\n' :: t → False :=
      fun heq _ ↦ hc (.inr heq)
    rw [List.cons_append, lines.eq_3 _ _ hno, if_neg hc, ih ⟨hn.2, hr.2⟩]
    rfl

/-- A line with its end is a line of the text, and the lines after it are those of the rest, except
that an empty line is missing where a carriage return meets a line feed. -/
theorem filled_lines_append (h : Unbroken line) (lineEnd : LineEnd) (s : List Char) :
    filled (lines (line ++ (lineEnd.text ++ s))) = filled (line :: lines s) := by
  -- the first line of the rest is empty, for the rest begins with an end
  have hline {others : List (List Char)} (hs : lines (lineEnd.text ++ s) = [] :: others) :
      lines (line ++ (lineEnd.text ++ s)) = line :: others := by
    rw [lines_append h hs, List.append_nil]
  cases lineEnd with
  | lineFeed => rw [hline (lines_lineFeed s)]
  | both => rw [hline (lines_both s)]
  | carriageReturn =>
    by_cases hs : ∃ rest, s = '\n' :: rest
    · obtain ⟨rest, rfl⟩ := hs
      rw [hline (lines_both rest), lines_lineFeed]
      rfl
    · rw [hline (lines_carriageReturn (not_exists.mp hs))]
      rfl

/-- A text of lines has those lines, up to empty ones. -/
theorem filled_lines_textOf {ended : List (List Char × LineEnd)} {last : Option (List Char)}
    (h : ∀ line ∈ ended.map Prod.fst ++ last.toList, Unbroken line) :
    filled (lines (textOf ended last)) = filled (ended.map Prod.fst ++ last.toList) := by
  induction ended with
  | nil =>
    cases last with
    | none => rfl
    | some line =>
      have hline := lines_append (s := []) (h line (by simp)) rfl
      rw [List.append_nil] at hline
      exact congrArg filled hline
  | cons entry rest ih =>
    obtain ⟨line, lineEnd⟩ := entry
    rw [List.map_cons, List.cons_append, List.forall_mem_cons] at h
    have hline := filled_lines_append h.1 lineEnd (textOf rest last)
    calc filled (lines (textOf ((line, lineEnd) :: rest) last))
      _ = filled (line :: lines (textOf rest last)) := by simpa [textOf] using hline
      _ = filled [line] ++ filled (lines (textOf rest last)) := List.filter_append [line] _
      _ = filled [line] ++ filled (rest.map Prod.fst ++ last.toList) := by rw [ih h.2]
      _ = filled (line :: (rest.map Prod.fst ++ last.toList)) := (List.filter_append [line] _).symm

end Text

namespace Protocol

open Text

/-! ### Lines and their ends -/

private theorem cut_append_fst (mark : Char) (s t : List Char) :
    (cut mark (s ++ t)).1 = if mark ∈ s then (cut mark s).1 else s ++ (cut mark t).1 := by
  induction s with
  | nil => simp
  | cons c rest ih =>
    by_cases h : c = mark
    · simp [cut, h]
    · simp only [List.cons_append, cut, if_neg h, ih, List.mem_cons, Ne.symm h, false_or]
      split <;> rfl

/-- A line feed after a line does not change its fields. -/
theorem Line.fields_append_lineFeed (line : List Char) :
    fields (line ++ ['\n']) = fields line := by
  rw [fields, fields, cut_append_fst]
  split
  · rfl
  · next h =>
    have hwords := wordsOf_append_cons line [] (c := '\n') rfl
    rw [cut_of_not_mem h]
    exact hwords.trans (List.append_nil _)

/-- A line's entry depends on its fields. -/
theorem Entry.ofLine?_congr {line other : List Char} (h : Line.fields line = Line.fields other) :
    ofLine? line = ofLine? other := by
  unfold ofLine?
  rw [← Line.fields, h]
  rfl

/-- The entries of lines are those of the lines that are not empty. -/
theorem filterMap_ofLine?_filled (ls : List (List Char)) :
    (filled ls).filterMap Entry.ofLine? = ls.filterMap Entry.ofLine? := by
  rw [filled, List.filterMap_filter]
  congr 1
  funext line
  cases line <;> rfl

/-- The entries of lines do not change when their ends are kept. -/
theorem filterMap_ofLine?_keep (ls : List (List Char)) :
    (keptLines.keep ls).filterMap Entry.ofLine? = ls.filterMap Entry.ofLine? := by
  fun_induction keptLines.keep ls with
  | case1 => rfl
  | case2 last h =>
    rw [List.isEmpty_iff.mp h]
    rfl
  | case3 last h => rfl
  | case4 line next rest ih =>
    rw [List.filterMap_cons, List.filterMap_cons, ih,
      Entry.ofLine?_congr (Line.fields_append_lineFeed line)]

/-! ### Tables of files -/

/-- A file of lines makes the table of these lines, or has the same error, whatever ends each
line and whether or not the last line has an end. So does the list of the file's lines with their
ends. -/
theorem ofFile_eq_ofLines {ended : List (List Char × LineEnd)} {last : Option (List Char)}
    (h : ∀ line ∈ ended.map Prod.fst ++ last.toList, Unbroken line) :
    Table.ofFile (Utf8.encode (textOf ended last)) =
        Table.ofLines (ended.map Prod.fst ++ last.toList) ∧
      Table.ofLines (keptLines (textOf ended last)) =
        Table.ofLines (ended.map Prod.fst ++ last.toList) := by
  have hentries : (lines (textOf ended last)).filterMap Entry.ofLine? =
      (ended.map Prod.fst ++ last.toList).filterMap Entry.ofLine? := by
    rw [← filterMap_ofLine?_filled, filled_lines_textOf h, filterMap_ofLine?_filled]
  constructor
  · rw [Table.ofFile, Utf8.decode_encode, Table.ofLines, hentries, Table.ofLines]
  · rw [Table.ofLines, keptLines, filterMap_ofLine?_keep, hentries, Table.ofLines]

/-- Lines with all three ends. The first two ends meet, and the third line holds characters that
separate lines elsewhere. -/
def mixedEnds : List (List Char × LineEnd) :=
  [("tcp 6 TCP".toList, .carriageReturn), ([], .lineFeed),
    ("udp\u008517 # then\u2028gre 47".toList, .both)]

/-- A file of them, with a last line without an end, has one line less and makes the same table. -/
theorem mixedEnds_read :
    (lines (textOf mixedEnds (some "sctp 132".toList))).length = 3 ∧
      ∃ t, Table.ofFile (Utf8.encode (textOf mixedEnds (some "sctp 132".toList))) = .ok t ∧
        t.size = 3 ∧ t.lookup "UDP" = some 17 ∧ t.lookup "gre" = none := by
  have h : ∀ line ∈ mixedEnds.map Prod.fst ++ (some "sctp 132".toList).toList, Unbroken line := by
    decide
  have htable : Table.ofLines (mixedEnds.map Prod.fst ++ (some "sctp 132".toList).toList) =
      .ok ⟨[("sctp", 132), ("udp", 17), ("tcp", 6), ("tcp", 6)]⟩ := rfl
  obtain ⟨hfile, -⟩ := ofFile_eq_ofLines h
  exact ⟨by decide +kernel, _, hfile.trans htable, by decide +kernel⟩

end Protocol

end CaptureFilter
