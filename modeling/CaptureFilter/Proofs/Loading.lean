import CaptureFilter.Proofs.LastEntry
import CaptureFilter.Proofs.Numerals

/-!
# Databases that load

The lines of a protocol database make a table unless one of them has a number that cannot be read:
its second field consists of digits, but there are too many of them, or one is a digit of no decimal
system. The first such line is blamed. Where there is a table, all other lines that enter nothing
have been passed over, and the names of well-formed lines can be looked up.
Spec guidance: `SPEC_FULL.md` §6 (`from_lines`).
-/

namespace CaptureFilter

open Text

/-! ### Rows of digits -/

namespace Text.Numeral

/-- A row of characters that denotes a number: there are not too many, and each is a decimal digit
of some script. -/
structure Usable (digits : List Char) : Prop where
  /-- There are not too many. -/
  length_le : digits.length ≤ maxDigits
  /-- Each is a decimal digit. -/
  isSome_digit? : ∀ c ∈ digits, (digit? c).isSome = true

variable {digits : List Char}

/-- Exactly the rows that denote a number are read. -/
theorem exists_read_iff : (∃ n, read digits = .ok n) ↔ Usable digits := by
  have htake : digits.takeWhile (fun c ↦ (digit? c).isSome) = digits ↔
      ∀ c ∈ digits, (digit? c).isSome = true := List.takeWhile_eq_self_iff
  have hprefix := List.takeWhile_prefix (l := digits) fun c ↦ (digit? c).isSome
  rw [read]
  constructor
  · rintro ⟨n, h⟩
    split at h
    · cases h
    · next hfew =>
      split at h
      · cases h
      · next hall =>
        have heq := hprefix.eq_of_length_le (Nat.le_of_not_lt hall)
        rw [heq] at hfew
        exact ⟨Nat.le_of_not_lt hfew, htake.mp heq⟩
  · rintro ⟨hl, hd⟩
    rw [htake.mpr hd, if_neg (Nat.not_lt.mpr hl), if_neg (Nat.lt_irrefl _)]
    exact ⟨_, rfl⟩

end Text.Numeral

namespace Protocol

/-! ### One line -/

namespace Line

/-- Why the number of a line that contributes cannot be read, if it cannot. -/
def error? (line : List Char) : Option Numeral.Error :=
  (fields line)[1]?.bind fun digits ↦
    if digits.all Numeral.isAnyDigit then
      match Numeral.read digits with
      | .error e => some e
      | .ok _ => none
    else none

/-- A line whose second field has only digits but denotes no number. -/
def Unreadable (line : List Char) : Prop :=
  ∃ digits, (fields line)[1]? = some digits ∧ digits.all Numeral.isAnyDigit = true ∧
    ¬ Numeral.Usable digits

/-- A line whose second field denotes a number in at most three ASCII digits. -/
def WellFormed (line : List Char) (n : Nat) : Prop :=
  ∃ digits, (fields line)[1]? = some digits ∧ isNumber digits = true ∧ digits.length ≤ 3 ∧
    Nat.ofDigitChars 10 digits 0 = n

variable {line : List Char}

/-- A line has an error exactly if it is unreadable. -/
theorem isSome_error?_iff : (error? line).isSome = true ↔ Unreadable line := by
  rw [error?, Unreadable]
  cases (fields line)[1]? with
  | none => simp
  | some digits =>
    simp only [Option.bind_some, Option.some.injEq, exists_eq_left', ← Numeral.exists_read_iff]
    split
    · next hd => cases Numeral.read digits <;> simp [hd]
    · next hd => simp [hd]

/-- A line that does not contribute has no error. -/
theorem error?_eq_none (h : contributes line = false) : error? line = none := by
  rw [error?]
  rw [contributes] at h
  cases hf : (fields line)[1]? with
  | none => rfl
  | some digits =>
    rw [hf, Option.any_some] at h
    rw [Option.bind_some, if_neg (Bool.eq_false_iff.mp h)]

/-- The entry of a line has the line's second field as its digits. -/
theorem field_of_ofLine? {entry : Entry} (h : Entry.ofLine? line = some entry) :
    (fields line)[1]? = some entry.digits ∧ entry.digits.all Numeral.isAnyDigit = true := by
  unfold Entry.ofLine? at h
  split at h
  · next name digits rest hfields =>
    have hf : fields line = name :: digits :: rest := hfields
    split at h
    · next hd =>
      cases h
      exact ⟨by simp [hf], hd⟩
    · cases h
  · cases h

/-- A line contributes if its second field is well-formed, and gives that number. -/
theorem WellFormed.spec {n : Nat} (h : WellFormed line n) :
    contributes line = true ∧ number? line = some n := by
  obtain ⟨digits, hfield, hd, hl, rfl⟩ := h
  have hread := Numeral.read_of_isNumber hd (Nat.le_trans hl (by decide))
  have hany : digits.all Numeral.isAnyDigit = true := by
    refine List.all_eq_true.mpr fun c hc ↦ ?_
    rw [Numeral.isAnyDigit, Numeral.digit?_of_isDigit ((isNumber_iff.mp hd).2 c hc)]
    rfl
  simp [contributes, number?, hfield, hany, hread, Except.toOption]

end Line

variable {t : Table} {line : List Char} {lines : List (List Char)} {e : Numeral.Error}

/-- A line is refused for its error, whatever has been entered before. -/
theorem Table.enterLine_eq_error_iff : t.enterLine line = .error e ↔ Line.error? line = some e := by
  rw [Table.enterLine]
  cases hline : Entry.ofLine? line with
  | none =>
    have hno : Line.error? line = none := by
      apply Line.error?_eq_none
      rw [← Line.isSome_ofLine?, hline]
      rfl
    rw [hno]
    constructor
    · intro h
      cases h
    · intro h
      cases h
  | some entry =>
    obtain ⟨hfield, hd⟩ := Line.field_of_ofLine? hline
    rw [Line.error?, hfield, Option.bind_some, if_pos hd]
    change t.enter entry = .error e ↔ _
    rw [Table.enter, bind_eq_error_iff]
    cases Numeral.read entry.digits <;> simp [pure, Except.pure]

/-! ### All lines -/

/-- The lines of a database are refused for the first error among them. -/
theorem Table.ofLines_eq_error_iff :
    Table.ofLines lines = .error e ↔ lines.findSome? Line.error? = some e := by
  have hstep (t : Table) (line : List Char) (e : Numeral.Error) :
      t.enterLine line = .error e ↔ Line.error? line = some e := Table.enterLine_eq_error_iff
  rw [Table.ofLines_eq_foldlM]
  exact foldlM_eq_error_iff hstep

/-- The lines of a database make a table exactly if none is unreadable. -/
theorem Table.exists_ofLines_iff :
    (∃ t, Table.ofLines lines = .ok t) ↔ ∀ line ∈ lines, ¬ Line.Unreadable line := by
  have herror : (∀ e, Table.ofLines lines ≠ .error e) ↔ lines.findSome? Line.error? = none := by
    rw [Option.eq_none_iff_forall_ne_some]
    exact forall_congr' fun e ↦ not_congr Table.ofLines_eq_error_iff
  have hreadable : (∀ line ∈ lines, ¬ Line.Unreadable line) ↔
      lines.findSome? Line.error? = none := by
    rw [List.findSome?_eq_none_iff]
    refine forall₂_congr fun line _ ↦ ?_
    rw [← Line.isSome_error?_iff, Option.not_isSome_iff_eq_none]
  rw [hreadable, ← herror]
  cases Table.ofLines lines <;> simp

/-- A name in a well-formed line can be looked up, and has the line's number unless a later line
gives it another. -/
theorem Records.lookup_of_wellFormed (hr : Records lines t) {before after : List (List Char)}
    (hl : lines = before ++ line :: after) {n : Nat} (hw : Line.WellFormed line n) {query : String}
    (hq : lower query ∈ Line.names line) :
    (t.lookup query).isSome = true ∧
      ((∀ later ∈ after, Line.gives (lower query) later = false) → t.lookup query = some n) := by
  obtain ⟨hc, hn⟩ := hw.spec
  have hgives : Line.gives (lower query) line = true := Line.gives_iff.mpr ⟨hc, hq⟩
  have hmem : line ∈ lines := hl ▸ List.mem_append_right before List.mem_cons_self
  rw [hr.lookup_eq]
  constructor
  · cases hlast : (lines.filter (Line.gives (lower query))).getLast? with
    | none =>
      have hnil := List.filter_eq_nil_iff.mp (List.getLast?_eq_none_iff.mp hlast)
      exact absurd hgives (hnil line hmem)
    | some last =>
      obtain ⟨hmem, hgives⟩ := List.mem_filter.mp (List.mem_of_getLast? hlast)
      obtain ⟨m, hm⟩ := hr.number last hmem (Line.gives_iff.mp hgives).1
      rw [Option.bind_some, hm]
      rfl
  · intro hafter
    have hnone : after.filter (Line.gives (lower query)) = [] :=
      List.filter_eq_nil_iff.mpr fun later hlater ↦ by simp [hafter later hlater]
    rw [hl, List.filter_append, List.filter_cons_of_pos hgives, hnone, List.getLast?_concat,
      Option.bind_some, hn]

/-- The lines of a database make a table exactly if none is unreadable, and otherwise the first that
is unreadable is blamed. Lines that do not contribute are passed over. The names of a well-formed
line in a database that loads can be looked up, and have its number unless a later line gives them
another. -/
theorem loads_iff_readable (lines : List (List Char)) :
    ((∃ t, Table.ofLines lines = .ok t) ↔ ∀ line ∈ lines, ¬ Line.Unreadable line) ∧
      (∀ e, Table.ofLines lines = .error e ↔ lines.findSome? Line.error? = some e) ∧
      Table.ofLines (lines.filter Line.contributes) = Table.ofLines lines ∧
      ∀ t, Table.ofLines lines = .ok t → ∀ before line after, lines = before ++ line :: after →
        ∀ n, Line.WellFormed line n → ∀ query, lower query ∈ Line.names line →
          (t.lookup query).isSome = true ∧
            ((∀ later ∈ after, Line.gives (lower query) later = false) →
              t.lookup query = some n) := by
  refine ⟨Table.exists_ofLines_iff, fun e ↦ Table.ofLines_eq_error_iff,
    Table.ofLines_filter_contributes lines, ?_⟩
  intro t ht before line after hl n hw query hq
  exact (records_of_ofLines ht).lookup_of_wellFormed hl hw hq

/-- A database with blank, commented and malformed lines, and with numbers that are unusual. -/
def untidyLines : List (List Char) :=
  ["", " # tcp 5", "tcp 006 TCP", "udp", "udp 17x UDP", "Rdp 27 # RDP", "big 1000 TCP2",
    "rdp ٢٨"].map String.toList

/-- It loads, and its well-formed lines count unless a later line gives the name another number. -/
theorem untidyLines_load :
    (∀ line ∈ untidyLines, ¬ Line.Unreadable line) ∧
      ∃ t, Table.ofLines untidyLines = .ok t ∧ t.lookup "TCP" = some 6 ∧
        (t.lookup "RDP").isSome = true := by
  obtain ⟨hloads, -, -, hnames⟩ := loads_iff_readable untidyLines
  have hreadable : ∀ line ∈ untidyLines, ¬ Line.Unreadable line := by
    intro line hline
    rw [← Line.isSome_error?_iff]
    revert line
    decide +kernel
  obtain ⟨t, ht⟩ := hloads.mpr hreadable
  have htcp := hnames t ht (untidyLines.take 2) "tcp 006 TCP".toList (untidyLines.drop 3)
    (by decide) 6 ⟨"006".toList, by decide, by decide, by decide, by decide⟩ "TCP" (by decide)
  have hrdp := hnames t ht (untidyLines.take 5) "Rdp 27 # RDP".toList (untidyLines.drop 6)
    (by decide) 27 ⟨"27".toList, by decide, by decide, by decide, by decide⟩ "RDP" (by decide)
  exact ⟨hreadable, t, ht, htcp.2 (by decide +kernel), hrdp.1⟩

/-- A well-formed line, and one whose number is a digit that forms no decimal numerals. -/
def squareLines : List (List Char) := ["tcp 6 TCP", "x ² X"].map String.toList

/-- The malformed line is not passed over: it keeps the database from loading. -/
theorem squareLines_refused :
    Line.WellFormed "tcp 6 TCP".toList 6 ∧
      Table.ofLines squareLines = .error (.notDecimal "²") := by
  refine ⟨⟨"6".toList, by decide, by decide, by decide, by decide⟩, ?_⟩
  rw [Table.ofLines_eq_error_iff]
  decide +kernel

end Protocol

end CaptureFilter
