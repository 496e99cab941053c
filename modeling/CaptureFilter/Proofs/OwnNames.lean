import CaptureFilter.Proofs.Building
import CaptureFilter.Proofs.Numerals
import CaptureFilter.Submission

/-!
# Names that are read back

The names that a criterion shows of its kind, its section and its operator are read as these, so
that the criterion is read from them as it was made.
Spec guidance: `SPEC_FULL.md` §3 (`to_dict`) and §4.1 (`_parse_type`, `_parse_section`,
`_parse_match`).
-/

namespace CaptureFilter.Criterion

open Text

/-- A kind is read from its name. -/
theorem readKind_name (k : Kind) : readKind (.text k.name) = .ok k := by
  rw [readKind, readNamed, Kind.ofText?_name]
  rfl

/-- An operator is read from its name. -/
theorem readOperator_name (op : Operator) : readOperator (.text op.name) = .ok op := by
  rw [readOperator, readNamed, Operator.ofText?_name]
  rfl

/-- A section is read from the value that it shows as. -/
theorem readSection_value (place : Section) : readSection place.value = .ok place := by
  cases place with
  | preset => rfl
  | depth d =>
    change (Section.ofInt? (d.val : Int)).elim _ _ = _
    rw [Section.ofInt?_eq_some_depth]
    rfl

private theorem decimal_digit : ∀ d : Fin 10,
    lower (trim (decimal d.val)) = decimal d.val ∧ isNumber (decimal d.val).toList = true ∧
      decimal d.val ≠ "preset" ∧ (decimal d.val).toList.length ≤ Numeral.maxDigits := by decide

/-- A section is read from its name. -/
theorem readSection_name (place : Section) : readSection (.text place.name) = .ok place := by
  cases place with
  | preset => rfl
  | depth d =>
    obtain ⟨hl, hn, hp, hm⟩ := decimal_digit d
    rw [Section.name, readSection]
    dsimp only
    rw [hl, if_neg hp, if_pos hn, Fragment.number, Numeral.read_of_isNumber hn hm,
      ofDigitChars_decimal]
    exact readSection_value (.depth d)

/-- The criterion as it was made, before its input was set. -/
def bare (c : Criterion) : Criterion := { c with input := none, fragments := [] }

/-- A criterion is read from its own names as it was made. -/
theorem read_names (c : Criterion) {place : Json.Value} (h : readSection place = .ok c.place) :
    read (.text c.kind.name) place (.text c.operator.name) = .ok c.bare := by
  have hmake : make c.kind c.place c.operator = .ok c.bare := make_of_legal c.legal
  rw [read, readKind_name, h, readOperator_name]
  exact hmake

end CaptureFilter.Criterion
