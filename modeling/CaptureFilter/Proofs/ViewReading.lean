import CaptureFilter.CommandLine.Entry
import CaptureFilter.Http.Client
import CaptureFilter.Http.Response
import CaptureFilter.Proofs.Attempts
import CaptureFilter.Proofs.OwnNames

/-!
# Views that are read back

The view of a criterion names all that it was made of. Written on one line as an entry, and sent
back as the body of a request, it makes a criterion of the same view, whatever characters its input
holds.
Spec guidance: `SPEC_FULL.md` §3 (`to_dict`), §C (`validate_attribute`) and §D (`parse_attribute`).
-/

namespace CaptureFilter

open Text

/-! ### Criteria with what they were made of -/

namespace Criterion

variable {source : Protocol.Source} {c : Criterion}

/-- A criterion that has been read, and whose input may have been set from a source. -/
inductive BuiltFrom (source : Protocol.Source) : Criterion → Prop where
  /-- It has been read. -/
  | read {kind place operator c} (h : read kind place operator = .ok c) : BuiltFrom source c
  /-- Its input has been set. -/
  | set {kind place operator raw c d} (hc : Criterion.read kind place operator = .ok c)
    (h : c.setInputFrom source raw = .ok d) : BuiltFrom source d

/-- A blank text has no fragments. -/
theorem fragmentsFrom_of_blank (c : Criterion) (source : Protocol.Source) {raw : Option String}
    (h : words (raw.getD "") = []) : c.fragmentsFrom source raw = .ok [] := by
  rw [fragmentsFrom, h, Fragment.consults, Bool.and_false, if_neg Bool.false_ne_true, fragmentsOf]
  split <;> rfl

/-- A criterion holds the fragments of its input. -/
theorem BuiltFrom.fragmentsFrom_input (h : c.BuiltFrom source) :
    c.fragmentsFrom source c.input = .ok c.fragments := by
  cases h with
  | read hc =>
    obtain ⟨hi, hf⟩ := input_of_read hc
    rw [hi, hf]
    exact fragmentsFrom_of_blank c source (by decide)
  | @set kind place operator raw c' _ hc h =>
    rw [setInputFrom_eq, (input_of_read hc).1, if_neg (by simp)] at h
    obtain ⟨fragments, hf, rfl⟩ := map_eq_ok_iff.mp h
    exact hf

/-- The criterion as it was made takes the input again. -/
theorem BuiltFrom.setInputFrom_bare (h : c.BuiltFrom source) :
    c.bare.setInputFrom source (some (c.input.getD "")) =
      .ok { c with input := some (c.input.getD "") } := by
  have hf : c.bare.fragmentsFrom source (some (c.input.getD "")) = .ok c.fragments :=
    h.fragmentsFrom_input
  rw [setInputFrom_eq, hf]
  rfl

end Criterion

/-! ### Submissions of criteria -/

namespace Submission

variable {source : Protocol.Source} {c : Criterion}

private theorem colon_not_mem_kind (k : Kind) : ':' ∉ k.name.toList := by
  have key : ∀ k ∈ Kind.all, ':' ∉ k.name.toList := by decide
  exact key k k.mem_all

private theorem colon_not_mem_operator (op : Operator) : ':' ∉ op.name.toList := by
  have key : ∀ op ∈ Operator.all, ':' ∉ op.name.toList := by decide
  exact key op op.mem_all

private theorem colon_not_mem_place (place : Section) : ':' ∉ place.name.toList := by
  cases place with
  | preset => decide
  | depth d =>
    intro h
    have hd : ':'.isDigit = true := isDigit_of_mem_decimal h
    exact absurd hd (by decide)

/-- The entry of a criterion is read as its submission, its section named by a text. -/
theorem ofText?_entry_ofCriterion (c : Criterion) :
    ofText? (ofCriterion c).entry =
      some { ofCriterion c with place := .text c.place.name } := by
  have hentry : (ofCriterion c).entry =
      ({ ofCriterion c with place := .text c.place.name } : Submission).entry := by
    have hplace : (SectionName.ofSection c.place).plain = c.place.name := by
      cases c.place <;> rfl
    rw [entry, ofCriterion, hplace]
    rfl
  rw [hentry]
  exact ofText?_entry _ (colon_not_mem_place _) (colon_not_mem_kind _) (colon_not_mem_operator _)

/-- The number of a section can be written. -/
theorem writable_ofCriterion (c : Criterion) : (ofCriterion c).Writable := by
  intro n hn
  change SectionName.ofSection c.place = .number n at hn
  cases hp : c.place with
  | preset =>
    rw [hp] at hn
    cases hn
  | depth d =>
    rw [hp] at hn
    cases hn
    exact Numeral.not_unwritable_of_lt_ten d.isLt

/-- A submission that names the parts of a criterion makes it again. -/
theorem criterion_of_names (h : c.BuiltFrom source) {place : SectionName}
    (hp : Criterion.readSection place.value = .ok c.place) :
    ({ ofCriterion c with place } : Submission).criterion source =
      .ok { c with input := some (c.input.getD "") } := by
  change Criterion.read (.text c.kind.name) place.value (.text c.operator.name) >>= _ = _
  rw [c.read_names hp]
  exact h.setInputFrom_bare

end Submission

/-! ### Views -/

namespace Criterion

/-- An input that is not set shows as the empty one. -/
theorem view_input (c : Criterion) :
    ({ c with input := some (c.input.getD "") } : Criterion).view = c.view := rfl

/-- The view of a criterion that has been built shows a submission that gives the same view again:
written on one line and read as an entry, and sent as a body to the service that checks criteria,
with every reader that reads what clients write. -/
theorem view_read_back {context : Context} {c : Criterion} (h : c.BuiltFrom context.protocols) :
    ∃ s, Submission.ofView? c.view = some s ∧
      (∃ d, ofEntry context.protocols s.entry = .ok d ∧ d.view = c.view) ∧
      ∀ reader : Http.BodyReader, reader.Faithful →
        reader.validate context s.toJson = .ok (.reply 200 c.view) := by
  refine ⟨.ofCriterion c, Submission.ofView?_view c, ?_, fun reader hreader ↦ ?_⟩
  · refine ⟨{ c with input := some (c.input.getD "") }, ?_, c.view_input⟩
    have hplace : readSection (SectionName.text c.place.name).value = .ok c.place :=
      readSection_name c.place
    rw [ofEntry, Submission.ofText?_entry_ofCriterion]
    dsimp only
    rw [Submission.criterion_of_names h hplace]
    rfl
  · have hplace : readSection (SectionName.ofSection c.place).value = .ok c.place := by
      rw [SectionName.value_ofSection, readSection_value]
    have hmade : (Submission.ofCriterion c).criterion context.protocols =
        .ok { c with input := some (c.input.getD "") } :=
      Submission.criterion_of_names h hplace
    have hread := hreader.submission_toJson _ (Submission.writable_ofCriterion c)
    rw [Http.BodyReader.validate_of_read hread, hmade]
    rfl

/-- A criterion that leaves out hardware addresses at a depth. -/
def macsLeftOut (depth : Fin 10) : Criterion where
  kind := .packet .mac
  place := .depth depth
  operator := .noneOf
  legal := rfl

/-- The criterion with the beginning of an address, a line feed and an address as its input. -/
def twoMacsLeftOut (depth : Fin 10) : Criterion :=
  { macsLeftOut depth with
    input := some " 0:1B\n00:0c:29:3e:1:2"
    fragments := [.hardwareStart [0, 0x1b], .hardware [0, 0xc, 0x29, 0x3e, 1, 2]] }

/-- The colons, the blank in front and the line feed are read back. -/
theorem twoMacsLeftOut_read_back :
    (twoMacsLeftOut 1).BuiltFrom (.ok .empty) ∧
      ∃ s, Submission.ofView? (twoMacsLeftOut 1).view = some s ∧
        (∃ d, ofEntry (.ok .empty) s.entry = .ok d ∧ d.view = (twoMacsLeftOut 1).view) ∧
        Http.validate ⟨.ok .empty, []⟩ s.toJson = .ok (.reply 200 (twoMacsLeftOut 1).view) := by
  have hread : read (.text "macaddress") (.int 1) (.text "none_of") = .ok (macsLeftOut 1) :=
    read_names (macsLeftOut 1) rfl
  have hwords : words " 0:1B\n00:0c:29:3e:1:2" = ["0:1B", "00:0c:29:3e:1:2"] := by decide
  have hstart : Fragment.ofHardware "0:1B" = .ok (.hardwareStart [0, 0x1b]) := by
    have hoctets : Fragment.octetsOf "0:1B" = [0, 0x1b] := by decide
    rw [Fragment.ofHardware, if_pos (by decide), hoctets]
    rfl
  have haddress : Fragment.ofHardware "00:0c:29:3e:1:2" =
      .ok (.hardware [0, 0xc, 0x29, 0x3e, 1, 2]) := by
    have hoctets : Fragment.octetsOf "00:0c:29:3e:1:2" = [0, 0xc, 0x29, 0x3e, 1, 2] := by decide
    rw [Fragment.ofHardware, if_pos (by decide), hoctets]
    rfl
  have hset : (macsLeftOut 1).setInputFrom (.ok .empty) (some " 0:1B\n00:0c:29:3e:1:2") =
      .ok (twoMacsLeftOut 1) := by
    change (do
      let fragments ← (words " 0:1B\n00:0c:29:3e:1:2").mapM Fragment.ofHardware
      return { macsLeftOut 1 with input := some " 0:1B\n00:0c:29:3e:1:2", fragments }) = _
    rw [hwords, List.mapM_cons, hstart, List.mapM_cons, haddress]
    rfl
  have hbuilt : (twoMacsLeftOut 1).BuiltFrom (.ok .empty) := .set hread hset
  obtain ⟨s, hs, hentry, hvalidate⟩ := @view_read_back ⟨.ok .empty, []⟩ _ hbuilt
  exact ⟨hbuilt, s, hs, hentry, hvalidate Http.bodyReader Http.bodyReader_faithful⟩

end Criterion

end CaptureFilter
