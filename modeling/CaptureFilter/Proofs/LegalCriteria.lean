import CaptureFilter.Proofs.Building
import CaptureFilter.Proofs.Showing

/-!
# Legal criteria

Three values are read as a criterion exactly if they name a kind, a section and an operator that may
stand together, however the names are spelled. Otherwise a part is blamed: the first that is not
named, or else the first that does not fit the others. None is blamed where the digits of a section
are too many to be read, or where the value to be blamed holds a number of too many digits.
Spec guidance: `SPEC_FULL.md` §3 and §4.1 (`Attribute`, construction contract).
-/

namespace CaptureFilter

open Text

/-! ### What may stand together -/

/-- A kind, a section and an operator that may stand together. -/
inductive Legal : Kind → Section → Operator → Prop where
  /-- A preset, in the section of presets. -/
  | preset {op : Operator} (h : op ∈ [.any, .untagged, .tagged]) : Legal .preset .preset op
  /-- A decision on a section, on its own. -/
  | disposition {depth : Fin 10} {op : Operator} (h : op ∈ [.none, .anyOf]) :
    Legal .disposition (.depth depth) op
  /-- A decision on a section of tagged packets, together with its neighbours. -/
  | together {depth : Fin 10} (h : depth ≠ 0) : Legal .disposition (.depth depth) .allOf
  /-- A comparison of a packet field. -/
  | packet {field : PacketField} {depth : Fin 10} {op : Operator}
    (h : op ∈ [.allOf, .anyOf, .noneOf, .orAllOf, .orAnyOf, .orNoneOf]) :
    Legal (.packet field) (.depth depth) op

/-- The first part that does not fit the others. -/
inductive Misfit : Kind → Section → Operator → Part → Prop where
  /-- Another kind than a preset stands in the section of presets. -/
  | stray {k : Kind} {op : Operator} (h : k ≠ .preset) : Misfit k .preset op .kind
  /-- A preset stands at a depth. -/
  | elsewhere {depth : Fin 10} {op : Operator} : Misfit .preset (.depth depth) op .section
  /-- The kind fits the section, and the operator does not fit the two. -/
  | operator {k : Kind} {p : Section} {op : Operator} (h : k = .preset ↔ p = .preset)
    (hl : ¬ Legal k p op) : Misfit k p op .operator

variable {k : Kind} {p : Section} {op : Operator}

private theorem onPreset_iff : op.onPreset = true ↔ op ∈ [.any, .untagged, .tagged] := by
  cases op <;> decide

private theorem onSection_iff : op.onSection = true ↔ op ∈ [.none, .allOf, .anyOf] := by
  cases op <;> decide

private theorem onField_iff :
    op.onField = true ↔ op ∈ [.allOf, .anyOf, .noneOf, .orAllOf, .orAnyOf, .orNoneOf] := by
  cases op <;> decide

private theorem fault_stray (h : k ≠ .preset) :
    combinationFault? k .preset op = some (.notAPreset k) := by
  rw [combinationFault?, if_pos (.inl rfl), if_pos h]

private theorem fault_elsewhere {depth : Fin 10} :
    combinationFault? .preset (.depth depth) op = some (.presetElsewhere (.depth depth)) := by
  rw [combinationFault?, if_pos (.inr rfl), if_neg (by simp), if_pos (by simp)]

private theorem fault_preset :
    combinationFault? .preset .preset op =
      if op.onPreset = true then none else some (.noSuchPreset op) := by
  simp only [combinationFault?]
  cases op.onPreset <;> rfl

private theorem fault_disposition {depth : Fin 10} :
    combinationFault? .disposition (.depth depth) op =
      if op.onSection = true then
        if op = .allOf ∧ depth = 0 then some .allOfUntagged else none
      else some (.noSuchDisposition op) := by
  have hdepth : (Section.depth depth).isUntagged = true ↔ depth = 0 := by
    simp [Section.isUntagged]
  simp only [combinationFault?, hdepth]
  cases op.onSection <;> rfl

private theorem fault_packet {field : PacketField} {depth : Fin 10} :
    combinationFault? (.packet field) (.depth depth) op =
      if op.onField = true then none else some (.notForKind op (.packet field)) := by
  simp only [combinationFault?]
  cases op.onField <;> rfl

private theorem legal_preset_iff : Legal .preset .preset op ↔ op.onPreset = true := by
  rw [onPreset_iff]
  exact ⟨fun (.preset h) ↦ h, .preset⟩

private theorem legal_disposition_iff {depth : Fin 10} :
    Legal .disposition (.depth depth) op ↔
      op.onSection = true ∧ ¬ (op = .allOf ∧ depth = 0) := by
  rw [onSection_iff]
  constructor
  · intro h
    cases h with
    | disposition h =>
      revert h
      cases op <;> simp
    | together h => simp [h]
  · rintro ⟨hop, hdepth⟩
    by_cases ha : op = .allOf
    · rw [ha]
      exact .together fun hd ↦ hdepth ⟨ha, hd⟩
    · exact .disposition (by simpa [ha] using hop)

private theorem legal_packet_iff {field : PacketField} {depth : Fin 10} :
    Legal (.packet field) (.depth depth) op ↔ op.onField = true := by
  rw [onField_iff]
  exact ⟨fun (.packet h) ↦ h, .packet⟩

/-- A combination may stand and has no fault, or the part of its fault does not fit. -/
theorem legal_or_misfit (k : Kind) (p : Section) (op : Operator) :
    (Legal k p op ∧ combinationFault? k p op = none) ∨
      ∃ fault, combinationFault? k p op = some fault ∧ Misfit k p op fault.part := by
  cases k with
  | preset =>
    cases p with
    | preset =>
      rw [fault_preset]
      split
      · next h => exact .inl ⟨legal_preset_iff.mpr h, rfl⟩
      · next h => exact .inr ⟨_, rfl, .operator (by simp) (mt legal_preset_iff.mp h)⟩
    | depth d => exact .inr ⟨_, fault_elsewhere, .elsewhere⟩
  | disposition =>
    cases p with
    | preset => exact .inr ⟨_, fault_stray (by simp), .stray (by simp)⟩
    | depth d =>
      rw [fault_disposition]
      split
      · next hop =>
        split
        · next h =>
          exact .inr ⟨_, rfl, .operator (by simp) fun hl ↦ (legal_disposition_iff.mp hl).2 h⟩
        · next h => exact .inl ⟨legal_disposition_iff.mpr ⟨hop, h⟩, rfl⟩
      · next hop =>
        exact .inr ⟨_, rfl, .operator (by simp) fun hl ↦ hop (legal_disposition_iff.mp hl).1⟩
  | packet field =>
    cases p with
    | preset => exact .inr ⟨_, fault_stray (by simp), .stray (by simp)⟩
    | depth d =>
      rw [fault_packet]
      split
      · next h => exact .inl ⟨legal_packet_iff.mpr h, rfl⟩
      · next h => exact .inr ⟨_, rfl, .operator (by simp) (mt legal_packet_iff.mp h)⟩

/-- What does not fit may not stand. -/
theorem Misfit.not_legal {part : Part} (h : Misfit k p op part) : ¬ Legal k p op := by
  intro hl
  cases h with
  | stray h =>
    cases hl
    exact h rfl
  | elsewhere => cases hl
  | operator _ hno => exact hno hl

/-- Only one part is the first that does not fit. -/
theorem Misfit.unique {part other : Part} (h : Misfit k p op part) (h' : Misfit k p op other) :
    part = other := by
  cases h with
  | stray h =>
    cases h' with
    | stray => rfl
    | operator hfits => exact absurd (hfits.mpr rfl) h
  | elsewhere =>
    cases h' with
    | elsewhere => rfl
    | operator hfits => exact absurd (hfits.mp rfl) (by simp)
  | operator hfits =>
    cases h' with
    | stray h => exact absurd (hfits.mpr rfl) h
    | elsewhere => exact absurd (hfits.mp rfl) (by simp)
    | operator => rfl

/-- A combination has no fault exactly if it may stand. -/
theorem legal_iff : Legal k p op ↔ combinationFault? k p op = none := by
  rcases legal_or_misfit k p op with ⟨hl, hnone⟩ | ⟨fault, hf, hm⟩
  · exact iff_of_true hl hnone
  · exact iff_of_false hm.not_legal (by simp [hf])

/-- The part that does not fit is that of the combination's fault. -/
theorem misfit_iff {part : Part} :
    Misfit k p op part ↔ ∃ fault, combinationFault? k p op = some fault ∧ fault.part = part := by
  rcases legal_or_misfit k p op with ⟨hl, hnone⟩ | ⟨fault, hf, hm⟩
  · exact iff_of_false (fun hm ↦ hm.not_legal hl) (by simp [hnone])
  · constructor
    · exact fun h ↦ ⟨fault, hf, hm.unique h⟩
    · rintro ⟨other, hother, rfl⟩
      rw [hf, Option.some.injEq] at hother
      rwa [← hother]

/-! ### Names -/

namespace Criterion

/-- A value names what a text without the blanks at its ends and in lower case is the name of. -/
def Names (value : Json.Value) (name : String) : Prop :=
  ∃ s, value = .text s ∧ lower (trim s) = name

/-- A value names a section. -/
inductive NamesSection : Json.Value → Section → Prop where
  /-- A whole number is that of tags. -/
  | number (depth : Fin 10) : NamesSection (.int depth.val) (.depth depth)
  /-- A text of digits denotes that number. -/
  | digits {s : String} {depth : Fin 10} (hd : isNumber (lower (trim s)).toList = true)
    (hl : (lower (trim s)).toList.length ≤ Numeral.maxDigits)
    (hn : Nat.ofDigitChars 10 (lower (trim s)).toList 0 = depth.val) :
    NamesSection (.text s) (.depth depth)
  /-- A text is the word for the section of presets. -/
  | preset {s : String} (h : lower (trim s) = "preset") : NamesSection (.text s) .preset

/-- A value is a text of `count` digits, more than can be read. -/
def OversizedSection (value : Json.Value) (count : Nat) : Prop :=
  ∃ s, value = .text s ∧ Numeral.Oversized (lower (trim s)).toList ∧
    count = (lower (trim s)).toList.length

variable {value kind place operator : Json.Value}

/-! ### Values that cannot be shown -/

/-- A value that cannot be shown stands in the way of the message that would blame its part. -/
inductive Unshown (kind place operator : Json.Value) : Prop where
  /-- The value of the kind. -/
  | kind (h : kind.Unshowable) : Unshown kind place operator
  /-- The value of the section, behind a kind that is named. -/
  | place {k : Kind} (hk : Names kind k.name) (h : place.Unshowable) : Unshown kind place operator
  /-- The value of the operator, behind a kind and a section that are named. -/
  | operator {k : Kind} {p : Section} (hk : Names kind k.name) (hp : NamesSection place p)
    (h : operator.Unshowable) : Unshown kind place operator

private theorem not_unshowable_text {s : String} : ¬ (Json.Value.text s).Unshowable :=
  Json.Value.not_unshowable_of_forall (by simp) (by simp) (by simp)

/-- A number names nothing. -/
theorem not_names_int {n : Int} {name : String} : ¬ Names (.int n) name := by
  rintro ⟨s, hs, -⟩
  cases hs

private theorem Names.not_unshowable {name : String} (h : Names value name) :
    ¬ value.Unshowable := by
  obtain ⟨s, rfl, -⟩ := h
  exact not_unshowable_text

private theorem NamesSection.not_unshowable (h : NamesSection value p) : ¬ value.Unshowable := by
  cases h with
  | number depth =>
    rw [Json.Value.unshowable_int_iff]
    exact Numeral.not_unwritable_of_lt_ten depth.isLt
  | digits | preset => exact not_unshowable_text

private theorem OversizedSection.not_unshowable {count : Nat} (h : OversizedSection value count) :
    ¬ value.Unshowable := by
  obtain ⟨s, rfl, -⟩ := h
  exact not_unshowable_text

/-- Texts never stand in the way of a message. -/
theorem not_unshown_of_text {kind place operator : String} :
    ¬ Unshown (.text kind) (.text place) (.text operator) := by
  intro h
  cases h with
  | kind h => exact not_unshowable_text h
  | place _ h => exact not_unshowable_text h
  | operator _ _ h => exact not_unshowable_text h

/-- Values that JSON texts are read as never stand in the way of a message. -/
theorem not_unshown_of_sent (hk : kind.Sent) (hp : place.Sent) (ho : operator.Sent) :
    ¬ Unshown kind place operator := by
  intro h
  cases h with
  | kind h => exact hk.not_unshowable h
  | place _ h => exact hp.not_unshowable h
  | operator _ _ h => exact ho.not_unshowable h

private theorem refuseValue_of_unshowable {α : Type} {part : Part} (h : value.Unshowable) :
    (refuseValue part value : Except Failure α) = .error (.numeral .unwritable) := by
  rw [refuseValue, Json.Value.shown_of_unshowable h]
  rfl

private theorem refuseValue_ne_ok {α : Type} {part : Part} {a : α} :
    refuseValue part value ≠ .ok a := by
  intro h
  obtain ⟨_, -, h⟩ := bind_eq_ok_iff.mp h
  cases h

private theorem exists_refuseValue_eq {α : Type} {part : Part} (h : ¬ value.Unshowable) :
    ∃ shown, (refuseValue part value : Except Failure α) = refuse (.unreadable part shown) := by
  obtain ⟨shown, hs⟩ := Json.Value.exists_shown h
  refine ⟨shown, ?_⟩
  rw [refuseValue, hs]
  rfl

/-! ### Reading a kind and an operator -/

/-- A member of a list of all is found by its name, which no other has. -/
private theorem find?_name_iff {α : Type} {all : List α} {name : α → String}
    (hall : ∀ a, a ∈ all) (hname : ∀ {a b}, name a = name b → a = b) {text : String} {a : α} :
    all.find? (fun b ↦ name b = text) = some a ↔ text = name a := by
  constructor
  · intro h
    have hfound := List.find?_some h
    exact (of_decide_eq_true hfound).symm
  · rintro rfl
    cases h : all.find? (fun b ↦ name b = name a) with
    | none =>
      have hno := List.find?_eq_none.mp h a (hall a)
      simp at hno
    | some b =>
      have hfound := List.find?_some h
      rw [hname (of_decide_eq_true hfound)]

section

variable {α : Type} {part : Part} {found : String → Option α} {name : α → String}

private theorem readNamed_eq_ok_iff (hfound : ∀ s a, found s = some a ↔ lower (trim s) = name a)
    {a : α} : readNamed part found value = .ok a ↔ Names value (name a) := by
  cases value with
  | text s =>
    have hnames : Names (.text s) (name a) ↔ lower (trim s) = name a := by simp [Names]
    rw [hnames, ← hfound, readNamed]
    cases found s <;> simp [refuseValue_ne_ok]
  | _ => simp [readNamed, refuseValue_ne_ok, Names]

private theorem readNamed_of_forall_not
    (hfound : ∀ s a, found s = some a ↔ lower (trim s) = name a)
    (h : ∀ a, ¬ Names value (name a)) :
    readNamed part found value = refuseValue part value := by
  cases value with
  | text s =>
    cases hs : found s with
    | none =>
      rw [readNamed, hs]
      rfl
    | some a => exact absurd ⟨s, rfl, (hfound s a).mp hs⟩ (h a)
  | _ => rfl

end

private theorem kind_found (s : String) (k : Kind) :
    Kind.ofText? s = some k ↔ lower (trim s) = k.name :=
  find?_name_iff Kind.mem_all Kind.name_injective

private theorem operator_found (s : String) (op : Operator) :
    Operator.ofText? s = some op ↔ lower (trim s) = op.name :=
  find?_name_iff Operator.mem_all Operator.name_injective

/-- A kind is read exactly from what names it. -/
theorem readKind_eq_ok_iff : readKind value = .ok k ↔ Names value k.name :=
  readNamed_eq_ok_iff kind_found

private theorem readKind_of_forall_not (h : ∀ k : Kind, ¬ Names value k.name) :
    readKind value = refuseValue .kind value :=
  readNamed_of_forall_not kind_found h

/-- An operator is read exactly from what names it. -/
theorem readOperator_eq_ok_iff : readOperator value = .ok op ↔ Names value op.name :=
  readNamed_eq_ok_iff operator_found

private theorem readOperator_of_forall_not (h : ∀ op : Operator, ¬ Names value op.name) :
    readOperator value = refuseValue .operator value :=
  readNamed_of_forall_not operator_found h

/-! ### Reading a section -/

private theorem ofInt?_cases (n : Int) :
    (∃ depth : Fin 10, n = depth.val ∧ Section.ofInt? n = some (.depth depth)) ∨
      Section.ofInt? n = none := by
  by_cases h : 0 ≤ n ∧ n < 10
  · exact .inl ⟨⟨n.toNat, by omega⟩, (Int.toNat_of_nonneg h.1).symm, by simp [Section.ofInt?, h]⟩
  · exact .inr (by simp [Section.ofInt?, h])

private theorem readSection_of_digits {s : String}
    (hd : isNumber (lower (trim s)).toList = true) :
    readSection (.text s) = (Numeral.read (lower (trim s)).toList).mapError .numeral >>= fun n ↦
      (Section.ofInt? n).elim (refuseValue .section (.int n)) .ok := by
  have hp : lower (trim s) ≠ "preset" := by
    intro hp
    rw [hp] at hd
    exact absurd hd (by decide)
  rw [readSection]
  dsimp only
  rw [if_neg hp, if_pos hd, Fragment.number]

private theorem readSection_of_read {s : String} (hd : isNumber (lower (trim s)).toList = true)
    {n : Nat} (hr : Numeral.read (lower (trim s)).toList = .ok n) :
    readSection (.text s) =
      (Section.ofInt? n).elim (refuseValue .section (.int n)) .ok := by
  rw [readSection_of_digits hd, hr]
  rfl

private theorem readSection_of_names (h : NamesSection value p) : readSection value = .ok p := by
  have hdepth (depth : Fin 10) (refused : Except Failure Section) :
      (Section.ofInt? (depth.val : Int)).elim refused .ok = .ok (.depth depth) := by
    rw [Section.ofInt?_eq_some_depth]
    rfl
  cases h with
  | number depth => exact hdepth depth _
  | @digits s depth hd hl hn =>
    have hr := Numeral.read_of_isNumber hd hl
    rw [hn] at hr
    rw [readSection_of_read hd hr]
    exact hdepth depth _
  | preset h =>
    rw [readSection]
    exact if_pos h

private theorem readSection_of_oversized {count : Nat} (h : OversizedSection value count) :
    readSection value = .error (.numeral (.tooManyDigits count)) := by
  obtain ⟨s, hv, ho, hc⟩ := h
  have hr := (Numeral.read_eq_error_iff ho.1).mpr ⟨ho, rfl⟩
  rw [hv, hc, readSection_of_digits ho.1, hr]
  rfl

/-- A value names a section, or is a text of too many digits, or is refused as a section: with
itself or with the number that its digits denote. -/
private theorem readSection_cases (value : Json.Value) :
    (∃ p, NamesSection value p ∧ readSection value = .ok p) ∨
      (∃ count, OversizedSection value count) ∨
      ∃ blamed, readSection value = refuseValue .section blamed ∧
        (blamed.Unshowable ↔ value.Unshowable) := by
  cases value with
  | int n =>
    rcases ofInt?_cases n with ⟨depth, rfl, -⟩ | hno
    · exact .inl ⟨_, .number depth, readSection_of_names (.number depth)⟩
    · refine .inr (.inr ⟨.int n, ?_, .rfl⟩)
      change (Section.ofInt? n).elim _ _ = _
      rw [hno]
      rfl
  | text s =>
    by_cases hd : isNumber (lower (trim s)).toList = true
    · by_cases hl : (lower (trim s)).toList.length ≤ Numeral.maxDigits
      · have hr := Numeral.read_of_isNumber hd hl
        rcases ofInt?_cases (Nat.ofDigitChars 10 (lower (trim s)).toList 0) with
          ⟨depth, hn, -⟩ | hno
        · have hnames : NamesSection (.text s) (.depth depth) := .digits hd hl (by omega)
          exact .inl ⟨_, hnames, readSection_of_names hnames⟩
        · have hs := readSection_of_read hd hr
          rw [hno, Option.elim_none] at hs
          refine .inr (.inr ⟨_, hs, iff_of_false ?_ not_unshowable_text⟩)
          rw [Json.Value.unshowable_int_iff]
          exact Numeral.not_unwritable_of_read hr
      · exact .inr (.inl ⟨_, s, rfl, ⟨hd, Nat.not_le.mp hl⟩, rfl⟩)
    · by_cases hp : lower (trim s) = "preset"
      · exact .inl ⟨_, .preset hp, readSection_of_names (.preset hp)⟩
      · refine .inr (.inr ⟨.text s, ?_, .rfl⟩)
        rw [readSection]
        dsimp only
        rw [if_neg hp, if_neg hd]
  | _ => exact .inr (.inr ⟨_, rfl, .rfl⟩)

/-- A section is read exactly from what names it. -/
theorem readSection_eq_ok_iff : readSection value = .ok p ↔ NamesSection value p := by
  refine ⟨fun h ↦ ?_, readSection_of_names⟩
  rcases readSection_cases value with ⟨q, hq, hr⟩ | ⟨count, ho⟩ | ⟨blamed, hr, -⟩
  · rw [h] at hr
    cases hr
    exact hq
  · rw [readSection_of_oversized ho] at h
    cases h
  · exact absurd (hr.symm.trans h) refuseValue_ne_ok

private theorem readSection_of_forall_not (h : ∀ p, ¬ NamesSection value p)
    (ho : ∀ count, ¬ OversizedSection value count) :
    ∃ blamed, readSection value = refuseValue .section blamed ∧
      (blamed.Unshowable ↔ value.Unshowable) := by
  rcases readSection_cases value with ⟨p, hp, -⟩ | ⟨count, hc⟩ | hr
  · exact absurd hp (h p)
  · exact absurd hc (ho count)
  · exact hr

/-! ### Reading three values -/

private theorem make_of_fault {fault : Fault} (h : combinationFault? k p op = some fault) :
    make k p op = refuse fault := by
  unfold make
  split
  · next other hother =>
    rw [h] at hother
    cases hother
    rfl
  · next hno =>
    rw [h] at hno
    cases hno

/-- The criterion of a combination that may stand. -/
def ofLegal (h : Legal k p op) : Criterion :=
  { kind := k, place := p, operator := op, legal := legal_iff.mp h }

/-- The part that is blamed for three values that are no criterion. -/
inductive Blamed (kind place operator : Json.Value) : Part → Prop where
  /-- The kind is not named. -/
  | kind (h : ∀ k : Kind, ¬ Names kind k.name) : Blamed kind place operator .kind
  /-- The section is not named, behind a kind that is. -/
  | place {k : Kind} (hk : Names kind k.name) (h : ∀ p, ¬ NamesSection place p)
    (ho : ∀ count, ¬ OversizedSection place count) : Blamed kind place operator .section
  /-- The operator is not named, behind a kind and a section that are. -/
  | operator {k : Kind} {p : Section} (hk : Names kind k.name) (hp : NamesSection place p)
    (h : ∀ op : Operator, ¬ Names operator op.name) : Blamed kind place operator .operator
  /-- All three are named, and the part does not fit the others. -/
  | misfit {k : Kind} {p : Section} {op : Operator} {part : Part} (hk : Names kind k.name)
    (hp : NamesSection place p) (hop : Names operator op.name) (h : Misfit k p op part) :
    Blamed kind place operator part

/-- Three values that name what may stand together are read as that criterion. -/
theorem read_of_legal (h : Legal k p op) (hk : Names kind k.name) (hp : NamesSection place p)
    (hop : Names operator op.name) : read kind place operator = .ok (ofLegal h) := by
  rw [read, readKind_eq_ok_iff.mpr hk, readSection_eq_ok_iff.mpr hp, readOperator_eq_ok_iff.mpr hop]
  exact make_of_legal (legal_iff.mp h)

/-- A section of too many digits behind a kind leaves no answer. -/
theorem read_of_oversized {count : Nat} (hk : Names kind k.name)
    (ho : OversizedSection place count) :
    read kind place operator = .error (.numeral (.tooManyDigits count)) := by
  rw [read, readKind_eq_ok_iff.mpr hk, readSection_of_oversized ho]
  rfl

/-- Where a value cannot be shown that would be blamed, there is no answer. -/
theorem Unshown.read (h : Unshown kind place operator) :
    read kind place operator = .error (.numeral .unwritable) := by
  cases h with
  | kind h =>
    have hno (k : Kind) : ¬ Names kind k.name := fun hk ↦ hk.not_unshowable h
    rw [Criterion.read, readKind_of_forall_not hno, refuseValue_of_unshowable h]
    rfl
  | place hk h =>
    obtain ⟨blamed, hr, hiff⟩ := readSection_of_forall_not
      (fun p hp ↦ hp.not_unshowable h) (fun count ho ↦ ho.not_unshowable h)
    rw [Criterion.read, readKind_eq_ok_iff.mpr hk, hr, refuseValue_of_unshowable (hiff.mpr h)]
    rfl
  | operator hk hp h =>
    have hno (op : Operator) : ¬ Names operator op.name := fun hop ↦ hop.not_unshowable h
    rw [Criterion.read, readKind_eq_ok_iff.mpr hk, readSection_eq_ok_iff.mpr hp,
      readOperator_of_forall_not hno, refuseValue_of_unshowable h]
    rfl

/-- Where a part is blamed and its value can be shown, three values are refused with a fault of that
part. -/
theorem Blamed.read {part : Part} (h : Blamed kind place operator part)
    (hs : ¬ Unshown kind place operator) :
    ∃ fault, read kind place operator = refuse fault ∧ fault.part = part := by
  cases h with
  | kind h =>
    obtain ⟨shown, hr⟩ := exists_refuseValue_eq fun hu ↦ hs (.kind hu)
    refine ⟨.unreadable .kind shown, ?_, rfl⟩
    rw [Criterion.read, readKind_of_forall_not h, hr]
    rfl
  | place hk h ho =>
    obtain ⟨blamed, hr, hiff⟩ := readSection_of_forall_not h ho
    obtain ⟨shown, hshown⟩ := exists_refuseValue_eq fun hu ↦ hs (.place hk (hiff.mp hu))
    refine ⟨.unreadable .section shown, ?_, rfl⟩
    rw [Criterion.read, readKind_eq_ok_iff.mpr hk, hr, hshown]
    rfl
  | operator hk hp h =>
    obtain ⟨shown, hr⟩ := exists_refuseValue_eq fun hu ↦ hs (.operator hk hp hu)
    refine ⟨.unreadable .operator shown, ?_, rfl⟩
    rw [Criterion.read, readKind_eq_ok_iff.mpr hk, readSection_eq_ok_iff.mpr hp,
      readOperator_of_forall_not h, hr]
    rfl
  | misfit hk hp hop h =>
    obtain ⟨fault, hf, hpart⟩ := misfit_iff.mp h
    refine ⟨fault, ?_, hpart⟩
    rw [Criterion.read, readKind_eq_ok_iff.mpr hk, readSection_eq_ok_iff.mpr hp,
      readOperator_eq_ok_iff.mpr hop]
    exact make_of_fault hf

/-- Three values name what may stand together, or their section has too many digits, or a part is
blamed. -/
theorem legal_or_blamed (kind place operator : Json.Value) :
    (∃ k p op, Legal k p op ∧ Names kind k.name ∧ NamesSection place p ∧ Names operator op.name) ∨
      (∃ (k : Kind) (count : Nat), Names kind k.name ∧ OversizedSection place count) ∨
      ∃ part, Blamed kind place operator part := by
  -- the cases follow the order in which the parts are looked at
  by_cases hk : ∃ k : Kind, Names kind k.name
  swap
  · exact .inr (.inr ⟨_, .kind (not_exists.mp hk)⟩)
  obtain ⟨k, hk⟩ := hk
  by_cases ho : ∃ count, OversizedSection place count
  · obtain ⟨count, ho⟩ := ho
    exact .inr (.inl ⟨k, count, hk, ho⟩)
  by_cases hp : ∃ p, NamesSection place p
  swap
  · exact .inr (.inr ⟨_, .place hk (not_exists.mp hp) (not_exists.mp ho)⟩)
  obtain ⟨p, hp⟩ := hp
  by_cases hop : ∃ op : Operator, Names operator op.name
  swap
  · exact .inr (.inr ⟨_, .operator hk hp (not_exists.mp hop)⟩)
  obtain ⟨op, hop⟩ := hop
  rcases legal_or_misfit k p op with ⟨h, -⟩ | ⟨fault, -, hm⟩
  · exact .inl ⟨k, p, op, h, hk, hp, hop⟩
  · exact .inr (.inr ⟨_, .misfit hk hp hop hm⟩)

/-- What comes of reading three values: the criterion of what they name, no answer for too many
digits or for a value that cannot be shown, or a fault of the part that is blamed. -/
inductive Outcome (kind place operator : Json.Value) : Except Failure Criterion → Prop where
  /-- They name what may stand together. -/
  | legal {k : Kind} {p : Section} {op : Operator} (h : Legal k p op) (hk : Names kind k.name)
    (hp : NamesSection place p) (hop : Names operator op.name) :
    Outcome kind place operator (.ok (ofLegal h))
  /-- The section has too many digits, behind a kind that is named. -/
  | oversized {k : Kind} {count : Nat} (hk : Names kind k.name)
    (ho : OversizedSection place count) :
    Outcome kind place operator (.error (.numeral (.tooManyDigits count)))
  /-- A value cannot be shown that would be blamed. -/
  | unshown (h : Unshown kind place operator) :
    Outcome kind place operator (.error (.numeral .unwritable))
  /-- A part is blamed. -/
  | blamed {fault : Fault} (hs : ¬ Unshown kind place operator)
    (h : Blamed kind place operator fault.part) : Outcome kind place operator (refuse fault)

/-- Three values are read with one of these outcomes. -/
theorem outcome_read (kind place operator : Json.Value) :
    Outcome kind place operator (read kind place operator) := by
  rcases legal_or_blamed kind place operator with
    ⟨k, p, op, h, hk, hp, hop⟩ | ⟨k, count, hk, ho⟩ | ⟨part, hb⟩
  · rw [read_of_legal h hk hp hop]
    exact .legal h hk hp hop
  · rw [read_of_oversized hk ho]
    exact .oversized hk ho
  · by_cases hs : Unshown kind place operator
    · rw [hs.read]
      exact .unshown hs
    · obtain ⟨fault, hf, rfl⟩ := hb.read hs
      rw [hf]
      exact .blamed hs hb

variable {c : Criterion} {e : Numeral.Error} {part : Part}

/-- What is read is the criterion of what the three values name. -/
theorem read_eq_ok_iff :
    read kind place operator = .ok c ↔ ∃ k p op, ∃ h : Legal k p op,
      Names kind k.name ∧ NamesSection place p ∧ Names operator op.name ∧ c = ofLegal h := by
  constructor
  · intro hr
    have hout := outcome_read kind place operator
    rw [hr] at hout
    cases hout with
    | legal h hk hp hop => exact ⟨_, _, _, h, hk, hp, hop, rfl⟩
  · rintro ⟨k, p, op, h, hk, hp, hop, rfl⟩
    exact read_of_legal h hk hp hop

/-- Reading leaves no answer exactly at a section of too many digits behind a kind, and where a
value cannot be shown that would be blamed. -/
theorem read_eq_numeral_iff :
    read kind place operator = .error (.numeral e) ↔
      (∃ (k : Kind) (count : Nat), Names kind k.name ∧ OversizedSection place count ∧
        e = .tooManyDigits count) ∨ (Unshown kind place operator ∧ e = .unwritable) := by
  constructor
  · intro hr
    have hout := outcome_read kind place operator
    rw [hr] at hout
    cases hout with
    | oversized hk ho => exact .inl ⟨_, _, hk, ho, rfl⟩
    | unshown h => exact .inr ⟨h, rfl⟩
  · rintro (⟨k, count, hk, ho, rfl⟩ | ⟨h, rfl⟩)
    · exact read_of_oversized hk ho
    · exact h.read

/-- Reading refuses with a fault of a part exactly if the part is blamed and no value that would be
blamed cannot be shown. -/
theorem exists_refuse_iff :
    (∃ fault, read kind place operator = refuse fault ∧ fault.part = part) ↔
      Blamed kind place operator part ∧ ¬ Unshown kind place operator := by
  constructor
  · rintro ⟨fault, hr, rfl⟩
    have hout := outcome_read kind place operator
    rw [hr] at hout
    cases hout with
    | blamed hs h => exact ⟨h, hs⟩
  · rintro ⟨h, hs⟩
    exact h.read hs

/-- Three values are read exactly if they name a kind, a section and an operator that may stand
together, as the criterion of these, which shows them and what follows from the operator. Of all
others that JSON texts are read as, a section of too many digits behind a kind leaves no answer, and
the rest are refused with a fault of the part that is blamed. Among values of any origin, those that
cannot be shown leave no answer either where they would be blamed. -/
theorem read_exactly_legal (kind place operator : Json.Value) :
    (∀ c, read kind place operator = .ok c ↔ ∃ k p op, ∃ h : Legal k p op,
        Names kind k.name ∧ NamesSection place p ∧ Names operator op.name ∧ c = ofLegal h) ∧
      (∀ k p op (h : Legal k p op), (ofLegal h).view =
        .record [("type", .text k.name), ("section", p.value), ("operator", .text op.name),
          ("input", .text ""), ("filter", .text ""),
          ("exclude", .bool (op ∈ [.none, .noneOf, .orNoneOf])),
          ("required", .bool (op ∉ [.orAllOf, .orAnyOf, .orNoneOf]))]) ∧
      (kind.Sent ∧ place.Sent ∧ operator.Sent →
        (∀ e, read kind place operator = .error (.numeral e) ↔
          ∃ (k : Kind) (count : Nat), Names kind k.name ∧ OversizedSection place count ∧
            e = .tooManyDigits count) ∧
        ∀ part, (∃ fault, read kind place operator = refuse fault ∧ fault.part = part) ↔
          Blamed kind place operator part) ∧
      (∀ e, read kind place operator = .error (.numeral e) ↔
        (∃ (k : Kind) (count : Nat), Names kind k.name ∧ OversizedSection place count ∧
          e = .tooManyDigits count) ∨ (Unshown kind place operator ∧ e = .unwritable)) ∧
      (∀ part, (∃ fault, read kind place operator = refuse fault ∧ fault.part = part) ↔
        Blamed kind place operator part ∧ ¬ Unshown kind place operator) ∧
      ((∃ c, read kind place operator = .ok c) ∨
        (∃ e, read kind place operator = .error (.numeral e)) ∨
        ∃ fault, read kind place operator = refuse fault) := by
  refine ⟨fun c ↦ read_eq_ok_iff, fun k p op h ↦ ?_, fun hsent ↦ ?_, fun e ↦ read_eq_numeral_iff,
    fun part ↦ exists_refuse_iff, ?_⟩
  · cases op <;> rfl
  · have hs := not_unshown_of_sent hsent.1 hsent.2.1 hsent.2.2
    exact ⟨fun e ↦ read_eq_numeral_iff.trans (or_iff_left fun h ↦ hs h.1),
      fun part ↦ exists_refuse_iff.trans (and_iff_left hs)⟩
  · have hout := outcome_read kind place operator
    generalize read kind place operator = result at hout ⊢
    cases hout with
    | legal h hk hp hop => exact .inl ⟨_, rfl⟩
    | oversized hk ho => exact .inr (.inl ⟨_, rfl⟩)
    | unshown h => exact .inr (.inl ⟨_, rfl⟩)
    | blamed hs h => exact .inr (.inr ⟨_, rfl⟩)

/-- Names with blanks, capitals and leading zeros are read as the criterion that they name. A number
in the place of a kind is sent as well, and the kind is blamed. -/
theorem loosely_spelled :
    (∃ c, read (.text "\tPort ") (.text "007") (.text "OR_Any_Of") = .ok c ∧
      c.view = .record [("type", .text "port"), ("section", .int 7),
        ("operator", .text "or_any_of"), ("input", .text ""), ("filter", .text ""),
        ("exclude", .bool false), ("required", .bool false)]) ∧
      ∃ fault, read (.int 80) (.text "007") .null = refuse fault ∧ fault.part = .kind := by
  have h : Legal (.packet .port) (.depth 7) .orAnyOf := .packet (by decide)
  obtain ⟨hok, hview, -⟩ := read_exactly_legal (.text "\tPort ") (.text "007") (.text "OR_Any_Of")
  have hk : Names (.text "\tPort ") (Kind.packet .port).name := ⟨_, rfl, by decide⟩
  have hp : NamesSection (.text "007") (.depth 7) := .digits (by decide) (by decide) (by decide)
  have hop : Names (.text "OR_Any_Of") Operator.orAnyOf.name := ⟨_, rfl, by decide⟩
  obtain ⟨-, -, hsent, -⟩ := read_exactly_legal (.int 80) (.text "007") .null
  have hnumber : (Json.Value.int 80).Sent := ⟨"80", rfl⟩
  have hdigits : (Json.Value.text "007").Sent := ⟨"\"007\"", rfl⟩
  have hnull : Json.Value.null.Sent := ⟨"null", rfl⟩
  have hblamed : Blamed (.int 80) (.text "007") .null .kind := .kind fun _ ↦ not_names_int
  exact ⟨⟨ofLegal h, (hok _).mpr ⟨_, _, _, h, hk, hp, hop, rfl⟩, hview _ _ _ h⟩,
    ((hsent ⟨hnumber, hdigits, hnull⟩).2 _).mpr hblamed⟩

/-- A number of 4301 digits in the place of a kind is not blamed, although it names no kind. A
preset whose operator is none of a preset's is blamed for the operator, not for its section. -/
theorem greatNumber_unblamed :
    (Blamed (.int Numeral.leastUnwritable) (.int 0) (.text "any_of") .kind ∧
        read (.int Numeral.leastUnwritable) (.int 0) (.text "any_of") =
          .error (.numeral .unwritable)) ∧
      ∃ fault, read (.text "attribute_preset") (.text "preset") (.text "any_of") = refuse fault ∧
        fault.part = .operator := by
  have hgreat : Numeral.Unwritable Numeral.leastUnwritable := by
    rw [Numeral.Unwritable, Int.natAbs_natCast]
  have hshown : Unshown (.int Numeral.leastUnwritable) (.int 0) (.text "any_of") :=
    .kind (Json.Value.unshowable_int_iff.mpr hgreat)
  have hmisfit : Misfit .preset .preset .anyOf .operator := by
    refine .operator (by decide) fun h ↦ ?_
    cases h with
    | preset h => exact absurd h (by decide)
  have hblamed : Blamed (.text "attribute_preset") (.text "preset") (.text "any_of") .operator :=
    .misfit ⟨_, rfl, by decide⟩ (.preset (by decide)) ⟨_, rfl, by decide⟩ hmisfit
  exact ⟨⟨.kind fun _ ↦ not_names_int, hshown.read⟩,
    exists_refuse_iff.mpr ⟨hblamed, not_unshown_of_text⟩⟩

end Criterion

end CaptureFilter
