import CaptureFilter.Criterion.Basic
import CaptureFilter.Proofs.TokenFragments

/-!
# Criteria that have been built

Criteria come about by making one and setting its input, at most once and with any table. Every
fragment of such a criterion is that of a word of its input.
Spec guidance: `SPEC_FULL.md` §4.1 (`Attribute`, `set_input`).
-/

namespace CaptureFilter

open Text

namespace Criterion

/-- A criterion that has been made and whose input may have been set. -/
inductive Built : Criterion → Prop where
  /-- It has been made. -/
  | made {kind place operator c} (h : make kind place operator = .ok c) : Built c
  /-- Its input has been set. -/
  | set {c d table raw} (hc : Built c) (h : c.setInput table raw = .ok d) : Built d

/-- The criteria of numbered sections that are accepted among those asked for. -/
def accepted (table : Protocol.Table) (asked : List (Kind × Int × Operator × String)) :
    List Criterion :=
  asked.filterMap fun (kind, index, operator, input) ↦ do
    let place ← Section.ofInt? index
    match make kind place operator >>= (·.setInput table (some input)) with
    | .ok c => some c
    | .error _ => none

/-- A criterion that has just been made is what it was made of, without an input. -/
theorem eq_of_make {kind : Kind} {place : Section} {operator : Operator} {c : Criterion}
    (h : make kind place operator = .ok c) : ∃ legal, c = { kind, place, operator, legal } := by
  unfold make at h
  split at h
  · cases h
  · next hlegal =>
    cases h
    exact ⟨hlegal, rfl⟩

/-- What is read is made of what its three values name. -/
theorem exists_make_of_read {kind place operator : Json.Value} {c : Criterion}
    (h : read kind place operator = .ok c) :
    ∃ k p op, readKind kind = .ok k ∧ readSection place = .ok p ∧ readOperator operator = .ok op ∧
      make k p op = .ok c := by
  unfold read at h
  obtain ⟨k, hk, h⟩ := bind_eq_ok_iff.mp h
  obtain ⟨p, hp, h⟩ := bind_eq_ok_iff.mp h
  obtain ⟨op, ho, h⟩ := bind_eq_ok_iff.mp h
  exact ⟨k, p, op, hk, hp, ho, h⟩

/-- A criterion on packets stands at a depth. -/
theorem exists_depth_of_packet {c : Criterion} {field : PacketField} (h : c.kind = .packet field) :
    ∃ depth, c.place = .depth depth := by
  have hlegal := c.legal
  cases hp : c.place with
  | depth depth => exact ⟨depth, rfl⟩
  | preset =>
    rw [hp, h, combinationFault?, if_pos (.inl rfl), if_pos (by nofun)] at hlegal
    cases hlegal

/-- What is read has neither an input nor fragments. -/
theorem input_of_read {kind place operator : Json.Value} {c : Criterion}
    (h : read kind place operator = .ok c) : c.input = none ∧ c.fragments = [] := by
  obtain ⟨k, p, op, -, -, -, h⟩ := exists_make_of_read h
  obtain ⟨legal, rfl⟩ := eq_of_make h
  exact ⟨rfl, rfl⟩

/-- Setting the input leaves the fragments of its words. -/
theorem fragments_of_setInput {c d : Criterion} {table : Protocol.Table} {raw : Option String}
    (h : c.setInput table raw = .ok d) :
    c.fragmentsOf table (words (raw.getD "")) = .ok d.fragments := by
  unfold setInput at h
  split at h
  · cases h
  · obtain ⟨fragments, hf, h⟩ := bind_eq_ok_iff.mp h
    cases h
    exact hf

/-- A fragment of a word stands in a criterion of a packet field at a depth. -/
theorem mem_fragmentsOf {c : Criterion} {table : Protocol.Table} {tokens : List String}
    {fragments : List Fragment} (h : c.fragmentsOf table tokens = .ok fragments)
    {fragment : Fragment} (hm : fragment ∈ fragments) :
    ∃ field depth token, c.kind = .packet field ∧ c.place = .depth depth ∧ token ∈ tokens ∧
      Fragment.ofToken table depth field token = .ok fragment := by
  unfold fragmentsOf at h
  split at h
  · next field depth hk hp =>
    obtain ⟨token, ht, he⟩ := exists_mem_of_mapM_eq_ok h hm
    exact ⟨field, depth, token, hk, hp, ht, he⟩
  · cases h
    exact absurd hm List.not_mem_nil

namespace Built

variable {c : Criterion} {fragment : Fragment}

/-- The criteria that are accepted are built. -/
theorem of_mem_accepted {table : Protocol.Table} {asked : List (Kind × Int × Operator × String)}
    (h : c ∈ accepted table asked) : Built c := by
  obtain ⟨⟨kind, index, operator, input⟩, -, h⟩ := List.mem_filterMap.mp h
  obtain ⟨place, -, h⟩ := Option.bind_eq_some_iff.mp h
  split at h
  · next d hd =>
    cases h
    obtain ⟨c', hc, hd⟩ := bind_eq_ok_iff.mp hd
    exact .set (.made hc) hd
  · cases h

/-- Every fragment is that of a word of the input. -/
theorem exists_token (h : c.Built) (hm : fragment ∈ c.fragments) :
    ∃ table field depth token, c.kind = .packet field ∧ c.place = .depth depth ∧
      token ∈ words (c.input.getD "") ∧
      Fragment.ofToken table depth field token = .ok fragment := by
  cases h with
  | made hc =>
    obtain ⟨_, rfl⟩ := eq_of_make hc
    exact absurd hm List.not_mem_nil
  | @set c' _ table raw _ hs =>
    obtain ⟨field, depth, token, hk, hp, ht, he⟩ := mem_fragmentsOf (fragments_of_setInput hs) hm
    obtain ⟨hkind, hplace, -, hinput⟩ := setInput_keeps hs
    rw [hkind, hplace, hinput]
    exact ⟨table, field, depth, token, hk, hp, ht, he⟩

/-- A criterion that compares a packet field has no fragments exactly if its input is blank. -/
theorem fragments_eq_nil_iff (h : c.Built) {field : PacketField} {depth : Fin 10}
    (hk : c.kind = .packet field) (hp : c.place = .depth depth) :
    c.fragments = [] ↔ words (c.input.getD "") = [] := by
  cases h with
  | made hc =>
    obtain ⟨_, rfl⟩ := eq_of_make hc
    have hblank : words "" = [] := by decide
    exact iff_of_true rfl hblank
  | @set c' _ table raw _ hs =>
    obtain ⟨hkind, hplace, -, hinput⟩ := setInput_keeps hs
    rw [hkind] at hk
    rw [hplace] at hp
    have hf : (words (raw.getD "")).mapM (Fragment.ofToken table depth field) =
        .ok c.fragments := by
      simpa [fragmentsOf, hk, hp] using fragments_of_setInput hs
    have hnil : (words (raw.getD "")).mapM (Fragment.ofToken table depth field) = .ok [] ↔
        words (raw.getD "") = [] := mapM_eq_ok_nil_iff
    rw [hf, Except.ok.injEq] at hnil
    rw [hinput]
    exact hnil

/-- A criterion that compares no packet field has no fragments. -/
theorem fragments_eq_nil (h : c.Built) (hk : ∀ field, c.kind ≠ .packet field) :
    c.fragments = [] := by
  apply List.eq_nil_iff_forall_not_mem.mpr
  intro fragment hm
  obtain ⟨_, field, _, _, hf, -⟩ := h.exists_token hm
  exact hk field hf

end Built

end Criterion

end CaptureFilter
