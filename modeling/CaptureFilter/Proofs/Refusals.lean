import CaptureFilter.Proofs.Fidelity

/-!
# Criteria without an expression

Criteria have no expression for two reasons only: tagged packets are asked for where there are
none, or no packet is left. Both are decided by the first preset or, without one, by the untagged
level; no tagged level is ever refused.
Spec guidance: `SPEC_FULL.md` §4.2 (`compile`, `_compile_preset`, `_fragment`) and §7
(`CompileError`).
-/

namespace CaptureFilter.Expression

/-- Criteria ask for tagged packets by their first preset, or by leaving untagged packets out and
letting tagged ones in. -/
def AsksForTags (cs : List Criterion) : Prop :=
  (∃ c, cs.find? Criterion.isPreset = some c ∧ c.operator = .tagged) ∨
    ((∀ c ∈ cs, c.isPreset = false) ∧ LeftOut cs 0 ∧ ∃ index, 0 < index ∧ ¬ LeftOut cs index)

/-- Criteria without a preset leave all sections out, and do not mean the packets with any tag by
leaving out untagged ones alone. -/
def LeavesNothing (vlan : Bool) (cs : List Criterion) : Prop :=
  (∀ c ∈ cs, c.isPreset = false) ∧ cs ≠ [] ∧ LeftOut cs 0 ∧
    (∀ index, 0 < index → LeftOut cs index) ∧
      ¬ (vlan = true ∧ ∀ index, Mentioned cs index → index = 0)

variable {vlan : Bool} {cs : List Criterion} {level : Level} {below levels : List Level}
  {fault : CompileFault}

/-! ### Levels -/

/-- A tagged level is never refused. -/
theorem exists_piece_of_tagged (hi : level.index ≠ 0) : ∃ p, piece vlan level below = .ok p := by
  unfold piece
  simp only [hi, ne_eq, not_false_eq_true, if_true]
  repeat' split
  all_goals exact ⟨_, rfl⟩

/-- Tagged levels are always written. -/
theorem exists_writtenUpTo_of_tagged {stops : Piece → Bool} {n : Nat}
    (hc : Consecutive (n + 1) levels) : ∃ all, writtenUpTo stops vlan levels = .ok all := by
  induction levels generalizing n with
  | nil => exact ⟨[], rfl⟩
  | cons level below ih =>
    have hi : level.index ≠ 0 := by
      rw [hc.1]
      omega
    obtain ⟨p, hp⟩ : ∃ p, piece vlan level below = .ok p := exists_piece_of_tagged hi
    obtain ⟨rest, hr⟩ := ih hc.2
    rw [writtenUpTo, hp, hr]
    split
    · exact ⟨[], rfl⟩
    · change ∃ all, (if stops p = true then _ else _) = _
      split
      · exact ⟨_, rfl⟩
      · exact ⟨_, rfl⟩

/-- The untagged level is refused exactly if it is left out, and the others are let in where there
are no tags or are left out as well. -/
theorem piece_untagged_eq_error_iff (hi : level.index = 0) :
    piece vlan level below = .error fault ↔
      level.excluded = true ∧
        (((∃ l ∈ below, l.excluded = false) ∧ vlan = false ∧ fault = .untaggedExclusion) ∨
          ((∀ l ∈ below, l.excluded = true) ∧ ¬ (below = [] ∧ vlan = true) ∧
            fault = .excludesAll)) := by
  have hnone : (∀ l ∈ below, l.excluded = true) ↔ ¬ ∃ l ∈ below, l.excluded = false := by
    simp
  rw [piece, hnone, ← exists_included_iff]
  cases he : level.excluded with
  | false =>
    -- a level that is let in is never refused
    refine iff_of_false ?_ fun h ↦ Bool.false_ne_true h.1
    simp only [Bool.false_eq_true, if_false]
    repeat' split
    all_goals exact fun h ↦ nomatch h
  | true =>
    cases below.any (!·.excluded) with
    | true => cases vlan <;> simp [hi, eq_comm]
    | false => cases vlan <;> cases below <;> simp [hi, eq_comm]

/-- Levels are refused exactly if the untagged one is. -/
theorem written_eq_error_iff (hc : Consecutive 0 (level :: below)) :
    written vlan (level :: below) = .error fault ↔ piece vlan level below = .error fault := by
  have hi : level.index = 0 := hc.1
  obtain ⟨rest, hr⟩ : ∃ rest, writtenUpTo Piece.last vlan below = .ok rest :=
    exists_writtenUpTo_of_tagged hc.2
  rw [written, writtenUpTo, if_neg (by simp [hi]), hr]
  cases hp : piece vlan level below with
  | error e => simp [bind, Except.bind]
  | ok p =>
    refine iff_of_false ?_ (by simp)
    change ¬ (if p.last = true then _ else _) = _
    split
    · intro h
      cases h
    · intro h
      cases h

/-! ### Criteria -/

/-- A preset that stands is one of three. -/
theorem onPreset_of_isPreset {c : Criterion} (h : c.isPreset = true) :
    c.operator.onPreset = true := by
  have hplace : c.place = .preset := eq_of_beq h
  have hlegal := c.legal
  rw [combinationFault?, if_pos (.inl hplace)] at hlegal
  by_cases hk : c.kind = .preset
  · rw [if_neg (fun hn ↦ hn hk), if_neg (fun hn ↦ hn hplace)] at hlegal
    cases ho : c.operator.onPreset with
    | true => rfl
    | false => simp [ho] at hlegal
  · rw [if_pos hk] at hlegal
    cases hlegal

/-- The first preset is refused exactly if it asks for tags where there are none. -/
theorem compile_of_preset {c : Criterion} (h : cs.find? Criterion.isPreset = some c) :
    compile vlan cs = .error fault ↔
      vlan = false ∧ c.operator = .tagged ∧ fault = .taggedPreset := by
  have hon := onPreset_of_isPreset (List.find?_some h)
  have hc : compile vlan cs = ofPreset vlan c.operator := by rw [compile, h]
  rw [hc]
  cases ho : c.operator with
  | any | untagged => simp [ofPreset]
  | tagged => cases vlan <;> simp [ofPreset, eq_comm]
  | _ =>
    rw [ho] at hon
    cases hon

/-- Criteria without a preset make no level only if there are none. -/
theorem levels_eq_nil_iff (hp : ∀ c ∈ cs, c.isPreset = false) :
    Level.levels cs = [] ↔ cs = [] := by
  constructor
  · intro hl
    apply List.eq_nil_iff_forall_not_mem.mpr
    intro c hc
    cases hplace : c.place with
    | preset =>
      have hpc := hp c hc
      rw [Criterion.isPreset, hplace] at hpc
      cases hpc
    | depth tags =>
      have hm : c ∈ Level.criteriaAt tags.val cs :=
        Level.mem_criteriaAt_iff.mpr ⟨hc, tags, hplace, rfl⟩
      exact Level.levels_ne_nil (List.ne_nil_of_mem hm) hl
  · rintro rfl
    rfl

/-- There is no tagged level exactly if no tagged section is mentioned. -/
theorem below_eq_nil_iff (h : Level.levels cs = level :: below) :
    below = [] ↔ ∀ index, Mentioned cs index → index = 0 := by
  obtain ⟨deepest, hm, hmax, rfl⟩ := Level.exists_below h
  rw [List.map_eq_nil_iff, List.range'_eq_nil_iff]
  constructor
  · rintro rfl index hi
    exact Nat.le_zero.mp (hmax index hi)
  · exact fun hz ↦ hz deepest hm

/-- Criteria without a preset are refused exactly if the untagged section is left out, and the
others are let in where there are no tags or are left out as well. -/
theorem compile_of_no_preset_eq_error_iff (hp : ∀ c ∈ cs, c.isPreset = false) :
    compile vlan cs = .error fault ↔
      (vlan = false ∧ (LeftOut cs 0 ∧ ∃ index, 0 < index ∧ ¬ LeftOut cs index) ∧
          fault = .untaggedExclusion) ∨
        (LeavesNothing vlan cs ∧ fault = .excludesAll) := by
  have hemit : compile vlan cs = .error fault ↔ written vlan (Level.levels cs) = .error fault := by
    rw [compile_of_no_preset hp, emit]
    cases written vlan (Level.levels cs) <;> simp [Except.map]
  rw [hemit, LeavesNothing]
  cases hl : Level.levels cs with
  | nil =>
    -- without criteria nothing is written and nothing left out
    have hnil : cs = [] := (levels_eq_nil_iff hp).mp hl
    subst hnil
    simp [written, writtenUpTo, LeftOut, Level.criteriaAt]
  | cons level below =>
    have hne : cs ≠ [] := fun he ↦ by
      rw [(levels_eq_nil_iff hp).mpr he] at hl
      cases hl
    have hc := consecutive_levels cs
    rw [hl] at hc
    have hout : level.excluded = true ↔ LeftOut cs 0 := by
      rw [(head_of_levels hl).1]
      exact Level.excluded_atDepth_iff cs 0
    have hnone : (∀ l ∈ below, l.excluded = true) ↔ ∀ index, 0 < index → LeftOut cs index := by
      have hin := not_congr (Level.exists_tagged_included_iff hl)
      simpa using hin
    rw [written_eq_error_iff hc, piece_untagged_eq_error_iff hc.1, hout, hnone,
      Level.exists_tagged_included_iff hl, below_eq_nil_iff hl]
    constructor
    · rintro ⟨h0, ⟨hin, hv, rfl⟩ | ⟨hall, hnot, rfl⟩⟩
      · exact .inl ⟨hv, ⟨h0, hin⟩, rfl⟩
      · exact .inr ⟨⟨hp, hne, h0, hall, fun h ↦ hnot h.symm⟩, rfl⟩
    · rintro (⟨hv, ⟨h0, hin⟩, rfl⟩ | ⟨⟨-, -, h0, hall, hnot⟩, rfl⟩)
      · exact ⟨h0, .inl ⟨hin, hv, rfl⟩⟩
      · exact ⟨h0, .inr ⟨hall, fun h ↦ hnot h.symm, rfl⟩⟩

/-- Criteria are refused for three causes. -/
theorem compile_eq_error_iff :
    compile vlan cs = .error fault ↔
      (vlan = false ∧ (∃ c, cs.find? Criterion.isPreset = some c ∧ c.operator = .tagged) ∧
          fault = .taggedPreset) ∨
        (vlan = false ∧ ((∀ c ∈ cs, c.isPreset = false) ∧ LeftOut cs 0 ∧
            ∃ index, 0 < index ∧ ¬ LeftOut cs index) ∧ fault = .untaggedExclusion) ∨
        (LeavesNothing vlan cs ∧ fault = .excludesAll) := by
  cases hf : cs.find? Criterion.isPreset with
  | none =>
    have hp : ∀ c ∈ cs, c.isPreset = false := by simpa using hf
    rw [compile_of_no_preset_eq_error_iff hp]
    simp [iff_true_intro hp]
  | some c =>
    have hp : ¬ ∀ c ∈ cs, c.isPreset = false := fun hp ↦ by
      have hc := List.find?_some hf
      rw [hp c (List.mem_of_find?_eq_some hf)] at hc
      cases hc
    rw [compile_of_preset hf, LeavesNothing]
    simp [iff_false_intro hp]

/-- A refusal for tags where there are none, or for leaving nothing, is due to what the criteria ask
for. -/
theorem cause_of_error (h : compile vlan cs = .error fault) :
    ((FilterError.compile fault).sort = "unsupported_vlan_filter" ∧
        vlan = false ∧ AsksForTags cs) ∨
      ((FilterError.compile fault).sort = "expression_excludes_all_packets" ∧
        LeavesNothing vlan cs) := by
  rcases compile_eq_error_iff.mp h with ⟨hv, hc, rfl⟩ | ⟨hv, hin, rfl⟩ | ⟨hn, rfl⟩
  · exact .inl ⟨rfl, hv, .inl hc⟩
  · exact .inl ⟨rfl, hv, .inr hin⟩
  · exact .inr ⟨rfl, hn⟩

/-- Criteria that ask for tags where there are none are refused for that. -/
theorem error_of_asksForTags (hv : vlan = false) (h : AsksForTags cs) :
    ∃ fault, compile vlan cs = .error fault ∧
      (FilterError.compile fault).sort = "unsupported_vlan_filter" := by
  rcases h with hc | hin
  · exact ⟨.taggedPreset, compile_eq_error_iff.mpr (.inl ⟨hv, hc, rfl⟩), rfl⟩
  · exact ⟨.untaggedExclusion, compile_eq_error_iff.mpr (.inr (.inl ⟨hv, hin, rfl⟩)), rfl⟩

/-- Criteria that leave nothing are refused for that. -/
theorem error_of_leavesNothing (h : LeavesNothing vlan cs) :
    compile vlan cs = .error .excludesAll :=
  compile_eq_error_iff.mpr (.inr (.inr ⟨h, rfl⟩))

/-- Criteria have an expression unless tagged packets are asked for where there are none, or no
packet is left. -/
theorem exists_expression_iff :
    (∃ e, compile vlan cs = .ok e) ↔
      ¬ (vlan = false ∧ AsksForTags cs) ∧ ¬ LeavesNothing vlan cs := by
  cases h : compile vlan cs with
  | ok e =>
    refine iff_of_true ⟨e, rfl⟩ ⟨?_, ?_⟩
    · rintro ⟨hv, hasks⟩
      obtain ⟨fault, he, -⟩ := error_of_asksForTags hv hasks
      rw [h] at he
      cases he
    · intro hn
      rw [error_of_leavesNothing hn] at h
      cases h
  | error fault =>
    refine iff_of_false (fun ⟨e, he⟩ ↦ nomatch he) ?_
    rintro ⟨hasks, hn⟩
    rcases cause_of_error h with ⟨-, hc⟩ | ⟨-, hc⟩
    · exact hasks hc
    · exact hn hc

/-- Criteria have no expression exactly if tagged packets are asked for where there are none, or no
packet is left; no other cause occurs. -/
theorem no_expression_iff (vlan : Bool) (cs : List Criterion) :
    ((∃ fault, compile vlan cs = .error fault ∧
        (FilterError.compile fault).sort = "unsupported_vlan_filter") ↔
      vlan = false ∧ AsksForTags cs) ∧
    ((∃ fault, compile vlan cs = .error fault ∧
        (FilterError.compile fault).sort = "expression_excludes_all_packets") ↔
      LeavesNothing vlan cs) ∧
    ((∃ e, compile vlan cs = .ok e) ↔
      ¬ (vlan = false ∧ AsksForTags cs) ∧ ¬ LeavesNothing vlan cs) ∧
    ¬ ∃ fault, compile vlan cs = .error fault ∧
      (FilterError.compile fault).sort = "compile_error" := by
  refine ⟨⟨?_, ?_⟩, ⟨?_, ?_⟩, exists_expression_iff, ?_⟩
  · rintro ⟨fault, h, hs⟩
    rcases cause_of_error h with ⟨-, hasks⟩ | ⟨he, -⟩
    · exact hasks
    · exact absurd (hs.symm.trans he) (by decide)
  · exact fun ⟨hv, hasks⟩ ↦ error_of_asksForTags hv hasks
  · rintro ⟨fault, h, hs⟩
    rcases cause_of_error h with ⟨he, -⟩ | ⟨-, hn⟩
    · exact absurd (hs.symm.trans he) (by decide)
    · exact hn
  · exact fun hn ↦ ⟨.excludesAll, error_of_leavesNothing hn, rfl⟩
  · rintro ⟨fault, h, hs⟩
    rcases cause_of_error h with ⟨he, -⟩ | ⟨he, -⟩
    · exact absurd (hs.symm.trans he) (by decide)
    · exact absurd (hs.symm.trans he) (by decide)

end CaptureFilter.Expression
