import CaptureFilter.Expression.Level

/-!
# Sections and their levels

Which sections criteria leave out, and how many levels they make: one for each depth down to the
deepest section that a criterion mentions.
Spec guidance: `SPEC_FULL.md` §4.2 steps 2 and 3 (`_group_sections`, `_fill_sections`).
-/

namespace CaptureFilter

/-- Whether a criterion leaves its section out. -/
def Criterion.leavesOut (c : Criterion) : Bool := c.kind == .disposition && c.operator == .none

/-- A preset stands in the preset section. -/
theorem Criterion.kind_ne_preset (c : Criterion) (hp : c.place ≠ .preset) : c.kind ≠ .preset := by
  intro hk
  have hlegal := c.legal
  rw [combinationFault?, if_pos (.inr hk), if_neg (not_not_intro hk), if_pos hp] at hlegal
  cases hlegal

namespace Expression

open Level

/-- Criteria leave a section out by not mentioning it, or by a decision. -/
def LeftOut (cs : List Criterion) (index : Nat) : Prop :=
  criteriaAt index cs = [] ∨
    ∃ c ∈ criteriaAt index cs, c.kind = .disposition ∧ c.operator = .none

/-- Criteria mention a section. -/
def Mentioned (cs : List Criterion) (index : Nat) : Prop := criteriaAt index cs ≠ []

namespace Level

/-! ### Taking criteria in -/

/-- A filter leaves the depth, the decisions and whether the level is left out as they are. -/
theorem add_keeps (l : Level) (c : Criterion) :
    (l.add c).index = l.index ∧ (l.add c).excluded = l.excluded ∧
      (l.add c).disposition = l.disposition := by
  unfold add addTerm
  split
  · exact ⟨rfl, rfl, rfl⟩
  · exact ⟨rfl, rfl, rfl⟩

/-- Taking a criterion in does not change the depth. -/
theorem index_absorb (l : Level) (c : Criterion) : (l.absorb c).index = l.index := by
  unfold absorb
  split
  · rfl
  · split
    · dsimp only
      split
      · rfl
      · rfl
    · exact (add_keeps l c).1

/-- A level is left out as soon as one criterion leaves it out. -/
theorem excluded_absorb (l : Level) (c : Criterion) :
    (l.absorb c).excluded = (l.excluded || c.leavesOut) := by
  unfold absorb Criterion.leavesOut
  split
  · next he => rw [he, Bool.true_or]
  · next he =>
    rw [Bool.eq_false_iff.mpr he, Bool.false_or]
    split
    · next hk =>
      dsimp only
      rw [hk, beq_self_eq_true, Bool.true_and]
      split
      · next ho => rw [ho]; rfl
      · next ho => rw [beq_false_of_ne ho]
    · next hk =>
      rw [(add_keeps l c).2.1, Bool.eq_false_iff.mpr he, beq_false_of_ne hk, Bool.false_and]

/-- What a level takes in of a criterion that does not leave it out: a decision or a filter. -/
theorem absorb_of_keeps {l : Level} {c : Criterion} (he : l.excluded = false)
    (hc : c.leavesOut = false) :
    l.absorb c =
      if c.kind = .disposition then { l with disposition := some c.operator } else l.add c := by
  unfold absorb
  rw [if_neg (Bool.eq_false_iff.mp he)]
  split
  · next hk =>
    have ho : c.operator ≠ .none := by
      intro ho
      simp [Criterion.leavesOut, hk, ho] at hc
    rw [if_pos hk]
    exact if_neg ho
  · next hk => rw [if_neg hk]

/-- Taking criteria in does not change the depth. -/
theorem index_foldl_absorb (l : Level) (cs : List Criterion) :
    (cs.foldl absorb l).index = l.index := by
  induction cs generalizing l with
  | nil => rfl
  | cons c rest ih => rw [List.foldl_cons, ih, index_absorb]

/-- A level is left out if one of the criteria taken in leaves it out. -/
theorem excluded_foldl_absorb (l : Level) (cs : List Criterion) :
    (cs.foldl absorb l).excluded = (l.excluded || cs.any Criterion.leavesOut) := by
  induction cs generalizing l with
  | nil => rw [List.foldl_nil, List.any_nil, Bool.or_false]
  | cons c rest ih => rw [List.foldl_cons, ih, excluded_absorb, List.any_cons, Bool.or_assoc]

/-! ### The levels of criteria -/

/-- The level of a depth has that depth. -/
@[simp] theorem index_atDepth (cs : List Criterion) (index : Nat) :
    (atDepth cs index).index = index := by
  unfold atDepth
  split
  · rfl
  · rw [ofCriteria, index_foldl_absorb]

/-- The level of a depth is left out if its section is. -/
theorem excluded_atDepth_iff (cs : List Criterion) (index : Nat) :
    (atDepth cs index).excluded = true ↔ LeftOut cs index := by
  unfold atDepth LeftOut
  split
  · next he => simp [List.isEmpty_iff.mp he]
  · next he =>
    have hne : criteriaAt index cs ≠ [] := fun h ↦ he (List.isEmpty_iff.mpr h)
    rw [ofCriteria, excluded_foldl_absorb, Bool.false_or, List.any_eq_true]
    simp [hne, Criterion.leavesOut]

/-- Looking at the criteria shows whether a section is left out. -/
instance (cs : List Criterion) (index : Nat) : Decidable (LeftOut cs index) :=
  decidable_of_iff _ (excluded_atDepth_iff cs index)

/-- A level is let in if its section is. -/
theorem excluded_atDepth_eq_false_iff {cs : List Criterion} {index : Nat} :
    (atDepth cs index).excluded = false ↔ ¬ LeftOut cs index := by
  rw [← excluded_atDepth_iff, Bool.not_eq_true]

/-- The criteria of a depth are those whose section it is. -/
theorem mem_criteriaAt_iff {cs : List Criterion} {index : Nat} {c : Criterion} :
    c ∈ criteriaAt index cs ↔
      c ∈ cs ∧ ∃ depth : Fin 10, c.place = .depth depth ∧ depth.val = index := by
  rw [criteriaAt, List.mem_filter]
  cases c.place <;> simp

/-- The criteria of a depth keep their order. -/
theorem criteriaAt_append (index : Nat) (cs ds : List Criterion) :
    criteriaAt index (cs ++ ds) = criteriaAt index cs ++ criteriaAt index ds :=
  List.filter_append _ _

/-- No section is mentioned beyond the ninth. -/
theorem lt_of_mentioned {cs : List Criterion} {index : Nat} (h : Mentioned cs index) :
    index < 10 := by
  obtain ⟨c, hc⟩ := List.exists_mem_of_ne_nil _ h
  obtain ⟨-, depth, -, rfl⟩ := mem_criteriaAt_iff.mp hc
  exact depth.isLt

/-- A section is listed as mentioned if it is. -/
theorem mem_mentioned_iff {cs : List Criterion} {index : Nat} :
    index ∈ mentioned cs ↔ Mentioned cs index := by
  rw [mentioned, List.mem_filter, List.mem_range]
  constructor
  · intro h he
    simp [he] at h
  · intro h
    refine ⟨lt_of_mentioned h, ?_⟩
    simpa [Mentioned] using h

private theorem le_getLast_of_pairwise {indices : List Nat} (hs : indices.Pairwise (· < ·))
    {last : Nat} (hl : indices.getLast? = some last) {index : Nat} (hm : index ∈ indices) :
    index ≤ last := by
  obtain ⟨front, rfl⟩ := List.getLast?_eq_some_iff.mp hl
  rw [List.pairwise_append] at hs
  rcases List.mem_append.mp hm with hm | hm
  · exact Nat.le_of_lt (hs.2.2 index hm last List.mem_cons_self)
  · exact Nat.le_of_eq (List.mem_singleton.mp hm)

/-- Criteria make one level for each depth below a bound, which is right behind the deepest section
mentioned. -/
theorem exists_levels (cs : List Criterion) :
    ∃ bound, levels cs = (List.range bound).map (atDepth cs) ∧
      (∀ index, Mentioned cs index → index < bound) ∧ (bound ≠ 0 → Mentioned cs (bound - 1)) := by
  unfold levels
  split
  · next hn =>
    refine ⟨0, rfl, ?_, fun h ↦ absurd rfl h⟩
    intro index hm
    have hmem := mem_mentioned_iff.mpr hm
    rw [List.getLast?_eq_none_iff.mp hn] at hmem
    exact absurd hmem List.not_mem_nil
  · next deepest hd =>
    have hs : (mentioned cs).Pairwise (· < ·) := List.Pairwise.filter _ List.pairwise_lt_range
    refine ⟨deepest + 1, rfl, ?_, ?_⟩
    · intro index hm
      exact Nat.lt_succ_of_le (le_getLast_of_pairwise hs hd (mem_mentioned_iff.mpr hm))
    · intro _
      exact mem_mentioned_iff.mp (List.mem_of_getLast? hd)

/-- Criteria make levels if they mention a section. -/
theorem levels_ne_nil {cs : List Criterion} {index : Nat} (h : Mentioned cs index) :
    levels cs ≠ [] := by
  obtain ⟨bound, hlevels, hlt, -⟩ := exists_levels cs
  rw [hlevels, ne_eq, List.map_eq_nil_iff, List.range_eq_nil]
  have := hlt index h
  omega

/-- The tagged levels of criteria are those of the depths from one to the deepest section
mentioned. -/
theorem exists_below {cs : List Criterion} {level : Level} {below : List Level}
    (h : levels cs = level :: below) :
    ∃ deepest, Mentioned cs deepest ∧ (∀ index, Mentioned cs index → index ≤ deepest) ∧
      below = (List.range' 1 deepest).map (atDepth cs) := by
  obtain ⟨bound, hlevels, hlt, hlast⟩ := exists_levels cs
  cases bound with
  | zero =>
    rw [hlevels] at h
    cases h
  | succ deepest =>
    refine ⟨deepest, hlast (Nat.succ_ne_zero deepest), ?_, ?_⟩
    · exact fun index hm ↦ Nat.le_of_lt_succ (hlt index hm)
    · rw [hlevels, List.range_eq_range', List.range'_succ, List.map_cons] at h
      exact (List.cons.inj h).2.symm

/-- A section that is let in is mentioned. -/
theorem mentioned_of_not_leftOut {cs : List Criterion} {index : Nat} (h : ¬ LeftOut cs index) :
    Mentioned cs index :=
  fun he ↦ h (.inl he)

/-- A section that is let in is mentioned, and no criterion leaves it out. -/
theorem not_leftOut_iff {cs : List Criterion} {index : Nat} :
    ¬ LeftOut cs index ↔
      criteriaAt index cs ≠ [] ∧ ∀ c ∈ criteriaAt index cs, c.leavesOut = false := by
  simp [LeftOut, Criterion.leavesOut, not_or]

/-- A tagged level is let in exactly if a tagged section is. -/
theorem exists_tagged_included_iff {cs : List Criterion} {level : Level} {below : List Level}
    (h : levels cs = level :: below) :
    (∃ l ∈ below, l.excluded = false) ↔ ∃ index, 0 < index ∧ ¬ LeftOut cs index := by
  obtain ⟨deepest, -, hmax, rfl⟩ := exists_below h
  constructor
  · rintro ⟨l, hl, he⟩
    obtain ⟨index, hi, rfl⟩ := List.mem_map.mp hl
    refine ⟨index, (List.mem_range'_1.mp hi).1, ?_⟩
    rw [← excluded_atDepth_iff, he]
    exact Bool.false_ne_true
  · rintro ⟨index, hpos, hin⟩
    have hle : index ≤ deepest := hmax index (mentioned_of_not_leftOut hin)
    refine ⟨atDepth cs index, ?_, ?_⟩
    · exact List.mem_map_of_mem (List.mem_range'_1.mpr ⟨hpos, by omega⟩)
    · rw [← excluded_atDepth_iff] at hin
      exact Bool.eq_false_iff.mpr hin

/-- A level of criteria is that of its depth. -/
theorem eq_atDepth {cs : List Criterion} {level : Level} (h : level ∈ levels cs) :
    level = atDepth cs level.index := by
  obtain ⟨bound, hlevels, -⟩ := exists_levels cs
  rw [hlevels] at h
  obtain ⟨index, -, rfl⟩ := List.mem_map.mp h
  rw [index_atDepth]

end Level

end Expression

end CaptureFilter
