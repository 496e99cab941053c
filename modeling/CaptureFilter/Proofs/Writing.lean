import CaptureFilter.Expression.Emit
import CaptureFilter.Proofs.Sections
import CaptureFilter.Proofs.Success

/-!
# What is written for levels

The clause of a level case by case, and the levels that are written: those from depth zero up to the
one that stops, without a gap.
Spec guidance: `SPEC_FULL.md` §4.2 step 5 (`_fragment`).
-/

namespace CaptureFilter.Expression

/-- What is written for a level, given the levels below. -/
inductive Writes (vlan : Bool) (level : Level) (below : List Level) : Piece → Prop where
  /-- A tagged level that is left out is stepped over if a deeper one is let in. -/
  | stepped (he : level.excluded = true) (hi : level.index ≠ 0)
      (hb : ∃ l ∈ below, l.excluded = false) : Writes vlan level below ⟨.tag, false⟩
  /-- Nothing says that untagged packets are left out if tagged ones are let in. -/
  | skipped (he : level.excluded = true) (hi : level.index = 0)
      (hb : ∃ l ∈ below, l.excluded = false) (hv : vlan = true) :
      Writes vlan level below ⟨.nothing, false⟩
  /-- A tagged level that is left out ends the expression if no deeper one is let in. -/
  | ended (he : level.excluded = true) (hi : level.index ≠ 0)
      (hb : ∀ l ∈ below, l.excluded = true) : Writes vlan level below ⟨.noTag, true⟩
  /-- If only untagged packets are left out all others are let in. -/
  | anyTag (he : level.excluded = true) (hi : level.index = 0) (hb : below = [])
      (hv : vlan = true) : Writes vlan level below ⟨.tag, true⟩
  /-- A tagged level that asks for nothing stops where nothing is asked for below. -/
  | empty (he : level.excluded = false) (ht : level.text = "") (hi : level.index ≠ 0) :
      Writes vlan level below ⟨.tag, below.all fun l ↦ !l.excluded && !l.filtered⟩
  /-- Without tags an untagged level that asks for nothing says nothing. -/
  | unsaid (he : level.excluded = false) (ht : level.text = "") (hi : level.index = 0)
      (hv : vlan = false) : Writes vlan level below ⟨.nothing, true⟩
  /-- Untagged packets are told from tagged ones that are let in too. -/
  | untagged (he : level.excluded = false) (ht : level.text = "") (hi : level.index = 0)
      (hb : ∃ l ∈ below, l.excluded = false) (hv : vlan = true) :
      Writes vlan level below ⟨.untagged, false⟩
  /-- Only untagged packets are let in. -/
  | onlyUntagged (he : level.excluded = false) (ht : level.text = "") (hi : level.index = 0)
      (hb : ∀ l ∈ below, l.excluded = true) (hv : vlan = true) :
      Writes vlan level below ⟨.noTag, true⟩
  /-- What a tagged level asks for is said behind its tag. -/
  | tagged (he : level.excluded = false) (ht : level.text ≠ "") (hi : level.index ≠ 0) :
      Writes vlan level below ⟨.tagAndTerms, false⟩
  /-- What the untagged level asks for is said as it is. -/
  | plain (he : level.excluded = false) (ht : level.text ≠ "") (hi : level.index = 0) :
      Writes vlan level below ⟨.terms, false⟩

/-- Whether a level is let in is found by looking at all of them. -/
theorem exists_included_iff {below : List Level} :
    (below.any (!·.excluded)) = true ↔ ∃ l ∈ below, l.excluded = false := by
  simp [List.any_eq_true]

private theorem forall_excluded_of_not {below : List Level}
    (h : ¬ (below.any (!·.excluded)) = true) : ∀ l ∈ below, l.excluded = true := by
  intro l hl
  by_cases he : l.excluded = true
  · exact he
  · exact absurd (exists_included_iff.mpr ⟨l, hl, Bool.eq_false_iff.mpr he⟩) h

/-- Every piece is one of these cases. -/
theorem writes_of_piece {vlan : Bool} {level : Level} {below : List Level} {p : Piece}
    (h : piece vlan level below = .ok p) : Writes vlan level below p := by
  unfold piece at h
  split at h
  · next he =>
    split at h
    · next hb =>
      split at h
      · next hi =>
        cases h
        exact .stepped he hi (exists_included_iff.mp hb)
      · next hi =>
        split at h
        · next hv =>
          cases h
          exact .skipped he (Decidable.not_not.mp hi) (exists_included_iff.mp hb) hv
        · cases h
    · next hb =>
      split at h
      · next hi =>
        cases h
        exact .ended he hi (forall_excluded_of_not hb)
      · next hi =>
        split at h
        · next hv =>
          cases h
          rw [Bool.and_eq_true] at hv
          exact .anyTag he (Decidable.not_not.mp hi) (List.isEmpty_iff.mp hv.1) hv.2
        · cases h
  · next he =>
    have he : level.excluded = false := Bool.eq_false_iff.mpr he
    split at h
    · next ht =>
      have ht : level.text = "" := String.isEmpty_iff.mp ht
      split at h
      · next hi =>
        cases h
        exact .empty he ht hi
      · next hi =>
        have hi : level.index = 0 := Decidable.not_not.mp hi
        split at h
        · next hv =>
          cases h
          exact .unsaid he ht hi (by simpa using hv)
        · next hv =>
          have hv : vlan = true := by simpa using hv
          split at h
          · next hb =>
            cases h
            exact .untagged he ht hi (exists_included_iff.mp hb) hv
          · next hb =>
            cases h
            exact .onlyUntagged he ht hi (forall_excluded_of_not hb) hv
    · next ht =>
      have ht : level.text ≠ "" := fun h ↦ ht (String.isEmpty_iff.mpr h)
      split at h
      · next hi =>
        cases h
        exact .tagged he ht hi
      · next hi =>
        cases h
        exact .plain he ht (Decidable.not_not.mp hi)

/-- Each of these cases is the piece of its level. -/
theorem piece_of_writes {vlan : Bool} {level : Level} {below : List Level} {p : Piece}
    (h : Writes vlan level below p) : piece vlan level below = .ok p := by
  have hany (hb : ∃ l ∈ below, l.excluded = false) : below.any (!·.excluded) = true :=
    exists_included_iff.mpr hb
  have hnone (hb : ∀ l ∈ below, l.excluded = true) : below.any (!·.excluded) = false := by
    rw [List.any_eq_false]
    intro l hl
    simp [hb l hl]
  unfold piece
  cases h with
  | stepped he hi hb => simp [he, hi, hany hb]
  | skipped he hi hb hv => simp [he, hi, hany hb, hv]
  | ended he hi hb => simp [he, hi, hnone hb]
  | anyTag he hi hb hv => simp [he, hi, hb, hv]
  | empty he ht hi => simp [he, ht, hi]
  | unsaid he ht hi hv => simp [he, ht, hi, hv]
  | untagged he ht hi hb hv => simp [he, ht, hi, hany hb, hv]
  | onlyUntagged he ht hi hb hv => simp [he, ht, hi, hnone hb, hv]
  | tagged he ht hi => simp [he, ht, hi]
  | plain he ht hi => simp [he, ht, hi]

/-- The cases of a tagged level. -/
theorem Writes.of_tagged {vlan : Bool} {level : Level} {below : List Level} {p : Piece}
    (hw : Writes vlan level below p) (hi : level.index ≠ 0) :
    (level.excluded = true ∧ (∃ l ∈ below, l.excluded = false) ∧ p = ⟨.tag, false⟩) ∨
      (level.excluded = true ∧ (∀ l ∈ below, l.excluded = true) ∧ p = ⟨.noTag, true⟩) ∨
      (level.excluded = false ∧ level.text = "" ∧
        p = ⟨.tag, below.all fun l ↦ !l.excluded && !l.filtered⟩) ∨
      (level.excluded = false ∧ level.text ≠ "" ∧ p = ⟨.tagAndTerms, false⟩) := by
  cases hw with
  | stepped he _ hb => exact .inl ⟨he, hb, rfl⟩
  | ended he _ hb => exact .inr (.inl ⟨he, hb, rfl⟩)
  | empty he ht => exact .inr (.inr (.inl ⟨he, ht, rfl⟩))
  | tagged he ht => exact .inr (.inr (.inr ⟨he, ht, rfl⟩))
  | skipped _ h0 | anyTag _ h0 | unsaid _ _ h0 | untagged _ _ h0 | onlyUntagged _ _ h0
  | plain _ _ h0 => exact absurd h0 hi

/-- The cases of the untagged level where packets may be tagged. -/
theorem Writes.of_untagged {level : Level} {below : List Level} {p : Piece}
    (hw : Writes true level below p) (hi : level.index = 0) :
    (level.excluded = true ∧ (∃ l ∈ below, l.excluded = false) ∧ p = ⟨.nothing, false⟩) ∨
      (level.excluded = true ∧ below = [] ∧ p = ⟨.tag, true⟩) ∨
      (level.excluded = false ∧ level.text = "" ∧ (∃ l ∈ below, l.excluded = false) ∧
        p = ⟨.untagged, false⟩) ∨
      (level.excluded = false ∧ level.text = "" ∧ (∀ l ∈ below, l.excluded = true) ∧
        p = ⟨.noTag, true⟩) ∨
      (level.excluded = false ∧ level.text ≠ "" ∧ p = ⟨.terms, false⟩) := by
  cases hw with
  | skipped he _ hb => exact .inl ⟨he, hb, rfl⟩
  | anyTag he _ hb => exact .inr (.inl ⟨he, hb, rfl⟩)
  | untagged he ht _ hb => exact .inr (.inr (.inl ⟨he, ht, hb, rfl⟩))
  | onlyUntagged he ht _ hb => exact .inr (.inr (.inr (.inl ⟨he, ht, hb, rfl⟩)))
  | plain he ht => exact .inr (.inr (.inr (.inr ⟨he, ht, rfl⟩)))
  | unsaid _ _ _ hv => cases hv
  | stepped _ h0 | ended _ h0 | empty _ _ h0 | tagged _ _ h0 => exact absurd hi h0

/-- Nothing ends at the untagged level if a deeper one is let in. -/
theorem Writes.last_of_untagged {level : Level} {below : List Level} {p : Piece}
    (hw : Writes true level below p) (hi : level.index = 0)
    (hin : ∃ l ∈ below, l.excluded = false) : p.last = false := by
  obtain ⟨l, hl, hle⟩ := hin
  rcases hw.of_untagged hi with
    ⟨-, -, rfl⟩ | ⟨-, rfl, -⟩ | ⟨-, -, -, rfl⟩ | ⟨-, -, hbelow, -⟩ | ⟨-, -, rfl⟩
  · rfl
  · exact absurd hl List.not_mem_nil
  · rfl
  · rw [hbelow l hl] at hle
    cases hle
  · rfl

/-! ### The levels that are written -/

/-- Levels whose depths go up by one, from a given depth. -/
def Consecutive : Nat → List Level → Prop
  | _, [] => True
  | index, level :: below => level.index = index ∧ Consecutive (index + 1) below

/-- The levels of the depths in a range follow each other. -/
theorem consecutive_range' (cs : List Criterion) (index bound : Nat) :
    Consecutive index ((List.range' index bound).map (Level.atDepth cs)) := by
  induction bound generalizing index with
  | zero => exact True.intro
  | succ bound ih =>
    rw [List.range'_succ, List.map_cons]
    exact ⟨Level.index_atDepth cs index, ih (index + 1)⟩

/-- The levels of criteria begin at depth zero and leave no depth out. -/
theorem consecutive_levels (cs : List Criterion) : Consecutive 0 (Level.levels cs) := by
  obtain ⟨bound, hl, -⟩ := Level.exists_levels cs
  rw [hl, List.range_eq_range']
  exact consecutive_range' cs 0 bound

/-- The first level of criteria is that of depth zero. -/
theorem head_of_levels {cs : List Criterion} {level : Level} {below : List Level}
    (h : Level.levels cs = level :: below) : level = Level.atDepth cs 0 ∧ Consecutive 1 below := by
  have hm : level ∈ Level.levels cs := by
    rw [h]
    exact List.mem_cons_self
  have hc := consecutive_levels cs
  rw [h] at hc
  have hlevel := Level.eq_atDepth hm
  rw [hc.1] at hlevel
  exact ⟨hlevel, hc.2⟩

/-- All levels below one are deeper. -/
theorem Consecutive.le_index {index : Nat} {levels : List Level} (h : Consecutive index levels) :
    ∀ level ∈ levels, index ≤ level.index := by
  induction levels generalizing index with
  | nil => exact fun level hl ↦ absurd hl List.not_mem_nil
  | cons first below ih =>
    intro level hl
    rcases List.mem_cons.mp hl with rfl | hm
    · exact Nat.le_of_eq h.1.symm
    · exact Nat.le_of_succ_le (ih h.2 level hm)

variable {stops : Piece → Bool} {vlan : Bool} {level : Level} {below levels : List Level}
  {all : List (Level × Clause)}

/-- What a step of the writer does: without tags it ends before a tagged level; otherwise it writes
a piece and goes on unless that is the last. -/
theorem writtenUpTo_cons (h : writtenUpTo stops vlan (level :: below) = .ok all) :
    (0 < level.index ∧ vlan = false ∧ all = []) ∨
      ((level.index = 0 ∨ vlan = true) ∧ ∃ p, Writes vlan level below p ∧
        ((stops p = true ∧ all = [(level, p.clause)]) ∨
          (stops p = false ∧ ∃ rest, writtenUpTo stops vlan below = .ok rest ∧
            all = (level, p.clause) :: rest))) := by
  rw [writtenUpTo] at h
  split at h
  · next hc =>
    rw [Bool.and_eq_true, decide_eq_true_eq] at hc
    cases h
    exact .inl ⟨hc.1, by simpa using hc.2, rfl⟩
  · next hc =>
    have hv : level.index = 0 ∨ vlan = true := by
      rw [Bool.and_eq_true, decide_eq_true_eq] at hc
      cases vlan with
      | true => exact .inr rfl
      | false => exact .inl (by simpa using hc)
    obtain ⟨p, hp, h⟩ := bind_eq_ok_iff.mp h
    refine .inr ⟨hv, p, writes_of_piece hp, ?_⟩
    split at h
    · next hs =>
      cases h
      exact .inl ⟨hs, rfl⟩
    · next hs =>
      obtain ⟨rest, hr, h⟩ := bind_eq_ok_iff.mp h
      cases h
      exact .inr ⟨Bool.eq_false_iff.mpr hs, rest, hr, rfl⟩

/-- A step of the writer where packets may be tagged. -/
theorem writtenUpTo_true_cons (h : writtenUpTo stops true (level :: below) = .ok all) :
    ∃ p, Writes true level below p ∧
      ((stops p = true ∧ all = [(level, p.clause)]) ∨
        (stops p = false ∧ ∃ rest, writtenUpTo stops true below = .ok rest ∧
          all = (level, p.clause) :: rest)) := by
  rcases writtenUpTo_cons h with ⟨-, hv, -⟩ | ⟨-, hstep⟩
  · cases hv
  · exact hstep

/-- A level is written as its case says, and the levels below it unless the writer stops. -/
theorem writtenUpTo_of_writes {p : Piece} (hv : level.index = 0 ∨ vlan = true)
    (hw : Writes vlan level below p) :
    writtenUpTo stops vlan (level :: below) =
      if stops p then .ok [(level, p.clause)]
      else (writtenUpTo stops vlan below).map ((level, p.clause) :: ·) := by
  have hgo : ¬ (decide (0 < level.index) && !vlan) = true := by
    rcases hv with hi | hv
    · simp [hi]
    · simp [hv]
  rw [writtenUpTo, if_neg hgo, piece_of_writes hw]
  change (if stops p = true then _ else _) = _
  split
  · rfl
  · cases writtenUpTo stops vlan below <;> rfl

/-- Every clause written is one of a level of the list. -/
theorem mem_writtenUpTo (h : writtenUpTo stops vlan levels = .ok all) {entry : Level × Clause}
    (hm : entry ∈ all) :
    entry.1 ∈ levels ∧ ∃ below last, Writes vlan entry.1 below ⟨entry.2, last⟩ := by
  induction levels generalizing all with
  | nil =>
    rw [writtenUpTo] at h
    cases h
    exact absurd hm List.not_mem_nil
  | cons level below ih =>
    rcases writtenUpTo_cons h with ⟨-, -, rfl⟩ | ⟨-, p, hp, ⟨-, rfl⟩ | ⟨-, rest, hr, rfl⟩⟩
    · exact absurd hm List.not_mem_nil
    · rw [List.mem_singleton.mp hm]
      exact ⟨List.mem_cons_self, below, p.last, hp⟩
    · rcases List.mem_cons.mp hm with rfl | hm
      · exact ⟨List.mem_cons_self, below, p.last, hp⟩
      · obtain ⟨hl, hw⟩ := ih hr hm
        exact ⟨List.mem_cons_of_mem level hl, hw⟩

/-- Something is written for levels that may be tagged. -/
theorem writtenUpTo_ne_nil (hne : levels ≠ []) (h : writtenUpTo stops true levels = .ok all) :
    all ≠ [] := by
  cases levels with
  | nil => exact absurd rfl hne
  | cons level below =>
    obtain ⟨p, -, ⟨-, rfl⟩ | ⟨-, rest, -, rfl⟩⟩ := writtenUpTo_true_cons h
    · exact List.cons_ne_nil _ _
    · exact List.cons_ne_nil _ _

/-- The level of depth zero is always written, and those behind it are tagged. -/
theorem writtenUpTo_of_consecutive (hc : Consecutive 0 levels) (hne : levels ≠ [])
    (h : writtenUpTo stops vlan levels = .ok all) :
    ∃ level clause rest, all = (level, clause) :: rest ∧ level.index = 0 ∧
      ∀ entry ∈ rest, 0 < entry.1.index := by
  cases levels with
  | nil => exact absurd rfl hne
  | cons level below =>
    rcases writtenUpTo_cons h with ⟨hi, -, -⟩ | ⟨-, p, -, ⟨-, rfl⟩ | ⟨-, rest, hr, rfl⟩⟩
    · exact absurd hc.1 (Nat.ne_of_gt hi)
    · exact ⟨level, p.clause, [], rfl, hc.1, fun entry hm ↦ absurd hm List.not_mem_nil⟩
    · refine ⟨level, p.clause, rest, rfl, hc.1, ?_⟩
      intro entry hm
      exact hc.2.le_index entry.1 (mem_writtenUpTo hr hm).1

/-! ### The texts of what is written -/

/-- A level with what is written for it. -/
def entryText (entry : Level × Clause) : Level × String := (entry.1, entry.2.text entry.1)

/-- An expression is put together from the texts of what is written. -/
theorem assemble_eq (boundary : Joint) (all : List (Level × Clause)) :
    assemble boundary all =
      joinParts boundary
        ("".intercalate (((all.map entryText).filter (·.1.index = 0)).map (·.2)))
        (chain ((all.map entryText).filter (0 < ·.1.index))) := rfl

end CaptureFilter.Expression
