import CaptureFilter.Proofs.Summaries

/-!
# Sections left out at the end

Behind the deepest section that is let in one more clause is written at most: that there is no
further tag. So it matters that a deeper section is left out by a decision, but neither which one
nor how many are.
Spec guidance: `SPEC_FULL.md` §4.2 steps 3 and 4 (`_fill_sections`, watermarks).
-/

namespace CaptureFilter

/-- Whether a criterion leaves out a section that is deeper than a given one. -/
def Criterion.LeavesOutBelow (deepest : Nat) (c : Criterion) : Prop :=
  c.leavesOut = true ∧ ∃ depth : Fin 10, c.place = .depth depth ∧ deepest < depth.val

namespace Expression

open Level

/-! ### Levels -/

/-- Levels that end a list: there is one, and all of them are left out. -/
structure Trailing (levels : List Level) : Prop where
  /-- There is a level. -/
  ne_nil : levels ≠ []
  /-- No level is let in. -/
  excluded : ∀ l ∈ levels, l.excluded = true

namespace Trailing

variable {vlan : Bool} {level : Level} {front s t : List Level}

/-- No level is let in at the end. -/
theorem any_included (h : Trailing s) : s.any (!·.excluded) = false := by
  rw [List.any_eq_false]
  intro l hl
  simp [h.excluded l hl]

/-- What is written for a level does not depend on which levels end the list. -/
theorem piece_append (hs : Trailing s) (ht : Trailing t) (below : List Level) :
    piece vlan level (below ++ s) = piece vlan level (below ++ t) := by
  have hall {levels : List Level} (h : Trailing levels) :
      (levels.all fun l ↦ !l.excluded && !l.filtered) = false := by
    obtain ⟨l, hl⟩ := List.exists_mem_of_ne_nil _ h.ne_nil
    rw [List.all_eq_false]
    exact ⟨l, hl, by simp [h.excluded l hl]⟩
  have hempty {levels : List Level} (h : Trailing levels) : (below ++ levels).isEmpty = false :=
    List.isEmpty_eq_false_iff.mpr (List.append_ne_nil_of_right_ne_nil below h.ne_nil)
  rw [piece, piece, List.any_append, List.any_append, List.all_append, List.all_append,
    hs.any_included, ht.any_included, hall hs, hall ht, hempty hs, hempty ht]

/-- Only the first of the levels that end a list is written, as one that is left out. -/
theorem written_cons (h : Trailing (level :: t)) (hi : level.index ≠ 0) :
    written vlan (level :: t) = if vlan then .ok [(level, .noTag)] else .ok [] := by
  cases vlan with
  | false =>
    rw [written, writtenUpTo, if_pos (by simpa using Nat.pos_of_ne_zero hi)]
    rfl
  | true =>
    have hw : Writes true level t ⟨.noTag, true⟩ :=
      .ended (h.excluded level List.mem_cons_self) hi
        fun l hl ↦ h.excluded l (List.mem_cons_of_mem level hl)
    exact writtenUpTo_of_writes (.inr rfl) hw

/-- Lists of levels are written alike if their ends are. -/
theorem written_append (hs : Trailing s) (ht : Trailing t) (h : written vlan s = written vlan t)
    (front : List Level) : written vlan (front ++ s) = written vlan (front ++ t) := by
  induction front with
  | nil => exact h
  | cons level below ih =>
    rw [written] at ih ⊢
    rw [List.cons_append, List.cons_append, writtenUpTo, writtenUpTo, hs.piece_append ht, ih]

/-- Lists of levels are emitted alike if their ends begin with the same tagged level. -/
theorem emit_append (hs : Trailing (level :: s)) (ht : Trailing (level :: t))
    (hi : level.index ≠ 0) (front : List Level) :
    emit vlan (front ++ level :: s) = emit vlan (front ++ level :: t) := by
  have hany {below : List Level} (h : Trailing (level :: below)) :
      ((level :: below).any fun l ↦ decide (0 < l.index) && !l.excluded) = false := by
    rw [List.any_eq_false]
    intro l hl
    simp [h.excluded l hl]
  have hboundary : boundary (front ++ level :: s) = boundary (front ++ level :: t) := by
    rw [boundary, boundary, List.any_append, List.any_append, hany hs, hany ht]
  have hend : written vlan (level :: s) = written vlan (level :: t) := by
    rw [hs.written_cons hi, ht.written_cons hi]
  rw [emit, emit, hs.written_append ht hend, hboundary]

end Trailing

/-! ### Criteria -/

/-- Criteria let nothing in below a depth, and leave out a section there by a decision. -/
structure EndsBelow (deepest : Nat) (cs : List Criterion) : Prop where
  /-- All deeper sections are left out. -/
  leftOut : ∀ index, deepest < index → LeftOut cs index
  /-- One of them is mentioned. -/
  mentioned : ∃ index, deepest < index ∧ Mentioned cs index

variable {vlan : Bool} {cs ds : List Criterion} {deepest : Nat}

/-- What matters of the levels of such criteria: those down to the depth, one that is left out, and
others that are. -/
theorem EndsBelow.map_essence_levels (h : EndsBelow deepest cs) :
    ∃ rest, Trailing (ofSummary (deepest + 1) .leftOut :: rest) ∧
      (levels cs).map essence =
        (List.range (deepest + 1)).map (fun index ↦ ofSummary index (summary index cs)) ++
          ofSummary (deepest + 1) .leftOut :: rest := by
  obtain ⟨bound, hlevels, hlt, -⟩ := exists_levels cs
  obtain ⟨index, hi, hm⟩ := h.mentioned
  obtain ⟨more, rfl⟩ : ∃ more, bound = deepest + 1 + (more + 1) :=
    ⟨bound - (deepest + 2), by have := hlt index hm; omega⟩
  have hrange : List.range (deepest + 1 + (more + 1)) =
      List.range (deepest + 1) ++ List.range' (deepest + 1) (more + 1) := by
    have hsplit := List.range'_append_1 (s := 0) (m := deepest + 1) (n := more + 1)
    rw [List.range_eq_range', List.range_eq_range', ← hsplit, Nat.zero_add]
  have hout : ∀ index ∈ List.range' (deepest + 1) (more + 1),
      (essence ∘ atDepth cs) index = ofSummary index .leftOut := by
    intro index hm
    have hdeeper : deepest < index := (List.mem_range'_1.mp hm).1
    rw [Function.comp_apply, essence_atDepth, ofSummary_of_leftOut (h.leftOut index hdeeper),
      ofSummary]
  refine ⟨(List.range' (deepest + 2) more).map (ofSummary · .leftOut), ⟨List.cons_ne_nil _ _, ?_⟩,
    ?_⟩
  · intro l hl
    rw [← List.map_cons (f := (ofSummary · .leftOut)), List.mem_map] at hl
    obtain ⟨index, -, rfl⟩ := hl
    rfl
  · rw [hlevels, List.map_map, hrange, List.map_append, List.map_congr_left hout,
      List.range'_succ, List.map_cons]
    congr 1
    exact List.map_congr_left fun index _ ↦ essence_atDepth cs index

/-- Criteria that say the same of the sections down to a depth, and leave out all deeper ones, one
of them by a decision, compile alike. -/
theorem EndsBelow.compile_congr (hc : EndsBelow deepest cs) (hd : EndsBelow deepest ds)
    (hcp : ∀ c ∈ cs, c.isPreset = false) (hdp : ∀ d ∈ ds, d.isPreset = false)
    (h : ∀ index ≤ deepest, summary index cs = summary index ds) :
    compile vlan cs = compile vlan ds := by
  obtain ⟨s, hs, hcs⟩ := hc.map_essence_levels
  obtain ⟨t, ht, hds⟩ := hd.map_essence_levels
  have hfront : (List.range (deepest + 1)).map (fun index ↦ ofSummary index (summary index cs)) =
      (List.range (deepest + 1)).map fun index ↦ ofSummary index (summary index ds) := by
    apply List.map_congr_left
    intro index hm
    rw [h index (Nat.le_of_lt_succ (List.mem_range.mp hm))]
  rw [compile_of_no_preset hcp, compile_of_no_preset hdp, ← emit_map_essence, hcs, hfront,
    hs.emit_append ht (Nat.succ_ne_zero deepest), ← hds, emit_map_essence]

section Append

variable {a : Criterion} (ha : a.LeavesOutBelow deepest)

include ha

/-- A criterion of a deeper section says nothing of a section. -/
theorem summary_append_of_le {index : Nat} (hi : index ≤ deepest) :
    summary index (cs ++ [a]) = summary index cs := by
  obtain ⟨-, depth, hplace, hdeeper⟩ := ha
  have hnone : criteriaAt index [a] = [] := by
    apply List.eq_nil_iff_forall_not_mem.mpr
    intro c hc
    obtain ⟨hmem, other, hother, rfl⟩ := mem_criteriaAt_iff.mp hc
    rw [List.mem_singleton.mp hmem, hplace, Section.depth.injEq] at hother
    subst hother
    omega
  rw [summary, criteriaAt_append, hnone, List.append_nil, ← summary]

/-- A criterion that leaves a section out ends criteria that let no deeper section in. -/
theorem endsBelow_append (hout : ∀ index < 10, deepest < index → LeftOut cs index) :
    EndsBelow deepest (cs ++ [a]) where
  leftOut := by
    intro index hi
    apply Decidable.byContradiction
    intro hin
    obtain ⟨hm, hkeeps⟩ := not_leftOut_iff.mp hin
    have hlt : index < 10 := lt_of_mentioned hm
    -- the criterion is none of those of the section, so it is let in without it as well
    have hnone : criteriaAt index [a] = [] := by
      apply List.eq_nil_iff_forall_not_mem.mpr
      intro c hc
      have hleaves : c.leavesOut = true := by
        rw [List.mem_singleton.mp (mem_criteriaAt_iff.mp hc).1]
        exact ha.1
      rw [hkeeps c (by rw [criteriaAt_append]; exact List.mem_append_right _ hc)] at hleaves
      cases hleaves
    rw [criteriaAt_append, hnone, List.append_nil] at hm hkeeps
    exact not_leftOut_iff.mpr ⟨hm, hkeeps⟩ (hout index hlt hi)
  mentioned := by
    obtain ⟨-, depth, hplace, hdeeper⟩ := ha
    have hmem : a ∈ criteriaAt depth.val (cs ++ [a]) :=
      mem_criteriaAt_iff.mpr ⟨List.mem_append_right cs List.mem_cons_self, depth, hplace, rfl⟩
    exact ⟨depth.val, hdeeper, List.ne_nil_of_mem hmem⟩

/-- A criterion that leaves a section out is no preset. -/
theorem isPreset_append_eq_false (hp : ∀ c ∈ cs, c.isPreset = false) :
    ∀ c ∈ cs ++ [a], c.isPreset = false := by
  obtain ⟨-, depth, hplace, -⟩ := ha
  intro c hc
  rcases List.mem_append.mp hc with hc | hc
  · exact hp c hc
  · rw [List.mem_singleton.mp hc, Criterion.isPreset, hplace]
    rfl

end Append

/-- Where nothing deeper is let in, criteria compile alike whichever deeper section is left out
besides, and as they are if they leave one out themselves. -/
theorem trailing_depth_irrelevant (hp : ∀ c ∈ cs, c.isPreset = false)
    (hout : ∀ index < 10, deepest < index → LeftOut cs index) {a b : Criterion}
    (ha : a.LeavesOutBelow deepest) (hb : b.LeavesOutBelow deepest) (vlan : Bool) :
    compile vlan (cs ++ [a]) = compile vlan (cs ++ [b]) ∧
      ((∃ c ∈ cs, c.LeavesOutBelow deepest) → compile vlan (cs ++ [a]) = compile vlan cs) := by
  have hends {c : Criterion} (hc : c.LeavesOutBelow deepest) : EndsBelow deepest (cs ++ [c]) :=
    endsBelow_append hc hout
  constructor
  · refine (hends ha).compile_congr (hends hb) (isPreset_append_eq_false ha hp)
      (isPreset_append_eq_false hb hp) fun index hi ↦ ?_
    rw [summary_append_of_le ha hi, summary_append_of_le hb hi]
  · rintro ⟨c, hc, -, depth, hplace, hdeeper⟩
    have hm : c ∈ criteriaAt depth.val cs := mem_criteriaAt_iff.mpr ⟨hc, depth, hplace, rfl⟩
    have hcs : EndsBelow deepest cs := by
      refine ⟨fun index hi ↦ ?_, depth.val, hdeeper, List.ne_nil_of_mem hm⟩
      apply Decidable.byContradiction
      intro hin
      exact hin (hout index (lt_of_mentioned (mentioned_of_not_leftOut hin)) hi)
    exact (hends ha).compile_congr hcs (isPreset_append_eq_false ha hp) hp
      fun index hi ↦ summary_append_of_le ha hi

/-- The decision that leaves a section out. -/
def leftOutAt (depth : Fin 10) : Criterion where
  kind := .disposition
  place := .depth depth
  operator := .none
  legal := rfl

/-- A port of untagged packets, any packets with one tag, and a tag number behind two. -/
def openToTwoTags : List Criterion :=
  Criterion.accepted .empty
    [(.packet .port, 0, .noneOf, "22"), (.disposition, 1, .anyOf, ""),
      (.packet .vlan, 2, .anyOf, "7")]

/-- Leaving out section 4 or section 9 rules packets with three tags out, and it is the same to
leave out both. -/
theorem openToTwoTags_closed :
    compile true (openToTwoTags ++ [leftOutAt 4]) =
        .ok ("(not port 22) or (vlan or (vlan and (ether[18:2] & 0x0fff = 7)) and not vlan)") ∧
      compile true (openToTwoTags ++ [leftOutAt 9]) =
        compile true (openToTwoTags ++ [leftOutAt 4]) ∧
      compile true (openToTwoTags ++ [leftOutAt 4] ++ [leftOutAt 9]) =
        compile true (openToTwoTags ++ [leftOutAt 4]) := by
  have hfour : (leftOutAt 4).LeavesOutBelow 2 := ⟨rfl, 4, rfl, by decide⟩
  have hnine : (leftOutAt 9).LeavesOutBelow 2 := ⟨rfl, 9, rfl, by decide⟩
  have hmem : leftOutAt 4 ∈ openToTwoTags ++ [leftOutAt 4] :=
    List.mem_append_right openToTwoTags List.mem_cons_self
  refine ⟨rfl, ?_, ?_⟩
  · exact (trailing_depth_irrelevant (by decide) (by decide) hnine hfour true).1
  · exact (trailing_depth_irrelevant (by decide) (by decide) hnine hfour true).2
      ⟨_, hmem, hfour⟩

end Expression

end CaptureFilter
