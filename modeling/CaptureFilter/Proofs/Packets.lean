import CaptureFilter.Proofs.Sources

/-!
# What expressions let in

Whether an expression lets a packet in is found by going through the levels that are written, from
the first tagged one on: each is looked at behind its own tag, and joined to what has been found for
those before it. The untagged part is looked at in front of all tags.
Spec guidance: `SPEC_FULL.md` §3 (`Section`) and §4.2 step 5 (`_emit`).
-/

namespace CaptureFilter.Expression

/-! ### Formulas -/

/-- Two truth values joined. -/
def Joint.holds : Joint → Bool → Bool → Bool
  | .conj => and
  | .disj => or

namespace Formula

/-- Joining adds the depths. -/
@[simp] theorem depth_join (joint : Joint) (f g : Formula) :
    (joint.join f g).depth = f.depth + g.depth := by
  cases joint <;> rfl

/-- The second of two formulas joined is looked at behind the tags that the first asks for. -/
theorem holds_join (joint : Joint) (f g : Formula) (p : Packet) (before : Nat) :
    (joint.join f g).holds p before =
      joint.holds (f.holds p before) (g.holds p (before + f.depth)) := by
  cases joint <;> rfl

/-- One more tag is there or not. -/
@[simp] theorem holds_vlan (p : Packet) (before : Nat) :
    vlan.holds p before = decide (before < p.tags) := rfl

/-- How many tags a packet has matters only as far as a formula asks for tags. -/
theorem holds_congr {p q : Packet} (ht : p.truth = q.truth) {f : Formula} {before : Nat}
    (h : ∀ k, before ≤ k → k < before + f.depth → (k < p.tags ↔ k < q.tags)) :
    f.holds p before = f.holds q before := by
  induction f generalizing before with
  | atom text =>
    rw [holds, holds]
    split
    · next hv =>
      have hk := h before (Nat.le_refl before) (by simp [depth, hv])
      exact decide_eq_decide.mpr hk
    · rw [ht]
  | neg f ih => exact congrArg not (ih h)
  | conj f g ihf ihg | disj f g ihf ihg =>
    have hf : f.holds p before = f.holds q before := by
      apply ihf
      intro k hk hlt
      exact h k hk (by rw [depth]; omega)
    have hg : g.holds p (before + f.depth) = g.holds q (before + f.depth) := by
      apply ihg
      intro k hk hlt
      exact h k (by omega) (by rw [depth]; omega)
    rw [holds, holds, hf, hg]

end Formula

variable (cs : List Criterion) (p : Packet)

/-! ### Tagged levels -/

/-- Whether what is asked for at a depth lets a packet in, if anything is asked for. -/
def sectionHolds (index : Nat) : Bool := (sectionFormula? index cs).elim true (·.holds p index)

/-- Whether what is written for a tagged level lets a packet in. -/
def Clause.holds (index : Nat) : Clause → Bool
  | .tag => decide (index ≤ p.tags)
  | .noTag => decide (p.tags < index)
  | .tagAndTerms => decide (index ≤ p.tags) && sectionHolds cs p index
  | .nothing | .untagged | .terms => false

/-- What is found behind one more level, given the last level before it and what has been found down
to that, if there is one. -/
def chainStep (found : Option (Level × Bool)) (entry : Level × Clause) : Option (Level × Bool) :=
  let holds := entry.2.holds cs p entry.1.index
  some (entry.1,
    found.elim holds fun (previous, truth) ↦ (joint previous entry.1).holds truth holds)

/-- Nothing is joined to the first level. -/
theorem chainStep_none (level : Level) (clause : Clause) :
    chainStep cs p none (level, clause) = some (level, clause.holds cs p level.index) := rfl

/-- A level is joined to what has been found before it. -/
theorem chainStep_some (previous level : Level) (truth : Bool) (clause : Clause) :
    chainStep cs p (some (previous, truth)) (level, clause) =
      some (level, (joint previous level).holds truth (clause.holds cs p level.index)) := rfl

/-- What is found in the end lets a packet in. -/
def Found (found : Option (Level × Bool)) : Bool := found.elim false (·.2)

/-- Whether tagged levels written with their clauses let a packet in. -/
def chainHolds (entries : List (Level × Clause)) : Bool :=
  Found (entries.foldl (chainStep cs p) none)

variable {cs p} {level previous : Level} {below levels : List Level} {piece : Piece}
  {clause : Clause}  {entries all : List (Level × Clause)} {stops : Piece → Bool}

/-- A tagged level has a formula, which asks for one tag. -/
theorem exists_entryFormula? (hw : Writes true level below piece) (hi : level.index ≠ 0)
    (hs : level.excluded = false → level.Says (sectionFormula? level.index cs)) :
    ∃ g, entryFormula? cs (level, piece.clause) = some (level, g) ∧ g.depth = 1 ∧
      g.holds p (level.index - 1) = piece.clause.holds cs p level.index := by
  have hv : decide (level.index - 1 < p.tags) = decide (level.index ≤ p.tags) :=
    decide_eq_decide.mpr (by omega)
  rcases hw.of_tagged hi with ⟨-, -, rfl⟩ | ⟨-, -, rfl⟩ | ⟨-, -, rfl⟩ | ⟨he, ht, rfl⟩
  · exact ⟨.vlan, rfl, rfl, hv⟩
  · refine ⟨.neg .vlan, rfl, rfl, ?_⟩
    rw [Formula.holds, Formula.holds_vlan, hv, Clause.holds, ← decide_not]
    exact decide_eq_decide.mpr (by omega)
  · exact ⟨.vlan, rfl, rfl, hv⟩
  · cases hf : sectionFormula? level.index cs with
    | none => exact absurd ((hs he).mpr hf) ht
    | some f =>
      refine ⟨.conj .vlan f, by rw [entryFormula?, hf]; rfl, ?_, ?_⟩
      · rw [Formula.depth, depth_of_sectionFormula? hf]
        rfl
      · have hd : level.index - 1 + Formula.vlan.depth = level.index :=
          Nat.succ_pred_eq_of_ne_zero hi
        rw [Formula.holds, Formula.holds_vlan, hv, hd, Clause.holds, sectionHolds, hf]
        rfl

/-- The formulas of tagged levels behind a formula hold as what is found for the levels. -/
theorem holds_chainFormulaAfter {f : Formula} (hc : Consecutive (f.depth + 1) levels)
    (hs : ∀ level ∈ levels, level.excluded = false → level.Says (sectionFormula? level.index cs))
    (h : writtenUpTo stops true levels = .ok entries) :
    (chainFormulaAfter previous f (entries.filterMap (entryFormula? cs))).holds p 0 =
      Found (entries.foldl (chainStep cs p) (some (previous, f.holds p 0))) := by
  induction levels generalizing f previous entries with
  | nil =>
    cases h
    rfl
  | cons level below ih =>
    have hi : level.index ≠ 0 := by
      rw [hc.1]
      omega
    rcases writtenUpTo_cons h with ⟨-, hv, -⟩ | ⟨-, piece, hw, hrest⟩
    · cases hv
    · obtain ⟨g, hg, hdepth, hholds⟩ :=
        exists_entryFormula? (p := p) hw hi (hs level List.mem_cons_self)
      have hjoin : ((joint previous level).join f g).holds p 0 =
          (joint previous level).holds (f.holds p 0) (piece.clause.holds cs p level.index) := by
        rw [Formula.holds_join, Nat.zero_add, ← hholds, hc.1, Nat.add_sub_cancel]
      rcases hrest with ⟨-, rfl⟩ | ⟨-, rest, hr, rfl⟩
      · rw [List.filterMap_cons_some hg]
        exact hjoin
      · rw [List.filterMap_cons_some hg, chainFormulaAfter, ih _ _ hr, hjoin]
        · rfl
        · rw [Formula.depth_join, hdepth]
          exact hc.2
        · exact fun l hl ↦ hs l (List.mem_cons_of_mem level hl)

/-- The formula of the tagged levels holds as what is found for them. -/
theorem holds_chainFormula? (hc : Consecutive 1 levels)
    (hs : ∀ level ∈ levels, level.excluded = false → level.Says (sectionFormula? level.index cs))
    (h : writtenUpTo stops true levels = .ok entries) (hne : levels ≠ []) :
    ∃ f, chainFormula? (entries.filterMap (entryFormula? cs)) = some f ∧
      f.holds p 0 = chainHolds cs p entries := by
  cases levels with
  | nil => exact absurd rfl hne
  | cons level below =>
    have hi : level.index ≠ 0 := by
      rw [hc.1]
      omega
    rcases writtenUpTo_cons h with ⟨-, hv, -⟩ | ⟨-, piece, hw, hrest⟩
    · cases hv
    · obtain ⟨g, hg, hdepth, hholds⟩ :=
        exists_entryFormula? (p := p) hw hi (hs level List.mem_cons_self)
      rw [hc.1] at hholds
      rcases hrest with ⟨-, rfl⟩ | ⟨-, rest, hr, rfl⟩
      · refine ⟨g, by rw [List.filterMap_cons_some hg]; rfl, ?_⟩
        rw [hholds, ← hc.1]
        rfl
      · refine ⟨_, by rw [List.filterMap_cons_some hg, chainFormula?], ?_⟩
        rw [holds_chainFormulaAfter _ _ hr, hholds, ← hc.1]
        · rfl
        · rw [hdepth]
          exact hc.2
        · exact fun l hl ↦ hs l (List.mem_cons_of_mem level hl)

/-! ### The two parts -/

/-- The untagged part is looked at in front of all tags, and joined to what is found for the tagged
levels. -/
theorem letsIn_assembleFormula? {first : Level × Clause} (h0 : first.1.index = 0)
    (hd : ∀ f, first.2.formula? (sectionFormula? 0 cs) = some f → f.depth = 0)
    (hc : Consecutive 1 levels)
    (hs : ∀ level ∈ levels, level.excluded = false → level.Says (sectionFormula? level.index cs))
    (h : writtenUpTo stops true levels = .ok entries) (hne : levels ≠ []) (boundary : Joint) :
    letsIn (assembleFormula? cs boundary (first :: entries)) p =
      (first.2.formula? (sectionFormula? 0 cs)).elim (chainHolds cs p entries) fun f ↦
        boundary.holds (f.holds p 0) (chainHolds cs p entries) := by
  have hentries : ∀ entry ∈ entries, 0 < entry.1.index := fun entry hm ↦
    hc.le_index entry.1 (mem_writtenUpTo h hm).1
  obtain ⟨g, hg, hholds⟩ := holds_chainFormula? (p := p) hc hs h hne
  rw [assembleFormula?_cons boundary h0 hentries, hg, entryFormula?, h0, Option.map_map]
  cases hf : first.2.formula? (sectionFormula? 0 cs) with
  | none => exact hholds
  | some f =>
    rw [Option.elim_some, ← hholds]
    change (boundary.join f g).holds p 0 = _
    rw [Formula.holds_join, hd f hf, Nat.zero_add]

/-- The formula of untagged packets, if they are let in. -/
def untaggedFormula? (cs : List Criterion) : Option Formula :=
  if (Level.atDepth cs 0).excluded then none
  else some ((sectionFormula? 0 cs).getD
    (.conj (.neg (.atom "ether proto 0x8100")) (.neg (.atom "ether proto 0x88a8"))))

/-- Whether the untagged part lets a packet in. -/
def untaggedHolds (cs : List Criterion) (p : Packet) : Bool :=
  (untaggedFormula? cs).elim false (·.holds p 0)

/-- The formula of untagged packets asks for no tag. -/
theorem depth_of_untaggedFormula? {f : Formula} (hf : untaggedFormula? cs = some f) :
    f.depth = 0 := by
  rw [untaggedFormula?] at hf
  split at hf
  · cases hf
  · cases hs : sectionFormula? 0 cs with
    | none =>
      rw [hs] at hf
      cases hf
      rfl
    | some g =>
      rw [hs] at hf
      cases hf
      exact depth_of_sectionFormula? hs

section Criteria

variable (hb : ∀ c ∈ cs, c.Built) (hlevels : Level.levels cs = level :: below)

include hb hlevels

private theorem formula?_of_untagged {piece : Piece} (hw : Writes true level below piece)
    (hin : ∃ l ∈ below, l.excluded = false) :
    piece.clause.formula? (sectionFormula? 0 cs) = untaggedFormula? cs := by
  have hm : level ∈ Level.levels cs := by
    rw [hlevels]
    exact List.mem_cons_self
  obtain ⟨hlevel, -⟩ := head_of_levels hlevels
  have hi : level.index = 0 := by
    rw [hlevel]
    exact Level.index_atDepth cs 0
  have hasked := Level.says_of_mem_levels hb hm
  rw [hi] at hasked
  obtain ⟨l, hl, hle⟩ := hin
  rw [untaggedFormula?, ← hlevel]
  rcases hw.of_untagged hi with
    ⟨he, -, rfl⟩ | ⟨-, hbelow, -⟩ | ⟨he, ht, -, rfl⟩ | ⟨-, -, hbelow, -⟩ | ⟨he, ht, rfl⟩
  · rw [if_pos he]
    rfl
  · rw [hbelow] at hl
    exact absurd hl List.not_mem_nil
  · rw [if_neg (Bool.eq_false_iff.mp he), (hasked he).mp ht]
    rfl
  · rw [hbelow l hl] at hle
    cases hle
  · rw [if_neg (Bool.eq_false_iff.mp he)]
    cases hf : sectionFormula? 0 cs with
    | none => exact absurd ((hasked he).mpr hf) ht
    | some f => rfl

/-- Where a tagged level is let in, the untagged part and the chain are alternatives. -/
theorem letsIn_eq_or {stops : Piece → Bool} {piece : Piece} (hw : Writes true level below piece)
    (hin : ∃ l ∈ below, l.excluded = false) (hr : writtenUpTo stops true below = .ok entries) :
    letsIn (assembleFormula? cs (boundary (Level.levels cs)) ((level, piece.clause) :: entries)) p =
      (untaggedHolds cs p || chainHolds cs p entries) := by
  have hc := consecutive_levels cs
  rw [hlevels] at hc
  have hs : ∀ l ∈ below, l.excluded = false → l.Says (sectionFormula? l.index cs) := by
    intro l hl
    apply Level.says_of_mem_levels hb
    rw [hlevels]
    exact List.mem_cons_of_mem level hl
  have hboundary : boundary (Level.levels cs) = .disj := by
    obtain ⟨l, hl, hle⟩ := hin
    have hpos : 0 < l.index := hc.2.le_index l hl
    rw [boundary, if_pos]
    rw [List.any_eq_true]
    refine ⟨l, ?_, ?_⟩
    · rw [hlevels]
      exact List.mem_cons_of_mem level hl
    · rw [decide_eq_true hpos, hle]
      rfl
  have hformula := formula?_of_untagged hb hlevels hw hin
  rw [letsIn_assembleFormula? hc.1 _ hc.2 hs hr (List.ne_nil_of_mem hin.choose_spec.1), hboundary,
    hformula, untaggedHolds]
  · cases untaggedFormula? cs <;> rfl
  · intro f hf
    rw [hformula] at hf
    exact depth_of_untaggedFormula? hf

end Criteria

end CaptureFilter.Expression
