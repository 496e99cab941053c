import CaptureFilter.Proofs.ExpressionReading

/-!
# Expressions say what their criteria ask for

The expression of criteria reads as the formula that the criteria ask for: no operand is regrouped,
although `and` and `or` have the same precedence.
Spec guidance: `SPEC_FULL.md` §1 and §4.2 (`compile`).
-/

namespace CaptureFilter.Expression

/-- A preset among the criteria stands in the preset section. -/
theorem levels?_of_no_preset {cs : List Criterion} (hp : ∀ c ∈ cs, c.isPreset = false) :
    levels? cs = .ok (Level.levels cs) := by
  have hn : cs.find? (·.kind == .preset) = none := by
    rw [List.find?_eq_none]
    intro c hc hk
    exact c.kind_ne_preset (ne_of_beq_false (hp c hc)) (eq_of_beq hk)
  rw [levels?, hn]

/-- Without a preset the levels of the criteria are written. -/
theorem compile_of_no_preset {cs : List Criterion} (hp : ∀ c ∈ cs, c.isPreset = false)
    (vlan : Bool) : compile vlan cs = (emit vlan (Level.levels cs)).map dropTautology := by
  have hn : cs.find? Criterion.isPreset = none := by
    rw [List.find?_eq_none]
    intro c hc
    rw [hp c hc]
    exact Bool.false_ne_true
  rw [compile, hn, levels?_of_no_preset hp]
  dsimp only
  cases hl : Level.levels cs with
  | nil => rfl
  | cons level below =>
    cases he : emit vlan (level :: below) with
    | error fault => simp [bind, Except.bind, he, Except.map]
    | ok e => simp [bind, Except.bind, he, Except.map, pure, Except.pure]

section Reading

variable {cs : List Criterion} (hb : ∀ c ∈ cs, c.Built) (hl : ∀ c ∈ cs, c.Legible)

include hb hl

private theorem reads_of_mem_levels {level : Level} (hm : level ∈ Level.levels cs)
    (he : level.excluded = false) : level.Reads (sectionFormula? level.index cs) := by
  rw [Level.eq_atDepth hm] at he ⊢
  rw [Level.index_atDepth]
  exact Level.reads_atDepth hb hl he

/-- What is written for the levels of criteria reads as the formulas joined, and nothing is written
where there are none. -/
theorem assemble_reads {stops : Piece → Bool} {vlan : Bool} {all : List (Level × Clause)}
    (h : writtenUpTo stops vlan (Level.levels cs) = .ok all) (boundary : Joint) :
    match assembleFormula? cs boundary all with
    | none => assemble boundary all = ""
    | some f => Phrase (assemble boundary all) f := by
  by_cases hne : Level.levels cs = []
  · rw [hne, writtenUpTo] at h
    cases h
    rfl
  · have hclause (entry : Level × Clause) (hm : entry ∈ all) := mem_writtenUpTo h hm
    obtain ⟨level, clause, rest, rfl, h0, hrest⟩ :=
      writtenUpTo_of_consecutive (consecutive_levels cs) hne h
    have hfirst : match (entryFormula? cs (level, clause)).map (·.2) with
        | none => (entryText (level, clause)).2 = ""
        | some f => Phrase (entryText (level, clause)).2 f := by
      obtain ⟨hm, below, last, hw⟩ := hclause (level, clause) List.mem_cons_self
      have hr := clause_reads hw fun he ↦ reads_of_mem_levels hb hl hm he
      rw [entryFormula?, Option.map_map]
      cases hf : clause.formula? (sectionFormula? level.index cs) with
      | none => rw [hf] at hr; exact hr
      | some f => rw [hf] at hr; exact hr
    have hreads : ∀ entry ∈ rest, EntryReads cs entry := by
      intro entry he
      obtain ⟨hm, below, last, hw⟩ := hclause entry (List.mem_cons_of_mem _ he)
      obtain ⟨f, hf, hp, ho⟩ := tagged_clause_reads hw (Nat.ne_of_gt (hrest entry he)) fun hi ↦
        reads_of_mem_levels hb hl hm hi
      exact ⟨f, by rw [entryFormula?, hf]; rfl, hp, ho⟩
    rw [assemble_cons boundary h0 hrest, assembleFormula?_cons boundary h0 hrest]
    exact joinParts_reads hfirst (chain_reads hreads)

/-- What is written for the levels of criteria, read as a whole expression. -/
theorem ofText?_assemble {stops : Piece → Bool} {vlan : Bool} {all : List (Level × Clause)}
    (h : writtenUpTo stops vlan (Level.levels cs) = .ok all) (boundary : Joint) :
    Formula.ofText? (assemble boundary all) = assembleFormula? cs boundary all := by
  have hr := assemble_reads hb hl h boundary
  cases hf : assembleFormula? cs boundary all with
  | none =>
    rw [hf] at hr
    rw [hr]
    rfl
  | some f =>
    rw [hf] at hr
    exact hr.ofText?

/-- An expression of criteria that says something is what their levels are written as, and a phrase
of the formulas joined. -/
theorem exists_written_of_compile (hp : ∀ c ∈ cs, c.isPreset = false) {vlan : Bool} {e : String}
    (h : compile vlan cs = .ok e) (he : e ≠ "") :
    ∃ all f, written vlan (Level.levels cs) = .ok all ∧
      assembleFormula? cs (boundary (Level.levels cs)) all = some f ∧ Phrase e f := by
  rw [compile_of_no_preset hp, emit] at h
  obtain ⟨text, ht, rfl⟩ := map_eq_ok_iff.mp h
  obtain ⟨all, hw, rfl⟩ := map_eq_ok_iff.mp ht
  have hr := assemble_reads hb hl hw (boundary (Level.levels cs))
  have hd : dropTautology (assemble (boundary (Level.levels cs)) all) =
      assemble (boundary (Level.levels cs)) all := by
    rw [dropTautology] at he ⊢
    split
    · next ht => exact absurd (if_pos ht) he
    · rfl
  rw [hd] at he ⊢
  cases hf : assembleFormula? cs (boundary (Level.levels cs)) all with
  | none =>
    rw [hf] at hr
    exact absurd hr he
  | some f =>
    rw [hf] at hr
    exact ⟨all, f, hw, hf, hr⟩

end Reading

/-- The expression of criteria is read to its end, and as the formula that they ask for. -/
theorem compile_reads_as_formula {cs : List Criterion} (hb : ∀ c ∈ cs, c.Built)
    (hl : ∀ c ∈ cs, c.Legible) (hp : ∀ c ∈ cs, c.isPreset = false) {vlan : Bool} {e : String}
    (h : compile vlan cs = .ok e) (he : e ≠ "") :
    ∃ f, formula vlan cs = .ok (some f) ∧ Formula.ofText? e = some f := by
  obtain ⟨all, f, hw, hf, hphrase⟩ := exists_written_of_compile hb hl hp h he
  refine ⟨f, ?_, hphrase.ofText?⟩
  rw [formula, hw, Except.map, hf]

/-- Two criteria of untagged packets, and one of packets behind two tags. -/
def portsOrTag : List Criterion :=
  Criterion.accepted .empty
    [(.packet .port, 0, .anyOf, "80 443"), (.packet .port, 0, .orNoneOf, "22"),
      (.packet .vlan, 2, .allOf, "7")]

/-- The expression of the criteria of ports and a tag. -/
def portsOrTagExpression : String :=
  "((port 80 or port 443) or (not port 22)) or (vlan and (vlan and (ether[18:2] & 0x0fff = 7)))"

/-- The criteria of ports and a tag have no address. -/
theorem portsOrTag_legible : ∀ c ∈ portsOrTag, c.Legible := by
  have hk : ∀ c ∈ portsOrTag, c.kind ≠ .packet .address := by decide
  exact fun c hc ↦ Criterion.legible_of_kind (hk c hc)

/-- Operands of four layers are told apart in one expression. -/
theorem portsOrTag_reads_as_formula :
    ∃ f, formula true portsOrTag = .ok (some f) ∧
      Formula.ofText? portsOrTagExpression = some f :=
  compile_reads_as_formula (fun _ hc ↦ .of_mem_accepted hc) portsOrTag_legible (by decide) rfl
    (by decide)

end CaptureFilter.Expression
