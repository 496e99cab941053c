import CaptureFilter.Proofs.LevelReading
import CaptureFilter.Proofs.Writing

/-!
# Reading whole expressions

The clauses that are written for levels read as their formulas. Joined to a chain, and the chain to
the untagged part, they read as the formula that the criteria ask for, since every part that joins
others itself stands in parentheses.
Spec guidance: `SPEC_FULL.md` §4.2 step 5 (`_emit`, `_join`).
-/

namespace CaptureFilter.Expression

/-! ### Clauses -/

private theorem operand_vlan : Operand "vlan" .vlan :=
  Operand.of_words ["vlan".toList] (by decide) (by decide) (by decide)

private theorem phrase_untaggedTest :
    Phrase untaggedTest
      (.conj (.neg (.atom "ether proto 0x8100")) (.neg (.atom "ether proto 0x88a8"))) := by
  have h8100 : Operand "ether proto 0x8100" (.atom "ether proto 0x8100") :=
    Operand.of_words ["ether".toList, "proto".toList, "0x8100".toList] (by decide) (by decide)
      (by decide)
  have h88a8 : Operand "ether proto 0x88a8" (.atom "ether proto 0x88a8") :=
    Operand.of_words ["ether".toList, "proto".toList, "0x88a8".toList] (by decide) (by decide)
      (by decide)
  exact h8100.negated.phrase.join h88a8.negated .conj

private theorem operand_eq_of_vlan : operand "vlan" = "vlan" := by decide

private theorem operand_eq_of_not_vlan : operand "not vlan" = "not vlan" := by decide

private theorem operand_eq_group_behind_vlan (s : String) :
    operand ("vlan and " ++ s) = group ("vlan and " ++ s) := by
  have h : Text.occurs " and ".toList ("vlan and " ++ s).toList = true := by
    rw [String.toList_append]
    rfl
  rw [operand, if_pos h]

variable {vlan last : Bool} {level : Level} {below : List Level} {clause : Clause}
  {asked : Option Formula}

/-- What is written for a level reads as its formula, and nothing is written where there is none. -/
theorem clause_reads (hw : Writes vlan level below ⟨clause, last⟩)
    (hr : level.excluded = false → level.Reads asked) :
    match clause.formula? asked with
    | none => clause.text level = ""
    | some f => Phrase (clause.text level) f := by
  cases hw with
  | stepped | anyTag | empty => exact operand_vlan.phrase
  | skipped | unsaid => rfl
  | ended | onlyUntagged => exact operand_vlan.negated.phrase
  | untagged => exact phrase_untaggedTest
  | tagged he ht =>
    cases asked with
    | none => exact absurd (hr he).2 ht
    | some f => exact operand_vlan.phrase.join (hr he).operand_grouped .conj
  | plain he ht =>
    cases asked with
    | none => exact absurd (hr he).2 ht
    | some f => exact (hr he).2.1

/-- What is written for a tagged level always says something, and reads as its formula wherever an
operand is due once it has been made one. -/
theorem tagged_clause_reads (hw : Writes vlan level below ⟨clause, last⟩) (hi : level.index ≠ 0)
    (hr : level.excluded = false → level.Reads asked) :
    ∃ f, clause.formula? asked = some f ∧ Phrase (clause.text level) f ∧
      Operand (operand (clause.text level)) f := by
  have hp := clause_reads hw hr
  cases hw with
  | stepped | anyTag | empty =>
    refine ⟨.vlan, rfl, hp, ?_⟩
    rw [Clause.text, operand_eq_of_vlan]
    exact operand_vlan
  | ended | onlyUntagged =>
    refine ⟨.neg .vlan, rfl, hp, ?_⟩
    rw [Clause.text, operand_eq_of_not_vlan]
    exact operand_vlan.negated
  | tagged he ht =>
    cases asked with
    | none => exact absurd (hr he).2 ht
    | some f =>
      refine ⟨.conj .vlan f, rfl, hp, ?_⟩
      rw [Clause.text, operand_eq_group_behind_vlan]
      exact Phrase.group hp
  | skipped _ h0 | unsaid _ _ h0 | untagged _ _ h0 | plain _ _ h0 => exact absurd h0 hi

/-! ### Chains -/

/-- A level with the formula of what is written for it. -/
def entryFormula? (cs : List Criterion) (entry : Level × Clause) : Option (Level × Formula) :=
  (entry.2.formula? (sectionFormula? entry.1.index cs)).map fun f ↦ (entry.1, f)

/-- What is written for a tagged level reads as its formula. -/
def EntryReads (cs : List Criterion) (entry : Level × Clause) : Prop :=
  ∃ f, entryFormula? cs entry = some (entry.1, f) ∧ Phrase (entryText entry).2 f ∧
    Operand (operand (entryText entry).2) f

variable {cs : List Criterion}

/-- A chain goes on by operands behind a phrase. -/
theorem phrase_chainAfter {entries : List (Level × Clause)}
    (h : ∀ entry ∈ entries, EntryReads cs entry) {s : String} {f : Formula} (hs : Phrase s f)
    (previous : Level) :
    Phrase (s ++ chainAfter previous (entries.map entryText))
      (chainFormulaAfter previous f (entries.filterMap (entryFormula? cs))) := by
  induction entries generalizing s f previous with
  | nil =>
    rw [List.map_nil, chainAfter, String.append_empty]
    exact hs
  | cons entry rest ih =>
    obtain ⟨g, hg, -, ho⟩ := h entry List.mem_cons_self
    rw [List.map_cons, List.filterMap_cons_some hg, chainFormulaAfter]
    have hrest := ih (fun e he ↦ h e (List.mem_cons_of_mem entry he))
      (hs.join ho (joint previous entry.1)) entry.1
    have ht : s ++ chainAfter previous (entryText entry :: rest.map entryText) =
        s ++ (joint previous entry.1).word ++ operand (entryText entry).2 ++
          chainAfter entry.1 (rest.map entryText) := by
      rw [entryText, chainAfter]
      simp only [String.append_assoc]
    rw [ht]
    exact hrest

/-- The tagged levels joined read as their formulas joined. -/
theorem chain_reads {entries : List (Level × Clause)}
    (h : ∀ entry ∈ entries, EntryReads cs entry) :
    match chainFormula? (entries.filterMap (entryFormula? cs)) with
    | none => chain (entries.map entryText) = ""
    | some f => Phrase (chain (entries.map entryText)) f := by
  cases entries with
  | nil => rfl
  | cons entry rest =>
    obtain ⟨g, hg, hp, ho⟩ := h entry List.mem_cons_self
    rw [List.filterMap_cons_some hg, List.map_cons]
    cases rest with
    | nil => exact hp
    | cons next others =>
      exact phrase_chainAfter (fun e he ↦ h e (List.mem_cons_of_mem entry he)) ho.phrase entry.1

/-! ### The two parts -/

/-- Two parts joined read as their formulas joined. -/
theorem joinParts_reads {boundary : Joint} {untagged tagged : String} {f? g? : Option Formula}
    (hf : match f? with | none => untagged = "" | some f => Phrase untagged f)
    (hg : match g? with | none => tagged = "" | some g => Phrase tagged g) :
    match joinFormulas? boundary f? g? with
    | none => joinParts boundary untagged tagged = ""
    | some h => Phrase (joinParts boundary untagged tagged) h := by
  have hne {s : String} {f : Formula} (h : Phrase s f) : ¬ s.isEmpty = true :=
    fun he ↦ h.ne_empty (String.isEmpty_iff.mp he)
  rw [joinParts]
  cases f? with
  | none =>
    rw [if_pos (String.isEmpty_iff.mpr hf)]
    cases g? <;> exact hg
  | some f =>
    rw [if_neg (hne hf)]
    cases g? with
    | none =>
      rw [if_pos (String.isEmpty_iff.mpr hg)]
      exact hf
    | some g =>
      rw [if_neg (hne hg)]
      exact (Phrase.group hf).phrase.join (Phrase.group hg) boundary

/-- The parts of a list of entries whose first is the untagged one. -/
theorem assemble_cons (boundary : Joint) {first : Level × Clause} {rest : List (Level × Clause)}
    (h0 : first.1.index = 0) (hrest : ∀ entry ∈ rest, 0 < entry.1.index) :
    assemble boundary (first :: rest) =
      joinParts boundary (entryText first).2 (chain (rest.map entryText)) := by
  have hnone : (rest.map entryText).filter (·.1.index = 0) = [] := by
    rw [List.filter_eq_nil_iff]
    intro e he
    obtain ⟨entry, hm, rfl⟩ := List.mem_map.mp he
    have hi : entry.1.index ≠ 0 := Nat.ne_of_gt (hrest entry hm)
    simp [entryText, hi]
  have hall : (rest.map entryText).filter (0 < ·.1.index) = rest.map entryText := by
    rw [List.filter_eq_self]
    intro e he
    obtain ⟨entry, hm, rfl⟩ := List.mem_map.mp he
    have hi : 0 < entry.1.index := hrest entry hm
    simp [entryText, hi]
  have h0' : (entryText first).1.index = 0 := h0
  rw [assemble_eq, List.map_cons, List.filter_cons_of_pos (by simpa using h0'), hnone,
    List.filter_cons_of_neg (by simp [h0']), hall]
  simp

/-- The formulas of a list of entries whose first is the untagged one. -/
theorem assembleFormula?_cons (boundary : Joint) {first : Level × Clause}
    {rest : List (Level × Clause)} (h0 : first.1.index = 0)
    (hrest : ∀ entry ∈ rest, 0 < entry.1.index) :
    assembleFormula? cs boundary (first :: rest) =
      joinFormulas? boundary ((entryFormula? cs first).map (·.2))
        (chainFormula? (rest.filterMap (entryFormula? cs))) := by
  have hindex {entry : Level × Clause} {e : Level × Formula}
      (h : entryFormula? cs entry = some e) : e.1 = entry.1 := by
    obtain ⟨f, -, rfl⟩ := Option.map_eq_some_iff.mp h
    rfl
  have hnone : (rest.filterMap (entryFormula? cs)).find? (·.1.index = 0) = none := by
    rw [List.find?_eq_none]
    intro e he
    obtain ⟨entry, hm, h⟩ := List.mem_filterMap.mp he
    rw [hindex h]
    simpa using Nat.ne_of_gt (hrest entry hm)
  have hall : (rest.filterMap (entryFormula? cs)).filter (0 < ·.1.index) =
      rest.filterMap (entryFormula? cs) := by
    rw [List.filter_eq_self]
    intro e he
    obtain ⟨entry, hm, h⟩ := List.mem_filterMap.mp he
    rw [hindex h]
    simpa using hrest entry hm
  have hformulas : assembleFormula? cs boundary (first :: rest) =
      joinFormulas? boundary
        ((((first :: rest).filterMap (entryFormula? cs)).find? (·.1.index = 0)).map (·.2))
        (chainFormula? (((first :: rest).filterMap (entryFormula? cs)).filter (0 < ·.1.index))) :=
    rfl
  rw [hformulas]
  cases h : entryFormula? cs first with
  | none =>
    rw [List.filterMap_cons_none h, hnone, hall]
  | some e =>
    have he : e.1.index = 0 := by rw [hindex h, h0]
    rw [List.filterMap_cons_some h, List.find?_cons_of_pos (by simpa using he),
      List.filter_cons_of_neg (by simp [he]), hall]

end CaptureFilter.Expression
