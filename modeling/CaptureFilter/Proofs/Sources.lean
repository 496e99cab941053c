import CaptureFilter.Proofs.Comparisons
import CaptureFilter.Proofs.ExpressionReading

/-!
# Where comparisons come from

Every comparison of an expression comes from a criterion or is written for a level itself. In an
expression they follow each other as the levels do, those of a level as its criteria do, and those
of a criterion as its fragments do.
Spec guidance: `SPEC_FULL.md` §4.2 step 5 (`_emit`, `_fragment`).
-/

namespace CaptureFilter

open Text Expression

namespace Fragment

variable {fragment : Fragment}

private theorem head?_of_mem_texts {s : String} (h : s ∈ fragment.formula.texts) :
    s.toList.head? ≠ some 'v' := by
  cases fragment with
  | named known =>
    rw [List.mem_singleton.mp h]
    cases known <;> decide
  | ping | ipsec =>
    revert s
    decide
  | hardwareStart octets =>
    simp only [formula, Formula.texts, Formula.atoms, List.map_append, List.map_cons, List.map_nil,
      List.mem_append, List.mem_singleton] at h
    rcases h with rfl | rfl <;> simp [octetsAt, String.toList_append]
  | _ =>
    rw [List.mem_singleton.mp h]
    simp [text, String.toList_append]

/-- No comparison of a fragment asks for one more tag. -/
theorem vlan_not_mem_texts (fragment : Fragment) : "vlan" ∉ fragment.formula.texts :=
  fun h ↦ head?_of_mem_texts h rfl

end Fragment

/-- A comparison of an expression, and the criterion that it comes from unless it is written for a
level itself. -/
structure Source where
  /-- The criterion. -/
  criterion : Option Criterion
  /-- The comparison. -/
  text : String

/-- The comparisons of a criterion. -/
def Criterion.sources (c : Criterion) : List Source :=
  (c.fragments.flatMap (·.formula.texts)).map fun text ↦ ⟨some c, text⟩

namespace Expression

/-- The comparisons of the section of an index. -/
def sectionSources (index : Nat) (cs : List Criterion) : List Source :=
  (Level.criteriaAt index cs).flatMap Criterion.sources

/-- The comparisons of a clause, given those of its section. -/
def Clause.sources (asked : List Source) : Clause → List Source
  | .nothing => []
  | .tag | .noTag => [⟨none, "vlan"⟩]
  | .untagged => [⟨none, "ether proto 0x8100"⟩, ⟨none, "ether proto 0x88a8"⟩]
  | .terms => asked
  | .tagAndTerms => ⟨none, "vlan"⟩ :: asked

/-- The comparisons of levels written with their clauses, in the order they are written in. -/
def sources (cs : List Criterion) (all : List (Level × Clause)) : List Source :=
  all.flatMap fun (level, clause) ↦ clause.sources (sectionSources level.index cs)

/-- The number of times that comparisons ask for one more tag. -/
def tagCount (all : List Source) : Nat := (all.map (·.text)).count "vlan"

/-- A comparison in front is counted with those behind it. -/
theorem tagCount_cons (s : Source) (rest : List Source) :
    tagCount (s :: rest) = tagCount [s] + tagCount rest := by
  rw [tagCount, List.map_cons, List.count_cons, Nat.add_comm, tagCount, tagCount, List.map_cons,
    List.count_cons, List.map_nil, List.count_nil, Nat.zero_add]

/-- A comparison of a section is one of a fragment of a criterion of the section. -/
theorem exists_fragment_of_mem {index : Nat} {cs : List Criterion} {s : Source}
    (h : s ∈ sectionSources index cs) :
    ∃ c ∈ Level.criteriaAt index cs, s.criterion = some c ∧
      ∃ fragment ∈ c.fragments, s.text ∈ fragment.formula.texts := by
  obtain ⟨c, hc, hs⟩ := List.mem_flatMap.mp h
  obtain ⟨text, ht, rfl⟩ := List.mem_map.mp hs
  obtain ⟨fragment, hf, ht⟩ := List.mem_flatMap.mp ht
  exact ⟨c, hc, rfl, fragment, hf, ht⟩

/-- The criteria of a section ask for no tag. -/
theorem tagCount_sectionSources (index : Nat) (cs : List Criterion) :
    tagCount (sectionSources index cs) = 0 := by
  rw [tagCount, List.count_eq_zero]
  intro h
  obtain ⟨s, hs, ht⟩ := List.mem_map.mp h
  obtain ⟨_, -, -, fragment, -, htext⟩ := exists_fragment_of_mem hs
  rw [ht] at htext
  exact Fragment.vlan_not_mem_texts fragment htext

/-! ### The atoms of formulas -/

/-- The texts of the atoms of what is asked for. -/
def askedTexts (asked : Option Formula) : List String := asked.elim [] Formula.texts

private theorem askedTexts_joined? (joint : Joint) (formulas : List Formula) :
    askedTexts (Formula.joined? joint formulas) = formulas.flatMap Formula.texts := by
  cases formulas with
  | nil => rfl
  | cons f rest =>
    rw [Formula.joined?, askedTexts, Option.elim_some, List.flatMap_cons]
    induction rest generalizing f with
    | nil => simp
    | cons g rest ih =>
      rw [List.foldl_cons, ih, Formula.texts_join, List.flatMap_cons, List.append_assoc]

/-- The formula of a criterion has the atoms of its fragments. -/
theorem askedTexts_formula? (c : Criterion) :
    askedTexts c.formula? = c.sources.map (·.text) := by
  have ht : c.sources.map (·.text) = c.fragments.flatMap (·.formula.texts) := by
    rw [Criterion.sources, List.map_map]
    exact List.map_id _
  rw [ht, Criterion.formula?]
  split
  · rw [askedTexts_joined?, List.map_map, List.flatMap_map]
    rfl
  · split
    · rw [askedTexts_joined?, List.flatMap_map]
    · rw [askedTexts_joined?, List.flatMap_map]

private theorem askedTexts_askedWith (asked : Option Formula) (c : Criterion) :
    askedTexts (askedWith asked c) = askedTexts asked ++ askedTexts c.formula? := by
  rw [askedWith]
  cases c.formula? with
  | none => exact (List.append_nil _).symm
  | some g =>
    cases asked with
    | none => rfl
    | some f =>
      have hj : withCriterion f c.operator.required g =
          (if c.operator.required then Joint.conj else Joint.disj).join f g := by
        rw [withCriterion]
        split <;> rfl
      simp only [Option.elim_some, askedTexts, hj, Formula.texts_join]

/-- The formula of a section has the atoms of its criteria. -/
theorem askedTexts_sectionFormula? (index : Nat) (cs : List Criterion) :
    askedTexts (sectionFormula? index cs) = (sectionSources index cs).map (·.text) := by
  have hfold (asked : Option Formula) (ds : List Criterion) :
      askedTexts (ds.foldl askedWith asked) =
        askedTexts asked ++ (ds.flatMap Criterion.sources).map (·.text) := by
    induction ds generalizing asked with
    | nil => exact (List.append_nil _).symm
    | cons d rest ih =>
      rw [List.foldl_cons, ih, askedTexts_askedWith, askedTexts_formula?, List.flatMap_cons,
        List.map_append, List.append_assoc]
  rw [sectionFormula?_eq_foldl, hfold]
  rfl

/-- The formula of a section asks for no tag. -/
theorem depth_of_sectionFormula? {index : Nat} {cs : List Criterion} {f : Formula}
    (h : sectionFormula? index cs = some f) : f.depth = 0 := by
  have ht := askedTexts_sectionFormula? index cs
  rw [h] at ht
  rw [Formula.depth_eq_count, ← tagCount_sectionSources index cs, tagCount, ← ht]
  rfl

variable {cs : List Criterion} {vlan last : Bool} {level : Level} {below : List Level}
  {clause : Clause} {asked : Option Formula} {from? : List Source}

/-- The formula of a clause has the atoms that are written for it. -/
theorem askedTexts_clause (hw : Writes vlan level below ⟨clause, last⟩)
    (hs : level.excluded = false → level.Says asked)
    (ht : askedTexts asked = from?.map (·.text)) :
    askedTexts (clause.formula? asked) = (clause.sources from?).map (·.text) := by
  cases hw with
  | stepped | anyTag | empty => rfl
  | skipped | unsaid => rfl
  | ended | onlyUntagged => rfl
  | untagged => rfl
  | tagged he hne =>
    cases asked with
    | none => exact absurd ((hs he).mpr rfl) hne
    | some f =>
      rw [Clause.sources, List.map_cons, ← ht]
      exact Formula.texts_join .conj .vlan f
  | plain => exact ht

private theorem texts_chainFormulaAfter (previous : Level) (f : Formula)
    (entries : List (Level × Formula)) :
    (chainFormulaAfter previous f entries).texts = f.texts ++ entries.flatMap (·.2.texts) := by
  induction entries generalizing previous f with
  | nil => exact (List.append_nil _).symm
  | cons entry rest ih =>
    rw [chainFormulaAfter, ih, Formula.texts_join, List.flatMap_cons, List.append_assoc]

private theorem askedTexts_chainFormula? (entries : List (Level × Formula)) :
    askedTexts (chainFormula? entries) = entries.flatMap (·.2.texts) := by
  cases entries with
  | nil => rfl
  | cons entry rest => exact texts_chainFormulaAfter entry.1 entry.2 rest

private theorem askedTexts_joinFormulas? (boundary : Joint) (f? g? : Option Formula) :
    askedTexts (joinFormulas? boundary f? g?) = askedTexts f? ++ askedTexts g? := by
  cases f? with
  | none => rfl
  | some f =>
    cases g? with
    | none => exact (List.append_nil _).symm
    | some g => exact Formula.texts_join boundary f g

private theorem flatMap_filterMap_entryFormula? (entries : List (Level × Clause)) :
    (entries.filterMap (entryFormula? cs)).flatMap (·.2.texts) =
      entries.flatMap fun entry ↦ askedTexts ((entryFormula? cs entry).map (·.2)) := by
  induction entries with
  | nil => rfl
  | cons entry rest ih =>
    rw [List.flatMap_cons, ← ih]
    cases h : entryFormula? cs entry with
    | none => rw [List.filterMap_cons_none h]; rfl
    | some e => rw [List.filterMap_cons_some h]; rfl

/-- The formula of levels has the atoms that are written for them. -/
theorem askedTexts_assembleFormula? (hb : ∀ c ∈ cs, c.Built)
    {all : List (Level × Clause)} {stops : Piece → Bool}
    (h : writtenUpTo stops vlan (Level.levels cs) = .ok all) (boundary : Joint) :
    askedTexts (assembleFormula? cs boundary all) = (sources cs all).map (·.text) := by
  by_cases hne : Level.levels cs = []
  · rw [hne, writtenUpTo] at h
    cases h
    rfl
  · have hentry : ∀ entry ∈ all, askedTexts ((entryFormula? cs entry).map (·.2)) =
        (entry.2.sources (sectionSources entry.1.index cs)).map (·.text) := by
      intro entry hm
      obtain ⟨hlevel, below, last, hw⟩ := mem_writtenUpTo h hm
      rw [entryFormula?, Option.map_map]
      have ht := askedTexts_clause hw (Level.says_of_mem_levels hb hlevel)
        (askedTexts_sectionFormula? entry.1.index cs)
      rw [← ht]
      cases entry.2.formula? (sectionFormula? entry.1.index cs) <;> rfl
    have hall : (sources cs all).map (·.text) =
        all.flatMap fun entry ↦ askedTexts ((entryFormula? cs entry).map (·.2)) := by
      rw [sources, List.map_flatMap, List.flatMap_def, List.flatMap_def]
      exact congrArg List.flatten (List.map_congr_left fun entry hm ↦ (hentry entry hm).symm)
    obtain ⟨level, clause, rest, rfl, h0, hrest⟩ :=
      writtenUpTo_of_consecutive (consecutive_levels cs) hne h
    rw [hall, assembleFormula?_cons boundary h0 hrest, askedTexts_joinFormulas?,
      askedTexts_chainFormula?, flatMap_filterMap_entryFormula?, List.flatMap_cons]

end Expression

end CaptureFilter
