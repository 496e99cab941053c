import CaptureFilter.Proofs.Asked
import CaptureFilter.Proofs.FragmentReading

/-!
# Reading levels

The text of a level reads as the formula of its section, and is an operand where it is one term.
Spec guidance: `SPEC_FULL.md` §4.2 step 2 (`SectionState.grouped_expression`).
-/

namespace CaptureFilter.Expression

namespace Level

/-- The text of a level reads as what is asked for, and on its own wherever an operand is due if it
is a single term. -/
def Reads (l : Level) : Option Formula → Prop
  | none => l.terms = [] ∧ l.text = ""
  | some f => l.terms ≠ [] ∧ Phrase l.text f ∧ (l.terms.length = 1 → Operand l.text f)

/-- A term is joined to what a level reads as. -/
theorem reads_add {l : Level} {asked : Option Formula} {c : Criterion} (hl : l.Reads asked)
    (hr : ∀ fragment ∈ c.fragments, fragment.Readable) : (l.add c).Reads (askedWith asked c) := by
  rw [add, addTerm]
  cases hf : c.formula? with
  | none =>
    rw [Criterion.filter_eq_empty_iff.mpr hf, if_pos (by rfl), askedWith_of_none hf]
    exact hl
  | some g =>
    have hg : Phrase c.filter g := Criterion.phrase_filter hr hf
    have hne : ¬ c.filter.isEmpty = true := fun h ↦ hg.ne_empty (String.isEmpty_iff.mp h)
    rw [if_neg hne, askedWith_of_some hf]
    cases asked with
    | none =>
      have ht : l.joined c.operator.required (group c.filter) = group c.filter := by
        rw [joined, hl.2, if_pos (by rfl)]
      rw [ht]
      exact ⟨List.append_ne_nil_of_right_ne_nil _ (List.cons_ne_nil _ _), hg.group.phrase,
        fun _ ↦ hg.group⟩
    | some f =>
      obtain ⟨hterms, htext, -⟩ := hl
      have hne : ¬ l.text.isEmpty = true := fun h ↦ htext.ne_empty (String.isEmpty_iff.mp h)
      refine ⟨List.append_ne_nil_of_left_ne_nil hterms _, ?_, ?_⟩
      · dsimp only
        rw [joined, if_neg hne, Option.elim_some]
        cases c.operator.required with
        | true => exact htext.join hg.group .conj
        | false => exact htext.join hg.group .disj
      · -- there is another term before this one
        intro hlen
        have hpos := List.length_pos_iff.mpr hterms
        rw [List.length_append, List.length_singleton] at hlen
        omega

/-- Taking a criterion in leaves a level out or keeps it reading as what is asked for. -/
theorem reads_absorb {l : Level} {asked : Option Formula} {c : Criterion} (hl : l.Reads asked)
    (hb : c.Built) (hc : c.Legible) (he : (l.absorb c).excluded = false) :
    (l.absorb c).Reads (askedWith asked c) := by
  rw [excluded_absorb, Bool.or_eq_false_iff] at he
  have hreadable : ∀ fragment ∈ c.fragments, fragment.Readable := fun _ hm ↦ hb.readable hc hm
  rw [absorb_of_keeps he.1 he.2]
  split
  · next hk =>
    rw [askedWith_of_none (hb.formula?_of_disposition hk)]
    cases asked <;> exact hl
  · exact reads_add hl hreadable

/-- Taking criteria in leaves a level out or keeps it reading as what they ask for. -/
theorem reads_foldl_absorb {l : Level} {asked : Option Formula} {cs : List Criterion}
    (hl : l.Reads asked) (hb : ∀ c ∈ cs, c.Built) (hc : ∀ c ∈ cs, c.Legible)
    (he : (cs.foldl absorb l).excluded = false) :
    (cs.foldl absorb l).Reads (cs.foldl askedWith asked) := by
  induction cs generalizing l asked with
  | nil => exact hl
  | cons c rest ih =>
    rw [List.foldl_cons] at he ⊢
    rw [List.foldl_cons]
    have hfirst : (l.absorb c).excluded = false := by
      rw [excluded_foldl_absorb, Bool.or_eq_false_iff] at he
      exact he.1
    apply ih
    · exact reads_absorb hl (hb c List.mem_cons_self) (hc c List.mem_cons_self) hfirst
    · exact fun d hd ↦ hb d (List.mem_cons_of_mem c hd)
    · exact fun d hd ↦ hc d (List.mem_cons_of_mem c hd)
    · exact he

/-- The level of a depth that is let in reads as what its section asks for. -/
theorem reads_atDepth {cs : List Criterion} (hb : ∀ c ∈ cs, c.Built) (hc : ∀ c ∈ cs, c.Legible)
    {index : Nat} (he : (atDepth cs index).excluded = false) :
    (atDepth cs index).Reads (sectionFormula? index cs) := by
  unfold atDepth at he ⊢
  split at he
  · cases he
  · next hne =>
    rw [if_neg hne, sectionFormula?_eq_foldl]
    have hsub (c : Criterion) (hm : c ∈ criteriaAt index cs) : c ∈ cs := (List.mem_filter.mp hm).1
    exact reads_foldl_absorb ⟨rfl, rfl⟩ (fun c hm ↦ hb c (hsub c hm))
      (fun c hm ↦ hc c (hsub c hm)) he

/-- The text of a level as one group is an operand. -/
theorem Reads.operand_grouped {l : Level} {f : Formula} (h : l.Reads (some f)) :
    Operand l.grouped f := by
  rw [grouped]
  split
  · next hlen => exact h.2.2 hlen
  · exact h.2.1.group

end Level

end CaptureFilter.Expression
