import CaptureFilter.Expression.Meaning
import CaptureFilter.Proofs.Building
import CaptureFilter.Proofs.Sections

/-!
# What sections ask for

A criterion asks for something exactly if it has a fragment, and then its filter is not empty. A
section asks for what its criteria ask for, one after the other; its level has a text exactly if it
asks for something.
Spec guidance: `SPEC_FULL.md` §4.2 step 2 (`SectionState.add`).
-/

namespace CaptureFilter

open Expression

/-! ### Criteria -/

/-- No fragment has an empty text. -/
theorem Fragment.text_ne_empty (fragment : Fragment) : fragment.text ≠ "" := by
  cases fragment with
  | named known => cases known <;> decide
  | ping | ipsec => decide
  | _ => simp [text, ← String.toList_inj, String.toList_append]

namespace Criterion

variable {c : Criterion}

private theorem joined?_eq_none_iff {joint : Joint} {formulas : List Formula} :
    Formula.joined? joint formulas = none ↔ formulas = [] := by
  cases formulas with
  | nil => exact iff_of_true rfl rfl
  | cons f rest => exact iff_of_false (fun h ↦ nomatch h) (List.cons_ne_nil f rest)

/-- A criterion asks for nothing exactly if it has no fragments. -/
theorem formula?_eq_none_iff : c.formula? = none ↔ c.fragments = [] := by
  unfold formula?
  dsimp only
  split
  · rw [joined?_eq_none_iff, List.map_eq_nil_iff, List.map_eq_nil_iff]
  · split
    · rw [joined?_eq_none_iff, List.map_eq_nil_iff]
    · rw [joined?_eq_none_iff, List.map_eq_nil_iff]

/-- Texts that are not empty are joined to the empty text only if there are none. -/
theorem intercalate_eq_empty_iff {sep : String} {texts : List String}
    (h : ∀ t ∈ texts, t ≠ "") : sep.intercalate texts = "" ↔ texts = [] := by
  cases texts with
  | nil => exact iff_of_true rfl rfl
  | cons t rest =>
    refine iff_of_false ?_ (List.cons_ne_nil t rest)
    intro he
    have ht : t ≠ "" := h t List.mem_cons_self
    cases rest with
    | nil =>
      rw [String.intercalate_singleton] at he
      exact ht he
    | cons u rest =>
      rw [String.intercalate_cons_cons, String.append_assoc, String.append_eq_empty_iff] at he
      exact ht he.1

/-- The filter of a criterion is empty exactly if it asks for nothing. -/
theorem filter_eq_empty_iff : c.filter = "" ↔ c.formula? = none := by
  have htext : ∀ t ∈ c.fragments.map Fragment.text, t ≠ "" := by
    intro t ht
    obtain ⟨fragment, -, rfl⟩ := List.mem_map.mp ht
    exact fragment.text_ne_empty
  have hnot : ∀ t ∈ c.fragments.map ("not " ++ Fragment.text ·), t ≠ "" := by
    intro t ht he
    obtain ⟨fragment, -, rfl⟩ := List.mem_map.mp ht
    exact fragment.text_ne_empty (String.append_eq_empty_iff.mp he).2
  rw [formula?_eq_none_iff, filter, Fragment.combine]
  split
  · rw [intercalate_eq_empty_iff hnot, List.map_eq_nil_iff]
  · split
    · rw [intercalate_eq_empty_iff htext, List.map_eq_nil_iff]
    · rw [intercalate_eq_empty_iff htext, List.map_eq_nil_iff]

/-- A decision on a section compares no packets. -/
theorem Built.formula?_of_disposition (hb : c.Built) (hk : c.kind = .disposition) :
    c.formula? = none := by
  apply formula?_eq_none_iff.mpr
  apply hb.fragments_eq_nil
  intro field hfield
  rw [hk] at hfield
  cases hfield

end Criterion

namespace Expression

/-! ### Sections -/

/-- What is asked for with one more criterion. -/
def askedWith (asked : Option Formula) (c : Criterion) : Option Formula :=
  match c.formula? with
  | none => asked
  | some g => some (asked.elim g fun f ↦ withCriterion f c.operator.required g)

/-- A criterion that asks for nothing changes nothing. -/
theorem askedWith_of_none {asked : Option Formula} {c : Criterion} (h : c.formula? = none) :
    askedWith asked c = asked := by
  rw [askedWith, h]

/-- A criterion's formula is joined to those before it. -/
theorem askedWith_of_some {asked : Option Formula} {c : Criterion} {g : Formula}
    (h : c.formula? = some g) :
    askedWith asked c = some (asked.elim g fun f ↦ withCriterion f c.operator.required g) := by
  rw [askedWith, h]

private theorem foldl_askedWith_some (f : Formula) (cs : List Criterion) :
    cs.foldl askedWith (some f) =
      some ((cs.filterMap fun c ↦ c.formula?.map fun g ↦ (c.operator.required, g)).foldl
        (fun f (required, g) ↦ withCriterion f required g) f) := by
  induction cs generalizing f with
  | nil => rfl
  | cons c rest ih =>
    rw [List.foldl_cons]
    cases h : c.formula? with
    | none => rw [askedWith_of_none h, List.filterMap_cons_none (by rw [h]; rfl), ih]
    | some g =>
      rw [askedWith_of_some h, Option.elim_some, ih,
        List.filterMap_cons_some (b := (c.operator.required, g)) (by rw [h]; rfl)]
      rfl

/-- A section asks for what its criteria ask for, one after the other. -/
theorem sectionFormula?_eq_foldl (index : Nat) (cs : List Criterion) :
    sectionFormula? index cs = (Level.criteriaAt index cs).foldl askedWith none := by
  rw [sectionFormula?]
  induction Level.criteriaAt index cs with
  | nil => rfl
  | cons c rest ih =>
    rw [List.foldl_cons]
    cases h : c.formula? with
    | none =>
      rw [askedWith_of_none h, List.filterMap_cons_none (by rw [h]; rfl)]
      exact ih
    | some g =>
      rw [askedWith_of_some h, Option.elim_none, foldl_askedWith_some,
        List.filterMap_cons_some (b := (c.operator.required, g)) (by rw [h]; rfl)]

/-- A section of criteria without filters asks for nothing. -/
theorem sectionFormula?_eq_none {index : Nat} {cs : List Criterion}
    (h : ∀ c ∈ Level.criteriaAt index cs, c.filter = "") : sectionFormula? index cs = none := by
  rw [sectionFormula?_eq_foldl]
  generalize Level.criteriaAt index cs = asking at h ⊢
  induction asking with
  | nil => rfl
  | cons c rest ih =>
    have hc : c.formula? = none :=
      Criterion.filter_eq_empty_iff.mp (h c List.mem_cons_self)
    rw [List.foldl_cons, askedWith_of_none hc]
    exact ih fun d hd ↦ h d (List.mem_cons_of_mem c hd)

/-- A section asks for something if one of its criteria has a filter. -/
theorem exists_sectionFormula? {index : Nat} {cs : List Criterion}
    (h : ∃ c ∈ Level.criteriaAt index cs, c.filter ≠ "") :
    ∃ f, sectionFormula? index cs = some f := by
  obtain ⟨c, hc, hne⟩ := h
  rw [sectionFormula?]
  split
  · next hnil =>
    have hf : c.formula? = none :=
      Option.map_eq_none_iff.mp (List.filterMap_eq_nil_iff.mp hnil c hc)
    exact absurd (Criterion.filter_eq_empty_iff.mpr hf) hne
  · exact ⟨_, rfl⟩

section Joined

variable {holds : Formula → Prop}
  (hjoin : ∀ joint f g, holds f → holds g → holds (Joint.join joint f g))

include hjoin

private theorem askedWith_of_forall {asked : Option Formula} {c : Criterion}
    (ha : ∀ f, asked = some f → holds f) (hc : ∀ f, c.formula? = some f → holds f) :
    ∀ f, askedWith asked c = some f → holds f := by
  cases hg : c.formula? with
  | none =>
    rw [askedWith_of_none hg]
    exact ha
  | some g =>
    rw [askedWith_of_some hg]
    intro _ h
    cases h
    cases asked with
    | none => exact hc g hg
    | some f =>
      rw [Option.elim_some, withCriterion]
      split
      · exact hjoin .conj f g (ha f rfl) (hc g hg)
      · exact hjoin .disj f g (ha f rfl) (hc g hg)

/-- What holds of the formulas of a section's criteria, and of two formulas joined if it does of
each, holds of the section's. -/
theorem sectionFormula?_of_forall {index : Nat} {cs : List Criterion}
    (hc : ∀ c ∈ Level.criteriaAt index cs, ∀ f, c.formula? = some f → holds f) {f : Formula}
    (h : sectionFormula? index cs = some f) : holds f := by
  rw [sectionFormula?_eq_foldl] at h
  have hnone : ∀ f, none = some f → holds f := fun f h ↦ nomatch h
  generalize (none : Option Formula) = asked at h hnone
  generalize Level.criteriaAt index cs = asking at hc h
  induction asking generalizing asked with
  | nil => exact hnone f h
  | cons c rest ih =>
    exact ih _ (askedWith_of_forall hjoin hnone (hc c List.mem_cons_self))
      (fun d hd ↦ hc d (List.mem_cons_of_mem c hd)) h

end Joined

namespace Level

/-- A level has a text exactly if something is asked for. -/
def Says (l : Level) (asked : Option Formula) : Prop := l.text = "" ↔ asked = none

private theorem says_add {l : Level} {asked : Option Formula} (h : l.Says asked) (c : Criterion) :
    (l.add c).Says (askedWith asked c) := by
  rw [add, addTerm]
  cases hf : c.formula? with
  | none =>
    rw [if_pos (String.isEmpty_iff.mpr (Criterion.filter_eq_empty_iff.mpr hf)),
      askedWith_of_none hf]
    exact h
  | some g =>
    have hne : c.filter ≠ "" := fun he ↦ by
      rw [Criterion.filter_eq_empty_iff.mp he] at hf
      cases hf
    have hg := group_ne_empty c.filter
    rw [if_neg (fun he ↦ hne (String.isEmpty_iff.mp he)), askedWith_of_some hf]
    refine iff_of_false ?_ (fun he ↦ nomatch he)
    dsimp only
    rw [joined]
    split
    · exact hg
    · exact fun he ↦ hg (String.append_eq_empty_iff.mp he).2

private theorem says_absorb {l : Level} {asked : Option Formula} {c : Criterion}
    (h : l.Says asked) (hb : c.Built) (he : (l.absorb c).excluded = false) :
    (l.absorb c).Says (askedWith asked c) := by
  rw [excluded_absorb, Bool.or_eq_false_iff] at he
  rw [absorb_of_keeps he.1 he.2]
  split
  · next hk =>
    rw [askedWith_of_none (hb.formula?_of_disposition hk)]
    exact h
  · exact says_add h c

private theorem says_foldl_absorb {l : Level} {asked : Option Formula} {cs : List Criterion}
    (h : l.Says asked) (hb : ∀ c ∈ cs, c.Built) (he : (cs.foldl absorb l).excluded = false) :
    (cs.foldl absorb l).Says (cs.foldl askedWith asked) := by
  induction cs generalizing l asked with
  | nil => exact h
  | cons c rest ih =>
    rw [List.foldl_cons] at he ⊢
    rw [List.foldl_cons]
    have hfirst : (l.absorb c).excluded = false := by
      rw [excluded_foldl_absorb, Bool.or_eq_false_iff] at he
      exact he.1
    exact ih (says_absorb h (hb c List.mem_cons_self) hfirst)
      (fun d hd ↦ hb d (List.mem_cons_of_mem c hd)) he

/-- The level of a depth that is let in has a text exactly if its section asks for something. -/
theorem says_atDepth {cs : List Criterion} (hb : ∀ c ∈ cs, c.Built) {index : Nat}
    (he : (atDepth cs index).excluded = false) :
    (atDepth cs index).Says (sectionFormula? index cs) := by
  unfold atDepth at he ⊢
  split at he
  · cases he
  · next hne =>
    rw [if_neg hne, sectionFormula?_eq_foldl]
    have hsub (c : Criterion) (hc : c ∈ criteriaAt index cs) : c.Built :=
      hb c (List.mem_filter.mp hc).1
    exact says_foldl_absorb (iff_of_true rfl rfl) hsub he

/-- The level of criteria that is let in has a text exactly if its section asks for something. -/
theorem says_of_mem_levels {cs : List Criterion} (hb : ∀ c ∈ cs, c.Built) {level : Level}
    (hm : level ∈ levels cs) (he : level.excluded = false) :
    level.Says (sectionFormula? level.index cs) := by
  rw [eq_atDepth hm] at he ⊢
  rw [index_atDepth]
  exact says_atDepth hb he

end Level

end Expression

end CaptureFilter
