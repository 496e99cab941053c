import CaptureFilter.Proofs.Nesting
import Mathlib.Data.List.DropRight

/-!
# What a level accumulates

Whatever criteria are added to a level, and however often it is left out in between, its text joins
its terms in order, each of them is one group, and the text is one group only if it is a single
term. So the text of a single term may stand for the level's group as it is.
Spec guidance: `SPEC_FULL.md` §4.2 step 2 (`SectionState`).
-/

namespace CaptureFilter.Expression

/-- Two filters or more that are joined are not one group. -/
theorem not_oneGroup_joinFilters {asked : List (Bool × String)}
    (hb : ∀ a ∈ asked, Balanced a.2.toList) (h : 2 ≤ asked.length) :
    ¬ OneGroup (joinFilters asked) := by
  rcases List.eq_nil_or_concat' asked with rfl | ⟨front, last, rfl⟩
  · exact absurd h (by decide)
  · have hne : front ≠ [] := by
      rintro rfl
      exact absurd h (by simp)
    have hfront := balanced_joinFilters fun a ha ↦ hb a (List.mem_append_left [last] ha)
    rw [joinFilters_concat hne, joinFilter, String.append_assoc, ← isGroup_iff, Bool.not_eq_true]
    apply isGroup_append_eq_false hfront.closes_all
    · exact fun he ↦ hne (joinFilters_eq_empty_iff.mp he)
    · exact fun he ↦ group_ne_empty last.2 (String.append_eq_empty_iff.mp he).2

namespace Level

open Text

/-! ### Steps -/

/-- A step that a level takes. -/
inductive Step where
  /-- What a criterion asks for is added. -/
  | add (c : Criterion)
  /-- The packets of the level's depth are left out. -/
  | exclude

/-- The filter that a step asks for, with whether it must hold besides what came before. -/
def Step.asked? : Step → Option (Bool × String)
  | .add c => some (c.operator.required, c.filter)
  | .exclude => none

/-- A level after a step. -/
def step (l : Level) : Step → Level
  | .add c => l.add c
  | .exclude => l.exclude

/-- A level after steps. -/
def after (l : Level) (steps : List Step) : Level := steps.foldl step l

/-- The filters that are asked for behind the last step that leaves the level out, but for empty
ones. -/
def lastAsked (steps : List Step) : List (Bool × String) :=
  ((steps.rtakeWhile (·.asked?.isSome)).filterMap Step.asked?).filter (·.2 ≠ "")

/-- A filter that is asked for comes behind those before it, unless it is empty. -/
theorem lastAsked_add (steps : List Step) (c : Criterion) :
    lastAsked (steps ++ [.add c]) =
      lastAsked steps ++ [(c.operator.required, c.filter)].filter (·.2 ≠ "") := by
  rw [lastAsked, List.rtakeWhile_concat_pos _ _ _ rfl, List.filterMap_append, List.filter_append]
  rfl

/-- Leaving the level out drops what has been asked for before. -/
theorem lastAsked_exclude (steps : List Step) : lastAsked (steps ++ [.exclude]) = [] := by
  rw [lastAsked, List.rtakeWhile_concat_neg _ _ _ (by simp [Step.asked?])]
  rfl

/-- What has been asked for last is the filter of a criterion that is added. -/
theorem exists_add_of_mem_lastAsked {steps : List Step} {a : Bool × String}
    (h : a ∈ lastAsked steps) : ∃ c, .add c ∈ steps ∧ a.2 = c.filter := by
  obtain ⟨s, hs, hasked⟩ := List.mem_filterMap.mp (List.mem_filter.mp h).1
  cases s with
  | add c =>
    cases hasked
    exact ⟨c, (List.rtakeWhile_suffix _ _).subset hs, rfl⟩
  | exclude => cases hasked

/-! ### What steps keep -/

variable {l : Level} {asked : List (Bool × String)}

/-- A level that holds filters holds that of a criterion besides when it is added, unless it is
empty. -/
theorem Holds.add (h : l.Holds asked) (c : Criterion) :
    (l.add c).Holds (asked ++ [(c.operator.required, c.filter)].filter (·.2 ≠ "")) := by
  by_cases hf : c.filter = ""
  · rw [Level.add, addTerm, if_pos (by simp [hf]), List.filter_cons_of_neg (by simp [hf]),
      List.filter_nil, List.append_nil]
    exact h
  · have hadd : l.add c = l.addAsked (c.operator.required, c.filter) := rfl
    rw [hadd, addAsked_eq h hf, List.filter_cons_of_pos (by simpa using hf), List.filter_nil]
    exact ⟨rfl, rfl⟩

/-- A level that has been left out holds nothing. -/
theorem holds_exclude (l : Level) : l.exclude.Holds [] := ⟨rfl, rfl⟩

/-- After steps a fresh level holds what has been asked for last. -/
theorem holds_after (index : Nat) (steps : List Step) :
    (after { index } steps).Holds (lastAsked steps) := by
  induction steps using List.reverseRecOn with
  | nil => exact ⟨rfl, rfl⟩
  | append_singleton front s ih =>
    rw [after, List.foldl_concat, ← after]
    cases s with
    | add c =>
      rw [lastAsked_add]
      exact ih.add c
    | exclude =>
      rw [lastAsked_exclude]
      exact holds_exclude _

/-! ### What a level that holds filters is -/

namespace Holds

variable (h : l.Holds asked)

include h in
/-- A level that holds filters has no terms exactly if it has no text. -/
theorem terms_eq_nil_iff : l.terms = [] ↔ l.text = "" := by
  rw [h.terms_eq, h.text_eq, joinFilters_eq_empty_iff, List.map_eq_nil_iff]

variable (hb : ∀ a ∈ asked, Balanced a.2.toList)

include h hb

/-- Each term is one group. -/
theorem oneGroup_of_mem {term : String} (hm : term ∈ l.terms) : OneGroup term := by
  rw [h.terms_eq] at hm
  obtain ⟨a, ha, rfl⟩ := List.mem_map.mp hm
  exact oneGroup_group_iff.mpr (hb a ha)

/-- The text of two terms or more is not one group. -/
theorem not_oneGroup_text (hlen : 2 ≤ l.terms.length) : ¬ OneGroup l.text := by
  rw [h.terms_eq, List.length_map] at hlen
  rw [h.text_eq]
  exact not_oneGroup_joinFilters hb hlen

/-- The text of a single term is one group, as the term is. -/
theorem oneGroup_text (hlen : l.terms.length = 1) : OneGroup l.text := by
  rw [h.terms_eq, List.length_map] at hlen
  obtain ⟨a, rfl⟩ := List.length_eq_one_iff.mp hlen
  rw [h.text_eq]
  exact oneGroup_group_iff.mpr (hb a List.mem_cons_self)

/-- The terms as one group are the text made a group, also where a single term stands for it. -/
theorem grouped_eq : l.grouped = group l.text := by
  rw [grouped]
  split
  · next hlen => exact (group_of_isGroup (isGroup_iff.mpr (h.oneGroup_text hb hlen))).symm
  · rfl

/-- The terms as one group are one group. -/
theorem oneGroup_grouped : OneGroup l.grouped := by
  rw [h.grouped_eq hb, oneGroup_group_iff, h.text_eq]
  exact balanced_joinFilters hb

end Holds

/-- Whatever criteria are added to a fresh level, and however often it is left out in between, it
holds the filters that have been asked for last: it has terms exactly if it has a text, each term is
one group, the text of two terms or more is none, and what stands for the group of the text is that
group. -/
theorem level_accumulates (index : Nat) (steps : List Step)
    (hc : ∀ c, .add c ∈ steps → c.Built ∧ c.Legible) :
    let l := after { index } steps
    l.Holds (lastAsked steps) ∧ (l.terms = [] ↔ l.text = "") ∧
      (∀ term ∈ l.terms, OneGroup term) ∧ (2 ≤ l.terms.length → ¬ OneGroup l.text) ∧
      OneGroup l.grouped ∧ l.grouped = group l.text := by
  intro l
  have h : l.Holds (lastAsked steps) := holds_after index steps
  have hb : ∀ a ∈ lastAsked steps, Balanced a.2.toList := by
    intro a ha
    obtain ⟨c, hadd, hfilter⟩ := exists_add_of_mem_lastAsked ha
    obtain ⟨hbuilt, hlegible⟩ := hc c hadd
    rw [hfilter]
    exact hbuilt.balanced_filter hlegible
  exact ⟨h, h.terms_eq_nil_iff, fun _ ↦ h.oneGroup_of_mem hb, h.not_oneGroup_text hb,
    h.oneGroup_grouped hb, h.grouped_eq hb⟩

/-- Two beginnings of hardware addresses, a blank input, an address and a protocol to leave out. -/
def mixedFilters : List Criterion :=
  Criterion.accepted .empty
    [(.packet .mac, 1, .anyOf, "1:2 ff"), (.packet .port, 1, .allOf, " "),
      (.packet .address, 1, .orAnyOf, "10.0.0.1"), (.packet .protocol, 1, .noneOf, "6")]

/-- All of these are added, the level is left out, and all are added again. -/
def refilling : List Step := mixedFilters.map .add ++ .exclude :: mixedFilters.map .add

/-- The level holds three terms, joined in two ways, and is made a group as a whole. -/
theorem refilling_accumulates :
    (after { index := 1 } refilling).terms.length = 3 ∧
      (after { index := 1 } refilling).text =
        "((ether[0:2] = 0x0102 or ether[6:2] = 0x0102) or " ++
          "(ether[0:1] = 0xff or ether[6:1] = 0xff)) or (host 10.0.0.1) and (not proto 6)" ∧
      ¬ OneGroup (after { index := 1 } refilling).text ∧
      OneGroup (after { index := 1 } refilling).grouped := by
  have hzone : ∀ c ∈ mixedFilters, ∀ token ∈ words (c.input.getD ""), '%' ∉ token.toList := by
    decide
  have hc : ∀ c, .add c ∈ refilling → c.Built ∧ c.Legible := by
    intro c h
    have hm : c ∈ mixedFilters := by simpa [refilling] using h
    exact ⟨.of_mem_accepted hm, fun _ token ht hz ↦ absurd hz (hzone c hm token ht)⟩
  obtain ⟨hholds, -, -, hnot, hgrouped, -⟩ := level_accumulates 1 refilling hc
  have hthree : (after { index := 1 } refilling).terms.length = 3 := by rw [hholds.terms_eq]; rfl
  refine ⟨hthree, ?_, hnot (by rw [hthree]; decide), hgrouped⟩
  rw [hholds.text_eq]
  decide +kernel

end Level

end CaptureFilter.Expression
