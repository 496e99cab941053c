import CaptureFilter.Proofs.Asked
import CaptureFilter.Proofs.Negation

/-!
# Inputs put together

Blanks between two inputs keep their words apart and add none. The input made of the two is accepted
exactly if both are, has the fragments of the one before those of the other, and otherwise fails as
the first of the two that fails.
Spec guidance: `SPEC_FULL.md` §4.1 (`set_input`, `_compile_tokens`).
-/

namespace CaptureFilter

open Text

/-! ### Words -/

namespace Text

private theorem wordsOf_append_of_blank {between : List Char}
    (h : ∀ c ∈ between, isBlank c = true) (t : List Char) : wordsOf (between ++ t) = wordsOf t := by
  induction between with
  | nil => rfl
  | cons c rest ih =>
    have hc : isBlank c = true := h c List.mem_cons_self
    have hrest : wordsOf (rest ++ t) = wordsOf t := ih fun d hd ↦ h d (List.mem_cons_of_mem c hd)
    have hstep := wordsOf_append_cons [] (rest ++ t) hc
    rw [hrest] at hstep
    exact hstep

/-- The words of two texts with blanks between them are those of the one and those of the other. -/
theorem words_append {w : String} (hw : w ≠ "") (hblank : ∀ c ∈ w.toList, isBlank c = true)
    (a b : String) : words (a ++ w ++ b) = words a ++ words b := by
  have hne : w.toList ≠ [] := fun he ↦ hw (String.toList_inj.mp he)
  obtain ⟨c, rest, hl⟩ := List.exists_cons_of_ne_nil hne
  rw [hl] at hblank
  have hrest : wordsOf (rest ++ b.toList) = wordsOf b.toList :=
    wordsOf_append_of_blank (fun d hd ↦ hblank d (List.mem_cons_of_mem c hd)) b.toList
  have hsplit := wordsOf_append_cons a.toList (rest ++ b.toList) (hblank c List.mem_cons_self)
  rw [hrest] at hsplit
  rw [words, String.toList_append, String.toList_append, hl, List.append_assoc, List.cons_append,
    hsplit, List.map_append]
  rfl

end Text

/-! ### Filters -/

/-- What stands between the fragments that an operator combines. -/
def Operator.connective : Operator → String
  | .none | .allOf | .noneOf | .orAllOf | .orNoneOf => " and "
  | .anyOf | .orAnyOf | .any | .untagged | .tagged | .custom => " or "

/-- Texts joined in two parts and then put together, unless a part is empty, are joined as a
whole. -/
theorem intercalate_parts {sep : String} {front back : List String} (hf : ∀ t ∈ front, t ≠ "")
    (hb : ∀ t ∈ back, t ≠ "") :
    sep.intercalate (front ++ back) =
      sep.intercalate ([sep.intercalate front, sep.intercalate back].filter (· ≠ "")) := by
  by_cases hfront : front = []
  · by_cases hback : back = []
    · simp [hfront, hback]
    · have hne : sep.intercalate back ≠ "" := fun he ↦
        hback ((Criterion.intercalate_eq_empty_iff hb).mp he)
      simp [hfront, hne]
  · have hne : sep.intercalate front ≠ "" := fun he ↦
      hfront ((Criterion.intercalate_eq_empty_iff hf).mp he)
    by_cases hback : back = []
    · simp [hback, hne]
    · have hne' : sep.intercalate back ≠ "" := fun he ↦
        hback ((Criterion.intercalate_eq_empty_iff hb).mp he)
      rw [String.intercalate_append_of_ne_nil hfront hback]
      simp [hne, hne']

namespace Fragment

/-- The text of a fragment among those that an operator combines, negated if it excludes. -/
def textUnder (op : Operator) (fragment : Fragment) : String :=
  if op.excludes then "not " ++ fragment.text else fragment.text

/-- No fragment has an empty text under an operator. -/
theorem textUnder_ne_empty (op : Operator) (fragment : Fragment) : fragment.textUnder op ≠ "" := by
  rw [textUnder]
  split
  · exact fun he ↦ fragment.text_ne_empty (String.append_eq_empty_iff.mp he).2
  · exact fragment.text_ne_empty

/-- Fragments are combined with the operator's connective. -/
theorem combine_eq (op : Operator) (fragments : List Fragment) :
    combine op fragments = op.connective.intercalate (fragments.map (textUnder op)) := by
  cases op <;> rfl

/-- Fragments in two parts are combined part by part. -/
theorem combine_append (op : Operator) (front back : List Fragment) :
    combine op (front ++ back) =
      op.connective.intercalate ([combine op front, combine op back].filter (· ≠ "")) := by
  have hne (fragments : List Fragment) : ∀ t ∈ fragments.map (textUnder op), t ≠ "" := by
    intro t ht
    obtain ⟨fragment, -, rfl⟩ := List.mem_map.mp ht
    exact fragment.textUnder_ne_empty op
  rw [combine_eq, combine_eq, combine_eq, List.map_append]
  exact intercalate_parts (hne front) (hne back)

end Fragment

/-! ### Inputs -/

namespace Criterion

variable {c : Criterion}

/-- The fragments of tokens in two parts are those of the one and those of the other. -/
theorem fragmentsOf_append (c : Criterion) (table : Protocol.Table) (front back : List String) :
    c.fragmentsOf table (front ++ back) = do
      let fragments ← c.fragmentsOf table front
      let others ← c.fragmentsOf table back
      return fragments ++ others := by
  unfold fragmentsOf
  split
  · exact List.mapM_append
  · rfl

/-- Two inputs with blanks between them are set one after the other. -/
theorem setInput_append (hn : c.input = none) (table : Protocol.Table) {w : String}
    (hw : w ≠ "") (hblank : ∀ ch ∈ w.toList, isBlank ch = true) (a b : String) :
    c.setInput table (some (a ++ w ++ b)) = do
      let x ← c.setInput table (some a)
      let y ← c.setInput table (some b)
      return { c with input := some (a ++ w ++ b), fragments := x.fragments ++ y.fragments } := by
  rw [setInput_of_none hn, setInput_of_none hn, setInput_of_none hn, Option.getD_some,
    Option.getD_some, Option.getD_some, words_append hw hblank, fragmentsOf_append]
  cases c.fragmentsOf table (words a) with
  | error e => rfl
  | ok fragments => cases c.fragmentsOf table (words b) <;> rfl

/-- A criterion that compares no packet field has an empty filter, whatever its input. -/
theorem Built.filter_eq_empty (hb : c.Built) (hk : ∀ field, c.kind ≠ .packet field) :
    c.filter = "" :=
  filter_eq_empty_iff.mpr (formula?_eq_none_iff.mpr (hb.fragments_eq_nil hk))

/-- Two inputs with blanks between them are accepted exactly if each is. The filter is then made of
those of the two that are not empty, and is empty if no packet field is compared. Otherwise they
fail as the first does, or as the second if the first is accepted. -/
theorem input_concatenates {kind : Kind} {place : Section} {operator : Operator} {c : Criterion}
    (hc : make kind place operator = .ok c) (table : Protocol.Table) (a b : String) {w : String}
    (hw : w ≠ "") (hblank : ∀ ch ∈ w.toList, isBlank ch = true) :
    ((∃ d, c.setInput table (some (a ++ w ++ b)) = .ok d) ↔
        (∃ x, c.setInput table (some a) = .ok x) ∧ ∃ y, c.setInput table (some b) = .ok y) ∧
      (∀ d x y, c.setInput table (some (a ++ w ++ b)) = .ok d →
        c.setInput table (some a) = .ok x → c.setInput table (some b) = .ok y →
          d.filter = operator.connective.intercalate ([x.filter, y.filter].filter (· ≠ "")) ∧
            ((∀ field, kind ≠ .packet field) → d.filter = "")) ∧
      ∀ e, c.setInput table (some (a ++ w ++ b)) = .error e ↔
        c.setInput table (some a) = .error e ∨
          (∃ x, c.setInput table (some a) = .ok x) ∧ c.setInput table (some b) = .error e := by
  obtain ⟨hn, rfl, rfl⟩ : c.input = none ∧ kind = c.kind ∧ operator = c.operator := by
    obtain ⟨legal, rfl⟩ := eq_of_make hc
    exact ⟨rfl, rfl, rfl⟩
  have happend := setInput_append hn table hw hblank a b
  refine ⟨?_, ?_, ?_⟩
  · rw [happend]
    constructor
    · rintro ⟨d, hd⟩
      obtain ⟨x, hx, hd⟩ := bind_eq_ok_iff.mp hd
      obtain ⟨y, hy, -⟩ := bind_eq_ok_iff.mp hd
      exact ⟨⟨x, hx⟩, y, hy⟩
    · rintro ⟨⟨x, hx⟩, y, hy⟩
      rw [hx, hy]
      exact ⟨_, rfl⟩
  · intro d x y hd hx hy
    have hop {d : Criterion} {raw : Option String} (h : c.setInput table raw = .ok d) :
        d.operator = c.operator := (setInput_keeps h).2.2.1
    refine ⟨?_, fun hk ↦ Built.filter_eq_empty (.set (.made hc) hd) ?_⟩
    · have hfragments : d.fragments = x.fragments ++ y.fragments := by
        rw [happend, hx, hy] at hd
        cases hd
        rfl
      rw [filter, filter, filter, hop hd, hop hx, hop hy, hfragments, Fragment.combine_append]
    · rw [(setInput_keeps hd).1]
      exact hk
  · intro e
    rw [happend]
    constructor
    · intro he
      rcases bind_eq_error_iff.mp he with ha | ⟨x, hx, he⟩
      · exact .inl ha
      · rcases bind_eq_error_iff.mp he with hb | ⟨y, -, he⟩
        · exact .inr ⟨⟨x, hx⟩, hb⟩
        · cases he
    · rintro (ha | ⟨⟨x, hx⟩, hb⟩)
      · rw [ha]
        rfl
      · rw [hx, hb]
        rfl

/-- Ports of which none is let in, with blanks of two sorts between them. -/
theorem ports_concatenate :
    ∃ d, (onField .port 0 .noneOf rfl).setInput .empty (some "22 80\u2003\t0443") = .ok d ∧
      d.filter = "not port 22 and not port 80 and not port 443" ∧
      ∀ e, (onField .port 0 .noneOf rfl).setInput .empty (some "22 80\u2003\t0443") = .error e ↔
        (onField .port 0 .noneOf rfl).setInput .empty (some "22 80") = .error e ∨
          (∃ x, (onField .port 0 .noneOf rfl).setInput .empty (some "22 80") = .ok x) ∧
            (onField .port 0 .noneOf rfl).setInput .empty (some "0443") = .error e := by
  have hx : (onField .port 0 .noneOf rfl).setInput .empty (some "22 80") = .ok
      { onField .port 0 .noneOf rfl with
        input := some "22 80", fragments := [.port 22, .port 80] } := rfl
  have hy : (onField .port 0 .noneOf rfl).setInput .empty (some "0443") = .ok
      { onField .port 0 .noneOf rfl with input := some "0443", fragments := [.port 443] } := rfl
  have hc : make (.packet .port) (.depth 0) .noneOf = .ok (onField .port 0 .noneOf rfl) :=
    make_onField rfl
  have hblank : ∀ ch ∈ "\u2003\t".toList, isBlank ch = true := List.all_eq_true.mp (by decide)
  obtain ⟨hok, hfilter, herror⟩ :=
    input_concatenates hc .empty "22 80" "0443" (by decide) hblank
  obtain ⟨d, hd⟩ := hok.mpr ⟨⟨_, hx⟩, _, hy⟩
  exact ⟨d, hd, (hfilter d _ _ hd hx hy).1, herror⟩

end Criterion

end CaptureFilter
