import CaptureFilter.Proofs.Asked
import CaptureFilter.Proofs.Comparisons
import CaptureFilter.Proofs.FragmentReading

/-!
# Exclusion as negation

Excluding values and asking for any of them accept the same inputs. The one filter reads as a
conjunction of negations, the other as a disjunction of what is negated there, so that the one
expression holds exactly where the other does not.
Spec guidance: `SPEC_FULL.md` §3 (`exclude`) and §4.1 (`_compile_tokens`).
-/

namespace CaptureFilter

open Text

namespace Expression.Formula

/-- Whether a formula holds where its atoms have given truth values. -/
def eval (truth : String → Bool) : Formula → Bool
  | .atom text => truth text
  | .neg f => !f.eval truth
  | .conj f g => f.eval truth && g.eval truth
  | .disj f g => f.eval truth || g.eval truth

/-- A formula is the negation of another one that has the same atoms in the same order. -/
structure Negates (f g : Formula) : Prop where
  /-- The atoms are the same. -/
  texts : f.texts = g.texts
  /-- One of the two holds, whatever the atoms say. -/
  eval : ∀ truth : String → Bool, f.eval truth = !g.eval truth

/-- A negated formula negates what is negated. -/
theorem negates_neg (f : Formula) : Negates (.neg f) f := ⟨rfl, fun _ ↦ rfl⟩

/-- The conjunction of negations negates the disjunction. -/
theorem Negates.join {f g f' g' : Formula} (h : Negates f g) (h' : Negates f' g') :
    Negates (Joint.conj.join f f') (Joint.disj.join g g') where
  texts := by rw [texts_join, texts_join, h.texts, h'.texts]
  eval := fun truth ↦ by
    change (f.eval truth && f'.eval truth) = !(g.eval truth || g'.eval truth)
    rw [h.eval, h'.eval, Bool.not_or]

private theorem negates_foldl {f g : Formula} (h : Negates f g) (rest : List Formula) :
    Negates ((rest.map .neg).foldl Joint.conj.join f) (rest.foldl Joint.disj.join g) := by
  induction rest generalizing f g with
  | nil => exact h
  | cons next rest ih => exact ih (h.join (negates_neg next))

/-- The conjunction of the negations of formulas negates their disjunction. -/
theorem negates_joined? {formulas : List Formula} {f g : Formula}
    (hf : joined? .conj (formulas.map .neg) = some f) (hg : joined? .disj formulas = some g) :
    Negates f g := by
  cases formulas with
  | nil => cases hg
  | cons first rest =>
    cases hf
    cases hg
    exact negates_foldl (negates_neg first) rest

end Expression.Formula

namespace Criterion

open Expression

/-! ### Criteria on a field -/

/-- A criterion that combines the values of a field at a depth. -/
def onField (field : PacketField) (depth : Fin 10) (op : Operator) (h : op.onField = true) :
    Criterion where
  kind := .packet field
  place := .depth depth
  operator := op
  legal := by simp [combinationFault?, h]

variable {field : PacketField} {depth : Fin 10} {op : Operator} (h : op.onField = true)

/-- Every operator that combines values may stand with every field at every depth. -/
theorem make_onField :
    make (.packet field) (.depth depth) op = .ok (onField field depth op h) :=
  make_of_legal (onField field depth op h).legal

/-- Setting the input of such a criterion stores the fragments of the words. -/
theorem setInput_onField (table : Protocol.Table) (text : String) :
    (onField field depth op h).setInput table (some text) =
      ((words text).mapM (Fragment.ofToken table depth field)).map fun fragments ↦
        { onField field depth op h with input := some text, fragments } :=
  setInput_of_none rfl table (some text)

/-! ### Filters -/

variable {c d : Criterion}

/-- A criterion that excludes values asks for the negation of one that asks for any of them. -/
theorem negates_formula? {f g : Formula} (hf : c.formula? = some f) (hg : d.formula? = some g)
    (hfragments : c.fragments = d.fragments) (hc : c.operator.excludes = true)
    (hd : d.operator.excludes = false) (hany : d.operator.conjoins = false) : f.Negates g := by
  rw [formula?, if_pos hc, hfragments] at hf
  rw [formula?, if_neg (by simp [hd]), if_neg (by simp [hany])] at hg
  exact Formula.negates_joined? hf hg

/-- The filter of a criterion with fragments reads as what the criterion asks for. -/
theorem Built.exists_formula (hb : c.Built) (hl : c.Legible) (hne : c.fragments ≠ []) :
    ∃ f, c.formula? = some f ∧ Formula.ofText? c.filter = some f := by
  have hasks : c.formula? ≠ none := fun hn ↦ hne (formula?_eq_none_iff.mp hn)
  obtain ⟨f, hf⟩ := Option.ne_none_iff_exists'.mp hasks
  exact ⟨f, hf, (phrase_filter (fun _ hm ↦ hb.readable hl hm) hf).ofText?⟩

/-- Excluding values and asking for any of them fail alike, or else the filters read as formulas of
which one is the negation of the other. -/
theorem exclusion_negates {excluding including : Operator}
    (hx : excluding = .noneOf ∨ excluding = .orNoneOf)
    (hi : including = .anyOf ∨ including = .orAnyOf) (field : PacketField) (depth : Fin 10)
    (table : Protocol.Table) (text : String) (ht : words text ≠ [])
    (hl : field = .address → ∀ token ∈ words text,
      '%' ∈ token.toList → '(' ∉ token.toList ∧ ')' ∉ token.toList) :
    ∃ c d, make (.packet field) (.depth depth) excluding = .ok c ∧
      make (.packet field) (.depth depth) including = .ok d ∧
      ((∃ e, c.setInput table (some text) = .error e ∧ d.setInput table (some text) = .error e) ∨
        ∃ c' d' f g, c.setInput table (some text) = .ok c' ∧
          d.setInput table (some text) = .ok d' ∧ Formula.ofText? c'.filter = some f ∧
          Formula.ofText? d'.filter = some g ∧ f.Negates g) := by
  have hox : excluding.onField = true ∧ excluding.excludes = true := by
    rcases hx with rfl | rfl <;> decide
  have hoi : including.onField = true ∧ including.excludes = false ∧
      including.conjoins = false := by
    rcases hi with rfl | rfl <;> decide
  refine ⟨_, _, make_onField hox.1, make_onField hoi.1, ?_⟩
  rw [setInput_onField, setInput_onField]
  cases hm : (words text).mapM (Fragment.ofToken table depth field) with
  | error e => exact .inl ⟨e, rfl, rfl⟩
  | ok fragments =>
    right
    have hne : fragments ≠ [] := by
      rintro rfl
      exact ht (mapM_eq_ok_nil_iff.mp hm)
    have hreads {op : Operator} (h : op.onField = true) :=
      Built.exists_formula (c := { onField field depth op h with input := some text, fragments })
        (.set (.made (make_onField h)) (by rw [setInput_onField h table text, hm]; rfl))
        (fun hk ↦ hl (Kind.packet.inj hk)) hne
    obtain ⟨f, hf, hfilter⟩ := hreads hox.1
    obtain ⟨g, hg, hgilter⟩ := hreads hoi.1
    exact ⟨_, _, f, g, rfl, rfl, hfilter, hgilter,
      negates_formula? hf hg rfl hox.2 hoi.2.1 hoi.2.2⟩

/-- A table that knows the number of datagrams. -/
def datagramTable : Protocol.Table := Protocol.Table.empty.insert "udp" 17

/-- The filter for neither pings nor datagrams negates the one for pings or datagrams. -/
theorem pingsAndDatagrams_negated :
    ∃ c d f g, (onField .protocol 1 .orNoneOf rfl).setInput datagramTable (some "ping UDP") = .ok c ∧
      (onField .protocol 1 .anyOf rfl).setInput datagramTable (some "ping UDP") = .ok d ∧
      c.filter = "not " ++ Fragment.ping.text ++ " and not proto 17" ∧
      d.filter = Fragment.ping.text ++ " or proto 17" ∧
      Formula.ofText? c.filter = some f ∧ Formula.ofText? d.filter = some g ∧ f.Negates g := by
  obtain ⟨c, d, hc, hd, h⟩ := exclusion_negates (.inr rfl) (.inl rfl) .protocol 1 datagramTable
    "ping UDP" (by decide) (by nofun)
  obtain rfl := Except.ok.inj ((make_onField rfl).symm.trans hc)
  obtain rfl := Except.ok.inj ((make_onField rfl).symm.trans hd)
  have hx : (onField .protocol 1 .orNoneOf rfl).setInput datagramTable (some "ping UDP") = .ok
      { onField .protocol 1 .orNoneOf rfl with
        input := some "ping UDP", fragments := [.ping, .protocol 17] } := rfl
  rcases h with ⟨e, he, -⟩ | ⟨c', d', f, g, hc', hd', hf, hg, hneg⟩
  · rw [hx] at he
    cases he
  · refine ⟨c', d', f, g, hc', hd', ?_, ?_, hf, hg, hneg⟩
    · rw [hx] at hc'
      cases hc'
      rfl
    · cases hd'
      rfl

end Criterion

end CaptureFilter
