import CaptureFilter.Expression.Grammar

/-!
# The comparisons of an expression

The reader keeps the comparisons of a text in their order, so that the atoms of the formula that a
text reads as are the comparisons of the text, each looked at behind as many tags as `vlan` is
written before it.
Spec guidance: `SPEC_FULL.md` §4.2 step 5 (`_emit`).
-/

namespace CaptureFilter.Expression

/-! ### Atoms -/

namespace Formula

/-- The texts of the atoms in the order they are written in. -/
def texts (f : Formula) : List String := (f.atoms 0).map (·.2)

/-- The texts of the atoms do not depend on what stands before them. -/
theorem map_atoms (f : Formula) (before : Nat) : (f.atoms before).map (·.2) = f.texts := by
  rw [texts]
  suffices h : ∀ m n, (f.atoms m).map (·.2) = (f.atoms n).map (·.2) from h before 0
  induction f with
  | atom text => exact fun m n ↦ rfl
  | neg f ih => exact ih
  | conj f g ihf ihg | disj f g ihf ihg =>
    intro m n
    rw [atoms, atoms, List.map_append, List.map_append, ihf m n, ihg (m + f.depth) (n + f.depth)]

/-- A negation has the atoms of what is negated. -/
@[simp] theorem texts_neg (f : Formula) : (neg f).texts = f.texts := rfl

/-- A formula negated a number of times has the same atoms. -/
theorem texts_negated (n : Nat) (f : Formula) : (f.negated n).texts = f.texts := by
  induction n with
  | zero => rfl
  | succ n ih => rw [negated, texts_neg, ih]

/-- A joined formula has the atoms of one formula and then those of the other. -/
@[simp] theorem texts_join (joint : Joint) (f g : Formula) :
    (joint.join f g).texts = f.texts ++ g.texts := by
  have h : ∀ before, ((joint.join f g).atoms before).map (·.2) =
      (f.atoms before).map (·.2) ++ (g.atoms (before + f.depth)).map (·.2) := by
    intro before
    cases joint <;> exact List.map_append
  rw [texts, h 0, map_atoms, map_atoms]

/-- The depth of a formula is the number of its `vlan` atoms. -/
theorem depth_eq_count (f : Formula) : f.depth = f.texts.count "vlan" := by
  rw [← countP_atoms f 0, texts, List.count, List.countP_map]
  rfl

end Formula

/-! ### The reader -/

/-- The text of a comparison. -/
def Token.comparison? : Token → Option String
  | .comparison s => some (String.ofList s)
  | _ => none

/-- The comparisons of a text in the order they are written in. -/
def comparisons (expression : String) : List String :=
  (tokens expression.toList).filterMap Token.comparison?

/-- The comparisons before an operand that is due. -/
def Due.texts (due : Due) : List String := due.left.elim [] fun (f, _) ↦ f.texts

/-- A completed formula has the atoms of the operand behind those before it. -/
theorem Due.texts_complete (due : Due) (operand : Formula) :
    (due.complete operand).texts = due.texts ++ operand.texts := by
  rw [complete, texts]
  cases due.left with
  | none => simp [Formula.texts_negated]
  | some left => simp [Formula.texts_negated]

namespace Standing

/-- The comparisons that the reader has passed. -/
def texts : Standing → List String
  | .due here outer => outer.reverse.flatMap Due.texts ++ here.texts
  | .complete f outer => outer.reverse.flatMap Due.texts ++ f.texts

/-- A step passes the comparison of its token, if it has one. -/
theorem texts_step {standing after : Standing} {token : Token}
    (h : standing.step token = some after) :
    after.texts = standing.texts ++ token.comparison?.toList := by
  unfold step at h
  split at h
  · cases h
    simp [texts, Due.texts, Token.comparison?]
  · cases h
    simp [texts, Due.texts, Token.comparison?]
  · cases h
    rw [texts, texts, Due.texts_complete, ← List.append_assoc]
    rfl
  · cases h
    simp [texts, Due.texts, Token.comparison?]
  · cases h
    simp [texts, Due.texts, Token.comparison?]
  · cases h
    simp [texts, Due.texts_complete, Token.comparison?]
  · cases h

/-- Reading tokens passes their comparisons in their order. -/
theorem texts_run {standing after : Standing} {all : List Token}
    (h : standing.run all = some after) :
    after.texts = standing.texts ++ all.filterMap Token.comparison? := by
  induction all generalizing standing with
  | nil =>
    cases h
    simp
  | cons token rest ih =>
    obtain ⟨next, hn, h⟩ := Option.bind_eq_some_iff.mp h
    rw [ih h, texts_step hn, List.append_assoc]
    congr 1
    cases hc : token.comparison? with
    | none => simp [hc]
    | some s => simp [hc]

end Standing

/-- The atoms of the formula that a text reads as are the comparisons of the text. -/
theorem Formula.texts_of_ofText? {e : String} {f : Formula} (h : ofText? e = some f) :
    f.texts = comparisons e := by
  rw [ofText?, ofTokens?] at h
  split at h
  · next g hr =>
    cases h
    have ht := Standing.texts_run hr
    simpa [Standing.texts, Due.texts, comparisons] using ht
  · cases h

end CaptureFilter.Expression
