import CaptureFilter.Criterion.Basic

/-!
# Attempts at an input

A criterion in a run: its input is attempted to be set, again and again, each time with a text and a
table of its own. An attempt looks first whether the input is set, then reads the tokens, and only
then stores the text and the fragments.
Spec guidance: `SPEC_FULL.md` §3 (`set_input` is successful once).
-/

namespace CaptureFilter.Criterion

open Text

/-- An attempt to set an input. -/
structure Attempt where
  /-- Where the table comes from if a name is looked up. -/
  source : Protocol.Source
  /-- The text, if there is one. -/
  raw : Option String

/-- The fragments of a text, with a table that is asked for only if a name is looked up. -/
def fragmentsFrom (c : Criterion) (source : Protocol.Source) (raw : Option String) :
    Except Failure (List Fragment) :=
  let tokens := words (raw.getD "")
  if c.kind == .packet .protocol && Fragment.consults tokens then do
    let table ← source.mapError .numeral
    c.fragmentsOf table tokens
  else c.fragmentsOf .empty tokens

/-- What an attempt does to the criterion, step by step. Supports `set_input`. -/
def attempt (a : Attempt) : EStateM Failure Criterion Unit := do
  let c ← get
  if c.input.isSome then ofExcept (refuse (.inputSet a.raw))
  let fragments ← ofExcept (c.fragmentsFrom a.source a.raw)
  modify fun c ↦ { c with input := some (a.raw.getD "") }
  modify fun c ↦ { c with fragments }

/-- The criterion after each attempt of a run, and why the attempt failed if it did. -/
def attempts (c : Criterion) : List Attempt → List (Criterion × Option Failure)
  | [] => []
  | a :: rest =>
    match (attempt a).run c with
    | .ok _ d => (d, none) :: d.attempts rest
    | .error e d => (d, some e) :: d.attempts rest

/-- A run goes on with what a successful attempt leaves. -/
theorem attempts_cons_of_ok {c d : Criterion} {a : Attempt} (h : (attempt a).run c = .ok () d)
    (rest : List Attempt) : c.attempts (a :: rest) = (d, none) :: d.attempts rest := by
  rw [attempts, h]

/-- A run goes on with what a failing attempt leaves. -/
theorem attempts_cons_of_error {c d : Criterion} {a : Attempt} {e : Failure}
    (h : (attempt a).run c = .error e d) (rest : List Attempt) :
    c.attempts (a :: rest) = (d, some e) :: d.attempts rest := by
  rw [attempts, h]

/-- Setting the input from a table stores the fragments of the text. -/
theorem setInputFrom_eq (c : Criterion) (source : Protocol.Source) (raw : Option String) :
    c.setInputFrom source raw =
      if c.input.isSome then refuse (.inputSet raw)
      else
        (c.fragmentsFrom source raw).map fun fragments ↦
          { c with input := some (raw.getD ""), fragments } := by
  unfold setInputFrom consults fragmentsFrom
  cases hi : c.input with
  | some text => simp [setInput, hi]
  | none =>
    simp only [Option.isNone_none, Bool.true_and, Option.isSome_none, Bool.false_eq_true, if_false]
    split
    · cases source.mapError Failure.numeral with
      | error e => rfl
      | ok table => exact setInput_of_none hi table raw
    · exact setInput_of_none hi .empty raw

/-- What an attempt comes to: the criterion with its input set, or else the one that it was. -/
theorem run_attempt (a : Attempt) (c : Criterion) :
    (attempt a).run c =
      match c.setInputFrom a.source a.raw with
      | .ok d => .ok () d
      | .error e => .error e c := by
  rw [setInputFrom_eq]
  change (if c.input.isSome = true then _ else _ : EStateM Failure Criterion Unit) c = _
  by_cases hs : c.input.isSome = true
  · rw [if_pos hs, if_pos hs]
    rfl
  · rw [if_neg hs, if_neg hs]
    change EStateM.bind (ofExcept (c.fragmentsFrom a.source a.raw)) _ c = _
    cases c.fragmentsFrom a.source a.raw with
    | error e => rfl
    | ok fragments => rfl

end CaptureFilter.Criterion
