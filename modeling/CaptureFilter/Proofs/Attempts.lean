import CaptureFilter.Criterion.Attempt
import CaptureFilter.Proofs.Building

/-!
# Runs of attempts

A criterion changes at most once, however often its input is attempted to be set. Attempts that are
refused leave it as it was made; the first whose tokens are all accepted stores the text and its
fragments; all that follow are refused and change nothing.
Spec guidance: `SPEC_FULL.md` §3 and §4.1 (`set_input`).
-/

namespace CaptureFilter

open Text

/-! ### Tables -/

namespace Fragment

variable {token : String}

/-- The table does not matter to a token that is no name. -/
theorem ofProtocol_congr (h : ProtocolToken.of token ≠ .name) (s t : Protocol.Table) :
    ofProtocol s token = ofProtocol t token := by
  unfold ofProtocol
  split
  · rfl
  · rfl
  · next hn => exact absurd hn h

/-- A name is looked up. -/
theorem consults_cons_of_name (h : ProtocolToken.of token = .name) (rest : List String) :
    consults (token :: rest) = true := by
  rw [consults, h]

/-- Behind a token that is no name the rest is looked at if that token is accepted. -/
theorem consults_cons_of_ne (h : ProtocolToken.of token ≠ .name) (table : Protocol.Table)
    (rest : List String) :
    consults (token :: rest) = ((ofProtocol table token).isOk && consults rest) := by
  rw [consults, ofProtocol]
  cases hk : ProtocolToken.of token with
  | special fragment => rfl
  | numeral n =>
    cases n with
    | error e => rfl
    | ok n =>
      change (decide (n ≤ maxProtocol) && consults rest) =
        ((if maxProtocol < n then refuse .protocolNumber token
          else .ok (Fragment.protocol n)).isOk && consults rest)
      by_cases hn : maxProtocol < n
      · rw [if_pos hn, decide_eq_false (by omega)]
        rfl
      · rw [if_neg hn, decide_eq_true (by omega)]
        rfl
  | name => exact absurd hk h

/-- Where no name is looked up the table does not matter. -/
theorem mapM_ofProtocol_congr {tokens : List String} (h : consults tokens = false)
    (s t : Protocol.Table) : tokens.mapM (ofProtocol s) = tokens.mapM (ofProtocol t) := by
  induction tokens with
  | nil => rfl
  | cons token rest ih =>
    have hne : ProtocolToken.of token ≠ .name := by
      intro hn
      rw [consults_cons_of_name hn] at h
      cases h
    rw [List.mapM_cons, List.mapM_cons, ofProtocol_congr hne s t]
    rw [consults_cons_of_ne hne t] at h
    cases ho : ofProtocol t token with
    | error e => rfl
    | ok fragment =>
      rw [ho] at h
      rw [ih h]

end Fragment

namespace Criterion

variable {c : Criterion}

/-- Where no name is looked up the table does not matter. -/
theorem fragmentsOf_congr {tokens : List String}
    (h : (c.kind == .packet .protocol && Fragment.consults tokens) = false)
    (s t : Protocol.Table) : c.fragmentsOf s tokens = c.fragmentsOf t tokens := by
  unfold fragmentsOf
  split
  · next field depth hk _ =>
    cases field with
    | protocol =>
      rw [hk, beq_self_eq_true, Bool.true_and] at h
      exact Fragment.mapM_ofProtocol_congr h s t
    | _ => rfl
  · rfl

/-- The fragments of a text are those of its words, in the order of the words, with the table if
there is one. -/
theorem fragmentsOf_of_fragmentsFrom {source : Protocol.Source} {raw : Option String}
    {fragments : List Fragment} (h : c.fragmentsFrom source raw = .ok fragments) :
    c.fragmentsOf (source.toOption.getD .empty) (words (raw.getD "")) = .ok fragments := by
  unfold fragmentsFrom at h
  dsimp only at h
  split at h
  · cases source with
    | error e => cases h
    | ok table => exact h
  · next hn => rw [fragmentsOf_congr (Bool.eq_false_iff.mpr hn) _ .empty, h]

/-! ### Single attempts -/

/-- Why the tokens of an attempt are refused, if they are. -/
def refusal? (c : Criterion) (a : Attempt) : Option Failure :=
  match c.fragmentsFrom a.source a.raw with
  | .ok _ => none
  | .error e => some e

/-- Tokens are refused for a fault of the field that they are compared with, or because digits
cannot be read. -/
theorem refusedFor_of_refusal? {a : Attempt} {e : Failure} (h : c.refusal? a = some e) :
    (∃ field, c.kind = .packet field ∧
        ∃ token ∈ words (a.raw.getD ""), Fragment.RefusedFor field token e) ∨
      ∃ unread, e = .numeral unread := by
  have hfrom : c.fragmentsFrom a.source a.raw = .error e := by
    unfold refusal? at h
    split at h
    · cases h
    · next he =>
      cases h
      exact he
  have hof {table : Protocol.Table}
      (he : c.fragmentsOf table (words (a.raw.getD "")) = .error e) :
      ∃ field, c.kind = .packet field ∧
        ∃ token ∈ words (a.raw.getD ""), Fragment.RefusedFor field token e := by
    unfold fragmentsOf at he
    split at he
    · next field depth hk _ =>
      obtain ⟨token, ht, he⟩ := exists_mem_of_mapM_eq_error he
      exact ⟨field, hk, token, ht, Fragment.refusedFor_of_ofToken he⟩
    · cases he
  unfold fragmentsFrom at hfrom
  dsimp only at hfrom
  split at hfrom
  · cases hs : a.source with
    | error unread =>
      rw [hs] at hfrom
      cases hfrom
      exact .inr ⟨unread, rfl⟩
    | ok table =>
      rw [hs] at hfrom
      exact .inl (hof hfrom)
  · exact .inl (hof hfrom)

/-- An attempt at an input that is set changes nothing. -/
theorem run_attempt_of_set (h : c.input.isSome = true) (a : Attempt) :
    (attempt a).run c = .error (.filter (.criterion (.inputSet a.raw))) c := by
  rw [run_attempt, setInputFrom_eq, if_pos h]
  rfl

/-- An attempt whose tokens are refused changes nothing. -/
theorem run_attempt_of_refused (hn : c.input = none) {a : Attempt} {e : Failure}
    (h : c.refusal? a = some e) : (attempt a).run c = .error e c := by
  unfold refusal? at h
  split at h
  · cases h
  · next he =>
    cases h
    rw [run_attempt, setInputFrom_eq, hn, if_neg (by simp), he]
    rfl

/-- An attempt whose tokens are accepted stores the text and the fragments. -/
theorem run_attempt_of_accepted (hn : c.input = none) {a : Attempt} (h : c.refusal? a = none) :
    ∃ fragments, c.fragmentsFrom a.source a.raw = .ok fragments ∧
      (attempt a).run c = .ok () { c with input := some (a.raw.getD ""), fragments } := by
  unfold refusal? at h
  split at h
  · next fragments hf =>
    refine ⟨fragments, hf, ?_⟩
    rw [run_attempt, setInputFrom_eq, hn, if_neg (by simp), hf]
    rfl
  · cases h

/-! ### Runs -/

/-- Once the input is set all attempts are refused. -/
theorem attempts_of_set (h : c.input.isSome = true) (all : List Attempt) :
    c.attempts all = all.map fun a ↦ (c, some (.filter (.criterion (.inputSet a.raw)))) := by
  induction all with
  | nil => rfl
  | cons a rest ih =>
    rw [attempts_cons_of_error (run_attempt_of_set h a), ih, List.map_cons]

/-- Attempts whose tokens are refused leave the criterion to those that follow. -/
theorem attempts_append (hn : c.input = none) {front : List Attempt}
    (hf : ∀ a ∈ front, c.refusal? a ≠ none) (back : List Attempt) :
    c.attempts (front ++ back) = front.map (fun a ↦ (c, c.refusal? a)) ++ c.attempts back := by
  induction front with
  | nil => rfl
  | cons a rest ih =>
    obtain ⟨e, he⟩ := Option.ne_none_iff_exists'.mp (hf a List.mem_cons_self)
    rw [List.cons_append, attempts_cons_of_error (run_attempt_of_refused hn he),
      ih fun b hb ↦ hf b (List.mem_cons_of_mem a hb), List.map_cons, he, List.cons_append]

/-- A run is refused as a whole, or up to the first attempt whose tokens are accepted. -/
theorem exists_first_accepted (c : Criterion) (all : List Attempt) :
    (∀ a ∈ all, c.refusal? a ≠ none) ∨
      ∃ front a back, all = front ++ a :: back ∧ (∀ b ∈ front, c.refusal? b ≠ none) ∧
        c.refusal? a = none := by
  cases hfind : all.find? fun a ↦ (c.refusal? a).isNone with
  | none =>
    left
    simpa using hfind
  | some a =>
    right
    obtain ⟨ha, front, back, rfl, hfront⟩ := List.find?_eq_some_iff_append.mp hfind
    refine ⟨front, a, back, rfl, fun b hb ↦ ?_, by simpa using ha⟩
    exact Option.isSome_iff_ne_none.mp (by simpa using hfront b hb)

/-- A run in which the input is set: the tokens of the attempts in front are refused, and those of
the next attempt accepted. -/
structure SetBy (c d : Criterion) (front : List Attempt) (a : Attempt) (back : List Attempt) :
    Prop where
  /-- The attempts in front are refused. -/
  refused : ∀ b ∈ front, c.refusal? b ≠ none
  /-- The text is stored as it is, and none as the empty one. -/
  input : d.input = some (a.raw.getD "")
  /-- The filter is that of the words of the text. -/
  filter : (c.fragmentsOf (a.source.toOption.getD .empty) (words (a.raw.getD ""))).map
    (Fragment.combine c.operator) = .ok d.filter
  /-- Nothing but the input and what is made of it is changed. -/
  keeps : d.kind = c.kind ∧ d.place = c.place ∧ d.operator = c.operator
  /-- The attempts in front leave the criterion as it was, those behind as it is then. -/
  run : c.attempts (front ++ a :: back) =
    front.map (fun b ↦ (c, c.refusal? b)) ++
      (d, none) :: back.map fun b ↦ (d, some (.filter (.criterion (.inputSet b.raw))))
  /-- It is the input that the attempts behind are refused for. -/
  blamed : ∀ b ∈ back, (Fault.inputSet b.raw).part = .input

/-- An attempt whose tokens are accepted sets the input, whatever attempts follow. -/
theorem exists_setBy (hn : c.input = none) {front : List Attempt} {a : Attempt}
    (hf : ∀ b ∈ front, c.refusal? b ≠ none) (ha : c.refusal? a = none) (back : List Attempt) :
    ∃ d, c.SetBy d front a back := by
  obtain ⟨fragments, hfragments, hrun⟩ := run_attempt_of_accepted hn ha
  refine ⟨{ c with input := some (a.raw.getD ""), fragments }, hf, rfl, ?_, ⟨rfl, rfl, rfl⟩, ?_,
    fun _ _ ↦ rfl⟩
  · rw [fragmentsOf_of_fragmentsFrom hfragments]
    rfl
  · rw [attempts_append hn hf, attempts_cons_of_ok hrun, attempts_of_set rfl]

/-- Whatever is attempted, the kind, the section and the operator stay. -/
theorem attempts_keep (c : Criterion) (all : List Attempt) :
    ∀ entry ∈ c.attempts all,
      entry.1.kind = c.kind ∧ entry.1.place = c.place ∧ entry.1.operator = c.operator := by
  induction all generalizing c with
  | nil => simp [attempts]
  | cons a rest ih =>
    rw [attempts, run_attempt]
    cases hs : c.setInputFrom a.source a.raw with
    | error e => exact List.forall_mem_cons.mpr ⟨⟨rfl, rfl, rfl⟩, ih c⟩
    | ok d =>
      have hd : d.kind = c.kind ∧ d.place = c.place ∧ d.operator = c.operator := by
        rw [setInputFrom_eq] at hs
        split at hs
        · cases hs
        · obtain ⟨_, -, rfl⟩ := map_eq_ok_iff.mp hs
          exact ⟨rfl, rfl, rfl⟩
      have hrest := ih d
      rw [hd.1, hd.2.1, hd.2.2] at hrest
      exact List.forall_mem_cons.mpr ⟨hd, hrest⟩

/-- In runs on a criterion that has been made, its kind, section and operator never change, and
either all attempts are refused and leave it as it was made, or one sets the input and all that
follow are refused for that. A text is refused for one of its words or for digits that cannot be
read. -/
theorem input_set_at_most_once {kind : Kind} {place : Section} {operator : Operator}
    {c : Criterion} (h : make kind place operator = .ok c) (all : List Attempt) :
    (c.input = none ∧ c.filter = "") ∧
      (∀ entry ∈ c.attempts all,
        entry.1.kind = kind ∧ entry.1.place = place ∧ entry.1.operator = operator) ∧
      ((∀ a ∈ all, c.refusal? a ≠ none) ∧
          c.attempts all = all.map (fun a ↦ (c, c.refusal? a)) ∨
        ∃ front a back d, all = front ++ a :: back ∧ c.SetBy d front a back) ∧
      ∀ a e, c.refusal? a = some e →
        (∃ fault : TokenFault, kind = .packet fault.field ∧
            ∃ token ∈ words (a.raw.getD ""), e = .filter (.token fault token)) ∨
          ∃ unread, e = .numeral unread := by
  obtain ⟨_, rfl⟩ := eq_of_make h
  refine ⟨⟨rfl, ?_⟩, attempts_keep _ all, ?_, ?_⟩
  · cases operator <;> rfl
  · rcases exists_first_accepted _ all with hall | ⟨front, a, back, rfl, hf, ha⟩
    · left
      refine ⟨hall, ?_⟩
      have hrun := attempts_append rfl hall []
      rwa [List.append_nil, attempts, List.append_nil] at hrun
    · right
      obtain ⟨d, hd⟩ := exists_setBy rfl hf ha back
      exact ⟨front, a, back, d, rfl, hd⟩
  · intro a e he
    rcases refusedFor_of_refusal? he with ⟨field, hk, token, ht, hr⟩ | hunread
    · rcases hr with ⟨fault, rfl, he⟩ | hunread
      · exact .inl ⟨fault, hk, token, ht, he⟩
      · exact .inr hunread
    · exact .inr hunread

/-- A criterion of a protocol behind one tag. -/
def protocolBehindTag : Criterion where
  kind := .packet .protocol
  place := .depth 1
  operator := .anyOf
  legal := rfl

/-- A name looked up in a file that cannot be read, one that is not in the table, one that is, and
a number. -/
def protocolAttempts : List Attempt :=
  [⟨.error (.notDecimal "²"), some "udp"⟩, ⟨.ok .empty, some "17 udp"⟩,
    ⟨.ok (Protocol.Table.empty.insert "udp" 17), some " UDP 6"⟩, ⟨.ok .empty, some "6"⟩]

/-- The first two attempts are refused, each in its way, and one of the others sets the input. -/
theorem protocolAttempts_set_once :
    make (.packet .protocol) (.depth 1) .anyOf = .ok protocolBehindTag ∧
      protocolBehindTag.attempts (protocolAttempts.take 2) =
        [(protocolBehindTag, some (.numeral (.notDecimal "²"))),
          (protocolBehindTag, some (.filter (.token .protocol "udp")))] ∧
      ∃ front a back d, protocolAttempts = front ++ a :: back ∧
        protocolBehindTag.SetBy d front a back := by
  have h : make (.packet .protocol) (.depth 1) .anyOf = .ok protocolBehindTag := rfl
  refine ⟨h, rfl, ?_⟩
  obtain ⟨-, -, hor, -⟩ := input_set_at_most_once h protocolAttempts
  apply hor.resolve_left
  rintro ⟨hall, -⟩
  have hthird : protocolBehindTag.refusal? (protocolAttempts.get ⟨2, by decide⟩) = none := rfl
  exact hall _ (List.get_mem _ _) hthird

end Criterion

end CaptureFilter
