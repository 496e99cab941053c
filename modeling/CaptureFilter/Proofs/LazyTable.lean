import CaptureFilter.Proofs.Attempts
import CaptureFilter.Usage

/-!
# Asking for the default table

Setting an input asks for the default table exactly if it comes to the name of a protocol. It then
gives what it gives with that table to hand, and leaves the table loaded.
Spec guidance: `SPEC_FULL.md` §5 and §9 (`get_protocol_table`, `set_input`).
-/

namespace CaptureFilter.Usage

open Text Protocol

variable {α β : Type}

private theorem run_ofExcept (x : Except Failure α) (d : Default) :
    (ofExcept x : EStateM Failure Default α).run d = match x with
      | .ok a => .ok a d
      | .error e => .error e d := by
  cases x <;> rfl

/-! ### The table -/

/-- A table that cannot be had leaves everything as it was. -/
theorem consulted_of_error {d : Default} {e : Numeral.Error} (h : d.source = .error e) :
    d.consulted = d := by
  rw [Default.consulted, h]

/-- A table that can be had is loaded. -/
theorem consulted_of_ok {d : Default} {t : Table} (h : d.source = .ok t) :
    d.consulted = { d with loaded := some t } := by
  rw [Default.consulted, h]

/-- Asking for the table again changes nothing more. -/
theorem consulted_consulted (d : Default) : d.consulted.consulted = d.consulted := by
  cases h : d.source with
  | error e => rw [consulted_of_error h, consulted_of_error h]
  | ok t =>
    rw [consulted_of_ok (d.source_consulted.trans h), consulted_of_ok h]

/-- Asking for the table gives the one there is, and keeps it. -/
theorem run_table (d : Default) :
    table.run d = match d.source with
      | .ok t => .ok t d.consulted
      | .error e => .error (.numeral e) d := by
  cases hl : d.loaded with
  | some t =>
    have hs : d.source = .ok t := by rw [Default.source, hl]
    have hd : { d with loaded := some t } = d := by rw [← hl]
    rw [hs, consulted_of_ok hs, hd, table, EStateM.run_bind, EStateM.run_get]
    dsimp only
    rw [hl]
    rfl
  | none =>
    have hs : d.source = Source.ofFile d.file := by rw [Default.source, hl]
    rw [table, EStateM.run_bind, EStateM.run_get]
    dsimp only
    rw [hl]
    dsimp only
    rw [EStateM.run_bind, run_ofExcept, hs]
    cases h : Source.ofFile d.file with
    | error e => rfl
    | ok t =>
      rw [consulted_of_ok (hs.trans h)]
      rfl

/-! ### Fragments -/

private theorem run_mapM_ofExcept (f : α → Except Failure β) (l : List α) (d : Default) :
    (l.mapM fun a ↦ (ofExcept (f a) : EStateM Failure Default β)).run d =
      (ofExcept (l.mapM f) : EStateM Failure Default (List β)).run d := by
  induction l with
  | nil => rfl
  | cons a rest ih =>
    rw [List.mapM_cons, List.mapM_cons, EStateM.run_bind, run_ofExcept, run_ofExcept]
    cases f a with
    | error e => rfl
    | ok b =>
      dsimp only
      rw [EStateM.run_bind, ih, run_ofExcept]
      cases rest.mapM f <;> rfl

private theorem run_fragment_of_ne {field : PacketField} (h : field ≠ .protocol) (depth : Fin 10) :
    fragment depth field = fun token ↦ ofExcept (Fragment.ofToken .empty depth field token) := by
  funext token
  unfold fragment
  split
  · exact absurd rfl h
  · rfl

private theorem fragment_of_not_name {token : String}
    (h : Fragment.ProtocolToken.of token ≠ .name) (depth : Fin 10) (t : Table) :
    fragment depth .protocol token = ofExcept (Fragment.ofProtocol t token) := by
  rw [Fragment.ofProtocol_congr h t .empty]
  unfold fragment
  split
  · next hn => exact absurd hn h
  · rfl

private theorem fragment_of_name {token : String}
    (h : Fragment.ProtocolToken.of token = .name) (depth : Fin 10) :
    fragment depth .protocol token =
      table >>= fun t ↦ ofExcept (Fragment.ofProtocol t token) := by
  unfold fragment
  rw [h]

/-- The fragments of protocol tokens are those that a table gives which is there if a name is looked
up. It is loaded then. -/
theorem run_protocolFragments {tokens : List String} {d : Default} {t : Table}
    (h : Fragment.consults tokens = true → d.source = .ok t) (depth : Fin 10) :
    (tokens.mapM (fragment depth .protocol)).run d =
      (ofExcept (tokens.mapM (Fragment.ofProtocol t)) :
        EStateM Failure Default (List Fragment)).run
        (if Fragment.consults tokens then d.consulted else d) := by
  induction tokens generalizing d with
  | nil => rfl
  | cons token rest ih =>
    rw [List.mapM_cons, List.mapM_cons, EStateM.run_bind]
    by_cases hname : Fragment.ProtocolToken.of token = .name
    · have hs : d.source = .ok t := h (Fragment.consults_cons_of_name hname rest)
      have hcs : d.consulted.source = .ok t := d.source_consulted.trans hs
      -- the table is loaded now, so that the rest of the tokens does not change it
      have hrest := ih (d := d.consulted) fun _ ↦ hcs
      rw [consulted_consulted, ite_self] at hrest
      rw [fragment_of_name hname, EStateM.run_bind, run_table, hs,
        Fragment.consults_cons_of_name hname, if_pos rfl]
      dsimp only
      rw [run_ofExcept]
      cases Fragment.ofProtocol t token with
      | error e => rfl
      | ok fragment =>
        dsimp only
        rw [EStateM.run_bind, hrest, run_ofExcept]
        cases rest.mapM (Fragment.ofProtocol t) <;> rfl
    · rw [Fragment.consults_cons_of_ne hname t] at h ⊢
      rw [fragment_of_not_name hname depth t, run_ofExcept]
      cases hf : Fragment.ofProtocol t token with
      | error e => rfl
      | ok fragment =>
        rw [hf] at h
        dsimp only
        rw [EStateM.run_bind, ih h, run_ofExcept]
        cases rest.mapM (Fragment.ofProtocol t) <;> rfl

/-- Where a name is looked up and there is no table, nothing else happens. -/
theorem run_protocolFragments_of_error {tokens : List String} {d : Default} {e : Numeral.Error}
    (h : Fragment.consults tokens = true) (hs : d.source = .error e) (depth : Fin 10) :
    (tokens.mapM (fragment depth .protocol)).run d = .error (.numeral e) d := by
  induction tokens with
  | nil => cases h
  | cons token rest ih =>
    rw [List.mapM_cons, EStateM.run_bind]
    by_cases hname : Fragment.ProtocolToken.of token = .name
    · rw [fragment_of_name hname, EStateM.run_bind, run_table, hs]
    · rw [Fragment.consults_cons_of_ne hname .empty, Bool.and_eq_true] at h
      rw [fragment_of_not_name hname depth .empty, run_ofExcept]
      cases hf : Fragment.ofProtocol .empty token with
      | error e => simp [hf, Except.isOk, Except.toBool] at h
      | ok fragment =>
        dsimp only
        rw [EStateM.run_bind, ih h.2]

/-! ### Inputs -/

private theorem consults_eq_true_iff {c : Criterion} (hn : c.input = none) {raw : Option String} :
    c.consults raw = true ↔
      c.kind = .packet .protocol ∧ Fragment.consults (words (raw.getD "")) = true := by
  rw [Criterion.consults, hn, Option.isNone_none, Bool.true_and, Bool.and_eq_true, beq_iff_eq]

private theorem run_fragments_of_ne {c : Criterion} (h : c.kind ≠ .packet .protocol)
    (tokens : List String) (d : Default) (t : Table) :
    (fragments c tokens).run d =
      (ofExcept (c.fragmentsOf t tokens) : EStateM Failure Default (List Fragment)).run d := by
  unfold fragments Criterion.fragmentsOf
  cases hk : c.kind with
  | packet field =>
    cases c.place with
    | depth depth =>
      have hf : field ≠ .protocol := by
        rintro rfl
        exact h hk
      dsimp only
      rw [run_fragment_of_ne hf, run_mapM_ofExcept]
      cases field with
      | protocol => exact absurd rfl hf
      | _ => rfl
    | preset => rfl
  | _ => rfl

private theorem run_setInput_of_run {c : Criterion} (hn : c.input = none) {raw : Option String}
    {d next : Default} {t : Table}
    (h : (fragments c (words (raw.getD ""))).run d =
      (ofExcept (c.fragmentsOf t (words (raw.getD ""))) :
        EStateM Failure Default (List Fragment)).run next) :
    (setInput c raw).run d =
      (ofExcept (c.setInput t raw) : EStateM Failure Default Criterion).run next := by
  rw [setInput, Criterion.setInput, hn]
  simp only [Option.isSome_none, Bool.false_eq_true, if_false]
  rw [EStateM.run_bind, h, run_ofExcept]
  cases c.fragmentsOf t (words (raw.getD "")) <;> rfl

private theorem run_setInput_of_set {c : Criterion} (hi : c.input.isSome = true)
    (raw : Option String) (d : Default) (t : Table) :
    (setInput c raw).run d =
      (ofExcept (c.setInput t raw) : EStateM Failure Default Criterion).run d := by
  rw [setInput, Criterion.setInput, if_pos hi, if_pos hi]
  rfl

/-- Setting an input gives what it gives with a table which is there if a name is looked up. That
table is loaded then. -/
theorem run_setInput {c : Criterion} {raw : Option String} {d : Default} {t : Table}
    (h : c.consults raw = true → d.source = .ok t) :
    (setInput c raw).run d =
      (ofExcept (c.setInput t raw) : EStateM Failure Default Criterion).run
        (if c.consults raw then d.consulted else d) := by
  cases hi : c.input with
  | some text =>
    have hc : c.consults raw = false := by rw [Criterion.consults, hi]; rfl
    rw [hc, if_neg Bool.false_ne_true]
    exact run_setInput_of_set (by rw [hi]; rfl) raw d t
  | none =>
    apply run_setInput_of_run hi
    by_cases hk : c.kind = .packet .protocol
    · obtain ⟨depth, hp⟩ := Criterion.exists_depth_of_packet hk
      have hc : c.consults raw = Fragment.consults (words (raw.getD "")) := by
        rw [Criterion.consults, hi, hk]
        rfl
      rw [hc] at h ⊢
      rw [fragments, Criterion.fragmentsOf, hk, hp]
      exact run_protocolFragments h depth
    · have hc : ¬ c.consults raw = true := fun hc ↦ hk ((consults_eq_true_iff hi).mp hc).1
      rw [if_neg hc]
      exact run_fragments_of_ne hk _ d t

/-- Where a name is looked up and there is no table, no input is set. -/
theorem run_setInput_of_error {c : Criterion} {raw : Option String} {d : Default}
    {e : Numeral.Error} (h : c.consults raw = true) (hs : d.source = .error e) :
    (setInput c raw).run d = .error (.numeral e) d := by
  have hi : c.input = none := by
    rw [Criterion.consults, Bool.and_eq_true, Bool.and_eq_true, Option.isNone_iff_eq_none] at h
    exact h.1.1
  obtain ⟨hk, ht⟩ := (consults_eq_true_iff hi).mp h
  obtain ⟨depth, hp⟩ := Criterion.exists_depth_of_packet hk
  have hrun : (fragments c (words (raw.getD ""))).run d = .error (.numeral e) d := by
    rw [fragments, hk, hp]
    exact run_protocolFragments_of_error ht hs depth
  rw [setInput, hi]
  simp only [Option.isSome_none, Bool.false_eq_true, if_false]
  rw [EStateM.run_bind, hrun]

end CaptureFilter.Usage
