import CaptureFilter.Proofs.LazyTable
import Mathlib.Data.List.Induction

/-!
# The lifetime of the default table

Whatever is done with the default table and its file, the table is the one that the file made when a
table was first needed and could be made, and it stays that one until it is forgotten. What does not
need a table neither loads it nor depends on it.
Spec guidance: `SPEC_FULL.md` §5 and §9 (`get_protocol_table`, `lookup_protocol`).
-/

namespace CaptureFilter.Usage

open Text Protocol

/-! ### What needs the table -/

/-- A protocol token that no table is needed for: it has a fragment of its own or is a number. -/
def Known (word : String) : Prop :=
  (Fragment.namedProtocol? (lower word)).isSome = true ∨ isNumber word.toList = true

/-- The steps that need the table. Setting an input does if it comes to a token that is not known,
behind tokens that are accepted whatever the table. -/
inductive Needs : Step → Prop where
  /-- A name is looked up. -/
  | lookup (name : String) : Needs (.lookup name)
  /-- The names are counted. -/
  | size : Needs .size
  /-- The input of a protocol criterion is set, and a token is a name. -/
  | setInput {c : Criterion} {raw : Option String} {before after : List String} {name : String}
    (hi : c.input = none) (hk : c.kind = .packet .protocol)
    (hw : words (raw.getD "") = before ++ name :: after)
    (hb : ∀ word ∈ before, ∃ fragment, ∀ t, Fragment.ofProtocol t word = .ok fragment)
    (hn : ¬ Known name) : Needs (.setInput c raw)

/-- The inputs that are set, or refused, without a table. -/
inductive Spared (c : Criterion) (raw : Option String) : Prop where
  /-- The input has been set before. -/
  | set (h : c.input.isSome = true)
  /-- The criterion is not on protocols. -/
  | kind (h : c.kind ≠ .packet .protocol)
  /-- All tokens are known. -/
  | known (h : ∀ word ∈ words (raw.getD ""), Known word)
  /-- A known token is refused, and so are all that come before it known. -/
  | refused {before after : List String} {word : String}
    (hw : words (raw.getD "") = before ++ word :: after) (hb : ∀ other ∈ before, Known other)
    (hk : Known word) (hr : ∀ t, ∃ e, Fragment.ofProtocol t word = .error e)

/-- Exactly the tokens that are not known are names to be looked up. -/
theorem of_eq_name_iff {word : String} :
    Fragment.ProtocolToken.of word = .name ↔ ¬ Known word := by
  rw [Fragment.ProtocolToken.of, Known]
  cases Fragment.namedProtocol? (lower word) with
  | some fragment => simp
  | none => cases isNumber word.toList <;> simp

private theorem of_ne_name {word : String} (h : Known word) :
    Fragment.ProtocolToken.of word ≠ .name := fun hn ↦ of_eq_name_iff.mp hn h

private theorem isOk_iff {α : Type} {x : Except Failure α} : x.isOk = true ↔ ∃ a, x = .ok a := by
  cases x <;> simp [Except.isOk, Except.toBool]

private theorem consults_cons_iff {word : String} (h : Known word) (rest : List String) :
    Fragment.consults (word :: rest) = true ↔
      (∃ fragment, ∀ t, Fragment.ofProtocol t word = .ok fragment) ∧
        Fragment.consults rest = true := by
  rw [Fragment.consults_cons_of_ne (of_ne_name h) .empty, Bool.and_eq_true, isOk_iff]
  refine and_congr_left' (exists_congr fun fragment ↦ ⟨fun he t ↦ ?_, fun ht ↦ ht .empty⟩)
  rw [Fragment.ofProtocol_congr (of_ne_name h) t .empty, he]

private theorem consults_iff {tokens : List String} :
    Fragment.consults tokens = true ↔ ∃ before name after, tokens = before ++ name :: after ∧
      (∀ word ∈ before, ∃ fragment, ∀ t, Fragment.ofProtocol t word = .ok fragment) ∧
      ¬ Known name := by
  induction tokens with
  | nil => simp [Fragment.consults]
  | cons token rest ih =>
    by_cases hk : Known token
    · rw [consults_cons_iff hk, ih]
      constructor
      · rintro ⟨ht, before, name, after, rfl, hb, hn⟩
        refine ⟨token :: before, name, after, rfl, ?_, hn⟩
        rw [List.forall_mem_cons]
        exact ⟨ht, hb⟩
      · rintro ⟨before, name, after, he, hb, hn⟩
        cases before with
        | nil =>
          obtain ⟨rfl, -⟩ := List.cons.inj he
          exact absurd hk hn
        | cons first before =>
          obtain ⟨rfl, rfl⟩ := List.cons.inj he
          rw [List.forall_mem_cons] at hb
          exact ⟨hb.1, before, name, after, rfl, hb.2, hn⟩
    · rw [Fragment.consults_cons_of_name (of_eq_name_iff.mpr hk)]
      exact iff_of_true rfl ⟨[], token, rest, rfl, by simp, hk⟩

private theorem not_consults_iff {tokens : List String} :
    ¬ Fragment.consults tokens = true ↔ (∀ word ∈ tokens, Known word) ∨
      ∃ before word after, tokens = before ++ word :: after ∧ (∀ other ∈ before, Known other) ∧
        Known word ∧ ∀ t, ∃ e, Fragment.ofProtocol t word = .error e := by
  induction tokens with
  | nil => simp [Fragment.consults]
  | cons token rest ih =>
    by_cases hk : Known token
    · cases hf : Fragment.ofProtocol .empty token with
      | error e =>
        have hr (t : Table) : Fragment.ofProtocol t token = .error e := by
          rw [Fragment.ofProtocol_congr (of_ne_name hk) t .empty, hf]
        refine iff_of_true ?_ (.inr ⟨[], token, rest, rfl, by simp, hk, fun t ↦ ⟨e, hr t⟩⟩)
        rw [consults_cons_iff hk]
        rintro ⟨⟨fragment, ha⟩, -⟩
        rw [ha .empty] at hf
        cases hf
      | ok fragment =>
        have ha (t : Table) : Fragment.ofProtocol t token = .ok fragment := by
          rw [Fragment.ofProtocol_congr (of_ne_name hk) t .empty, hf]
        rw [consults_cons_iff hk, and_iff_right ⟨fragment, ha⟩, ih, List.forall_mem_cons,
          and_iff_right hk]
        refine or_congr_right ⟨?_, ?_⟩
        · rintro ⟨before, word, after, rfl, hb, hw⟩
          exact ⟨token :: before, word, after, rfl, List.forall_mem_cons.mpr ⟨hk, hb⟩, hw⟩
        · rintro ⟨before, word, after, he, hb, hword, hr⟩
          cases before with
          | nil =>
            obtain ⟨rfl, -⟩ := List.cons.inj he
            obtain ⟨e, hr⟩ := hr .empty
            rw [hf] at hr
            cases hr
          | cons first before =>
            obtain ⟨rfl, rfl⟩ := List.cons.inj he
            exact ⟨before, word, after, rfl, (List.forall_mem_cons.mp hb).2, hword, hr⟩
    · rw [Fragment.consults_cons_of_name (of_eq_name_iff.mpr hk)]
      refine iff_of_false (not_not_intro rfl) ?_
      rintro (h | ⟨before, word, after, he, hb, hword, -⟩)
      · exact hk (h token List.mem_cons_self)
      · cases before with
        | nil =>
          obtain ⟨rfl, -⟩ := List.cons.inj he
          exact hk hword
        | cons first before =>
          obtain ⟨rfl, rfl⟩ := List.cons.inj he
          exact hk (hb token List.mem_cons_self)

/-- Setting an input needs the table exactly if it has a name looked up. -/
theorem needs_setInput_iff {c : Criterion} {raw : Option String} :
    Needs (.setInput c raw) ↔ c.consults raw = true := by
  rw [Criterion.consults, Bool.and_eq_true, Bool.and_eq_true, Option.isNone_iff_eq_none, beq_iff_eq,
    consults_iff]
  constructor
  · intro h
    cases h with
    | setInput hi hk hw hb hn => exact ⟨⟨hi, hk⟩, _, _, _, hw, hb, hn⟩
  · rintro ⟨⟨hi, hk⟩, _, _, _, hw, hb, hn⟩
    exact .setInput hi hk hw hb hn

/-- An input is spared exactly if setting it does not need the table. -/
theorem spared_iff {c : Criterion} {raw : Option String} :
    Spared c raw ↔ ¬ Needs (.setInput c raw) := by
  rw [needs_setInput_iff, Criterion.consults, Bool.and_eq_true, Bool.and_eq_true,
    Option.isNone_iff_eq_none, beq_iff_eq]
  constructor
  · rintro hs ⟨⟨hi, hk⟩, ht⟩
    cases hs with
    | set h => simp [hi] at h
    | kind h => exact h hk
    | known h => exact not_consults_iff.mpr (.inl h) ht
    | refused hw hb hword hr => exact not_consults_iff.mpr (.inr ⟨_, _, _, hw, hb, hword, hr⟩) ht
  · intro h
    cases hi : c.input with
    | some text => exact .set (by rw [hi]; rfl)
    | none =>
      by_cases hk : c.kind = .packet .protocol
      · obtain hknown | ⟨_, _, _, hw, hb, hword, hr⟩ :=
          not_consults_iff.mp fun ht ↦ h ⟨⟨hi, hk⟩, ht⟩
        · exact .known hknown
        · exact .refused hw hb hword hr
      · exact .kind hk

/-! ### Single steps -/

/-- The answer of a step with a table to hand. -/
def Step.answerWith (t : Table) : Step → Except Failure Outcome
  | .replace _ | .forget => .ok .done
  | .lookup name => .ok (.number (t.lookup name))
  | .size => .ok (.size t.size)
  | .setInput c raw => (c.setInput t raw).map .criterion

/-- The file after a step. -/
def Step.fileAfter (file : Option (List UInt8)) : Step → Option (List UInt8)
  | .replace new => new
  | _ => file

private theorem run_setInput_step {c : Criterion} {raw : Option String} {d next : Default}
    {x : Except Failure Criterion}
    (h : (setInput c raw).run d = (ofExcept x : EStateM Failure Default Criterion).run next) :
    (Step.setInput c raw).run d = (x.map .criterion, next) := by
  unfold Step.run Step.perform
  rw [EStateM.run_bind, h]
  cases x <;> rfl

/-- A step that needs the table answers from the one there is, and leaves it loaded. -/
theorem run_of_needs {s : Step} (hs : Needs s) {d : Default} {t : Table} (h : d.source = .ok t) :
    s.run d = (s.answerWith t, { d with loaded := some t }) := by
  rw [← consulted_of_ok h]
  cases s with
  | replace file => cases hs
  | forget => cases hs
  | lookup name =>
    unfold Step.run Step.perform
    rw [EStateM.run_bind, run_table, h]
    rfl
  | size =>
    unfold Step.run Step.perform
    rw [EStateM.run_bind, run_table, h]
    rfl
  | setInput c raw =>
    have hrun := @run_setInput c raw d t fun _ ↦ h
    rw [if_pos (needs_setInput_iff.mp hs)] at hrun
    exact run_setInput_step hrun

/-- A step that needs a table fails where there is none, and changes nothing. -/
theorem run_of_needs_of_error {s : Step} (hs : Needs s) {d : Default} {e : Numeral.Error}
    (h : d.source = .error e) : s.run d = (.error (.numeral e), d) := by
  cases s with
  | replace file => cases hs
  | forget => cases hs
  | lookup name =>
    unfold Step.run Step.perform
    rw [EStateM.run_bind, run_table, h]
  | size =>
    unfold Step.run Step.perform
    rw [EStateM.run_bind, run_table, h]
  | setInput c raw =>
    unfold Step.run Step.perform
    rw [EStateM.run_bind, run_setInput_of_error (needs_setInput_iff.mp hs) h]

/-- A step that does not need the table answers as with any table, and leaves it alone unless it
forgets it. -/
theorem run_of_not_needs {s : Step} (hs : ¬ Needs s) (hf : s ≠ .forget) (d : Default) (t : Table) :
    s.run d = (s.answerWith t, ⟨s.fileAfter d.file, d.loaded⟩) := by
  cases s with
  | replace file => rfl
  | forget => exact absurd rfl hf
  | lookup name => exact absurd (.lookup name) hs
  | size => exact absurd .size hs
  | setInput c raw =>
    have hc : ¬ c.consults raw = true := fun hc ↦ hs (needs_setInput_iff.mpr hc)
    have hrun := @run_setInput c raw d t fun h ↦ absurd h hc
    rw [if_neg hc] at hrun
    exact run_setInput_step hrun

/-- A step that forgets nothing answers from the table that is loaded, and leaves it loaded. -/
theorem run_of_loaded {s : Step} (hf : s ≠ .forget) {d : Default} {t : Table}
    (h : d.loaded = some t) : s.run d = (s.answerWith t, ⟨s.fileAfter d.file, some t⟩) := by
  by_cases hs : Needs s
  · have hsource : d.source = .ok t := by rw [Default.source, h]
    rw [run_of_needs hs hsource]
    cases hs <;> rfl
  · rw [run_of_not_needs hs hf d t, h]

/-- What becomes of the file does not depend on the table. -/
theorem file_run (s : Step) (d : Default) : (s.run d).2.file = s.fileAfter d.file := by
  by_cases hs : Needs s
  · have hfile : s.fileAfter d.file = d.file := by cases hs <;> rfl
    rw [hfile]
    cases h : d.source with
    | ok t => rw [run_of_needs hs h]
    | error e => rw [run_of_needs_of_error hs h]
  · by_cases hf : s = .forget
    · rw [hf]
      rfl
    · rw [run_of_not_needs hs hf d .empty]

/-! ### Histories -/

/-- The file after steps. -/
def fileAfter (file : Option (List UInt8)) (history : List Step) : Option (List UInt8) :=
  history.foldl (fun file s ↦ s.fileAfter file) file

/-- A table was needed right after a beginning of a history, and has not been forgotten since. -/
def NeededAfter (front history : List Step) : Prop :=
  ∃ s back, history = front ++ s :: back ∧ Needs s ∧ Step.forget ∉ back

/-- The table that a history has loaded: the file made it when a table was needed, and it made none
whenever a table was needed before, back to where the table was forgotten last. -/
def LoadedFrom (file : Option (List UInt8)) (history : List Step) (t : Table) : Prop :=
  ∃ front, NeededAfter front history ∧ Source.ofFile (fileAfter file front) = .ok t ∧
    ∀ earlier, NeededAfter earlier front → ∃ e, Source.ofFile (fileAfter file earlier) = .error e

/-- One step more is taken last. -/
theorem after_snoc (d : Default) (history : List Step) (s : Step) :
    after d (history ++ [s]) = (s.run (after d history)).2 := by
  simp [after]

/-- The file is as if there were no table. -/
theorem file_after (d : Default) (history : List Step) :
    (after d history).file = fileAfter d.file history := by
  induction history generalizing d with
  | nil => rfl
  | cons s rest ih =>
    change (after (s.run d).2 rest).file = fileAfter (s.fileAfter d.file) rest
    rw [ih, file_run]

/-- A last step may be a need of its own; it leaves the earlier ones unless it forgets. -/
theorem neededAfter_snoc {front history : List Step} {s : Step} :
    NeededAfter front (history ++ [s]) ↔
      front = history ∧ Needs s ∨ NeededAfter front history ∧ s ≠ .forget := by
  constructor
  · rintro ⟨last, back, he, hl, hb⟩
    rcases List.eq_nil_or_concat back with rfl | ⟨back, x, rfl⟩
    · obtain ⟨rfl, hs⟩ := List.append_inj' he rfl
      cases hs
      exact .inl ⟨rfl, hl⟩
    · rw [List.concat_eq_append, ← List.cons_append, ← List.append_assoc] at he
      obtain ⟨rfl, hs⟩ := List.append_inj' he rfl
      cases hs
      rw [List.concat_eq_append, List.mem_append, not_or] at hb
      exact .inr ⟨⟨last, back, rfl, hl, hb.1⟩, fun hf ↦ hb.2 (by simp [hf])⟩
  · rintro (⟨rfl, hs⟩ | ⟨⟨last, back, rfl, hl, hb⟩, hs⟩)
    · exact ⟨s, [], rfl, hs, by simp⟩
    · refine ⟨last, back ++ [s], by simp, hl, ?_⟩
      rw [List.mem_append, not_or]
      exact ⟨hb, by simpa using hs.symm⟩

/-- What was needed before a need was needed before what follows it. -/
theorem NeededAfter.trans {earlier front history : List Step} (he : NeededAfter earlier front)
    (h : NeededAfter front history) : NeededAfter earlier history := by
  obtain ⟨s, back, rfl, hs, hb⟩ := he
  obtain ⟨last, after, rfl, hl, ha⟩ := h
  refine ⟨s, back ++ last :: after, by simp, hs, ?_⟩
  rw [List.mem_append, List.mem_cons, not_or, not_or]
  refine ⟨hb, ?_, ha⟩
  rintro rfl
  cases hl

/-- A beginning at whose end a table is needed leaves something out. -/
theorem NeededAfter.length_lt {front history : List Step} (h : NeededAfter front history) :
    front.length < history.length := by
  obtain ⟨s, back, rfl, -⟩ := h
  simp

/-- Where the file made a table when one was needed, a table has been loaded. -/
theorem exists_loadedFrom {file : Option (List UInt8)} {history front : List Step}
    (h : NeededAfter front history) {t : Table}
    (ht : Source.ofFile (fileAfter file front) = .ok t) :
    ∃ u, LoadedFrom file history u := by
  -- the shortest such beginning is the one that the table is loaded from
  induction hn : front.length using Nat.strongRecOn generalizing front t with
  | ind n ih =>
    by_cases hall : ∀ earlier, NeededAfter earlier front →
        ∃ e, Source.ofFile (fileAfter file earlier) = .error e
    · exact ⟨t, front, h, ht, hall⟩
    · obtain ⟨earlier, hearlier⟩ := Classical.not_forall.mp hall
      obtain ⟨hneeded, hmade⟩ := Classical.not_imp.mp hearlier
      cases hu : Source.ofFile (fileAfter file earlier) with
      | error e => exact absurd ⟨e, hu⟩ hmade
      | ok u => exact ih earlier.length (hn ▸ hneeded.length_lt) (hneeded.trans h) hu rfl

/-- A step loads a table if it needs one that the file makes and none has been loaded; it keeps the
table that has been loaded unless it forgets it. -/
theorem loadedFrom_snoc {file : Option (List UInt8)} {history : List Step} {s : Step} {t : Table} :
    LoadedFrom file (history ++ [s]) t ↔
      LoadedFrom file history t ∧ s ≠ .forget ∨
        Needs s ∧ Source.ofFile (fileAfter file history) = .ok t ∧
          ∀ u, ¬ LoadedFrom file history u := by
  constructor
  · rintro ⟨front, hneeded, ht, hearlier⟩
    rcases neededAfter_snoc.mp hneeded with ⟨rfl, hs⟩ | ⟨hneeded, hs⟩
    · refine .inr ⟨hs, ht, ?_⟩
      rintro u ⟨front', hneeded', hu, -⟩
      obtain ⟨e, he⟩ := hearlier front' hneeded'
      rw [he] at hu
      cases hu
    · exact .inl ⟨⟨front, hneeded, ht, hearlier⟩, hs⟩
  · rintro (⟨⟨front, hneeded, ht, hearlier⟩, hs⟩ | ⟨hs, ht, hno⟩)
    · exact ⟨front, neededAfter_snoc.mpr (.inr ⟨hneeded, hs⟩), ht, hearlier⟩
    · refine ⟨history, neededAfter_snoc.mpr (.inl ⟨rfl, hs⟩), ht, fun earlier hneeded ↦ ?_⟩
      cases he : Source.ofFile (fileAfter file earlier) with
      | error e => exact ⟨e, rfl⟩
      | ok u =>
        obtain ⟨v, hv⟩ := exists_loadedFrom hneeded he
        exact absurd hv (hno v)

/-- What is loaded after a history is what the history has loaded. -/
theorem loaded_after_iff {file : Option (List UInt8)} {history : List Step} {t : Table} :
    (after ⟨file, none⟩ history).loaded = some t ↔ LoadedFrom file history t := by
  induction history using List.reverseRecOn generalizing t with
  | nil =>
    refine iff_of_false nofun ?_
    rintro ⟨front, ⟨s, back, he, -⟩, -⟩
    exact absurd he (by simp)
  | append_singleton history s ih =>
    have hfile : (after ⟨file, none⟩ history).file = fileAfter file history := file_after _ _
    rw [after_snoc, loadedFrom_snoc]
    by_cases hf : s = .forget
    · subst hf
      refine iff_of_false nofun ?_
      rintro (⟨-, hf⟩ | ⟨hs, -⟩)
      · exact hf rfl
      · cases hs
    · cases hl : (after ⟨file, none⟩ history).loaded with
      | some u =>
        have hu : LoadedFrom file history u := ih.mp hl
        rw [run_of_loaded hf hl, ← ih, hl]
        refine ⟨fun h ↦ .inl ⟨h, hf⟩, ?_⟩
        rintro (⟨h, -⟩ | ⟨-, -, hno⟩)
        · exact h
        · exact absurd hu (hno u)
      | none =>
        have hno (u : Table) : ¬ LoadedFrom file history u := by
          rw [← ih, hl]
          nofun
        have hsource : (after ⟨file, none⟩ history).source =
            Source.ofFile (fileAfter file history) := by
          rw [Default.source, hl, hfile]
        rw [or_iff_right fun h ↦ hno t h.1]
        by_cases hs : Needs s
        · rw [and_iff_right hs, and_iff_left hno, ← hsource]
          cases h : (after ⟨file, none⟩ history).source with
          | ok u =>
            rw [run_of_needs hs h]
            simp
          | error e =>
            rw [run_of_needs_of_error hs h, hl]
            simp
        · rw [run_of_not_needs hs hf _ .empty, hl]
          exact iff_of_false nofun fun h ↦ hs h.1

/-! ### Lifetimes -/

/-- From a table that is loaded come all answers of steps that do not forget it. -/
theorem answers_of_loaded {steps : List Step} (hf : .forget ∉ steps) {d : Default} {t : Table}
    (h : d.loaded = some t) :
    answers d steps = steps.map (·.answerWith t) ∧ (after d steps).loaded = some t := by
  induction steps generalizing d with
  | nil => exact ⟨rfl, h⟩
  | cons s rest ih =>
    rw [List.mem_cons, not_or] at hf
    have hs := run_of_loaded (Ne.symm hf.1) h
    have hrest := ih hf.2 (d := (s.run d).2) (by rw [hs])
    refine ⟨?_, hrest.2⟩
    rw [answers, List.map_cons, hrest.1, hs]

/-- After a history that began without a table, all answers that need one come from the table of the
first successful load since it was last forgotten. -/
structure AnswersFromFirstLoad (file : Option (List UInt8)) (history : List Step) : Prop where
  /-- The table is the one that the history has loaded. -/
  loaded : ∀ t, (after ⟨file, none⟩ history).loaded = some t ↔ LoadedFrom file history t
  /-- Once a table has been loaded, all answers come from it until it is forgotten, whatever becomes
  of the file. -/
  kept : ∀ t, LoadedFrom file history t → ∀ later, .forget ∉ later →
    answers (after ⟨file, none⟩ history) later = later.map (·.answerWith t) ∧
      LoadedFrom file (history ++ later) t
  /-- While none has been loaded, a step that needs one answers from what the file makes by then,
  which is loaded. -/
  first : (∀ u, ¬ LoadedFrom file history u) → ∀ s t, Needs s →
    Source.ofFile (fileAfter file history) = .ok t →
      (s.run (after ⟨file, none⟩ history)).1 = s.answerWith t ∧ LoadedFrom file (history ++ [s]) t
  /-- If the file makes none the step fails for this reason, and no table is loaded. -/
  failed : (∀ u, ¬ LoadedFrom file history u) → ∀ s e, Needs s →
    Source.ofFile (fileAfter file history) = .error e →
      (s.run (after ⟨file, none⟩ history)).1 = .error (.numeral e) ∧
        ∀ u, ¬ LoadedFrom file (history ++ [s]) u
  /-- A step that does not need the table answers as with any, and loads none. -/
  unneeded : ∀ s, ¬ Needs s → s ≠ .forget →
    (∀ t, (s.run (after ⟨file, none⟩ history)).1 = s.answerWith t) ∧
      ∀ u, LoadedFrom file (history ++ [s]) u ↔ LoadedFrom file history u

/-- Between two times that it is forgotten, the default table is the one that the file makes at the
first need of a table at which it makes one; no input whose tokens are known or refused before a
name is looked up needs it, and no input of another criterion. -/
theorem answers_from_first_load (file : Option (List UInt8)) (history : List Step) :
    AnswersFromFirstLoad file history ∧ ∀ c raw, Spared c raw ↔ ¬ Needs (.setInput c raw) := by
  have hfile : (after ⟨file, none⟩ history).file = fileAfter file history := file_after _ _
  have hsource (hno : ∀ u, ¬ LoadedFrom file history u) :
      (after ⟨file, none⟩ history).source = Source.ofFile (fileAfter file history) := by
    have hl : (after ⟨file, none⟩ history).loaded = none := by
      rw [Option.eq_none_iff_forall_ne_some]
      exact fun u hu ↦ hno u (loaded_after_iff.mp hu)
    rw [Default.source, hl, hfile]
  refine ⟨⟨fun t ↦ loaded_after_iff, fun t ht later hf ↦ ?_, fun hno s t hs ht ↦ ?_,
    fun hno s e hs he ↦ ?_, fun s hs hf ↦ ⟨fun t ↦ ?_, fun u ↦ ?_⟩⟩, fun c raw ↦ spared_iff⟩
  · obtain ⟨hanswers, hloaded⟩ := answers_of_loaded hf (loaded_after_iff.mpr ht)
    refine ⟨hanswers, loaded_after_iff.mp ?_⟩
    rw [← hloaded, after, List.foldl_append]
    rfl
  · rw [run_of_needs hs ((hsource hno).trans ht)]
    exact ⟨rfl, loadedFrom_snoc.mpr (.inr ⟨hs, ht, hno⟩)⟩
  · rw [run_of_needs_of_error hs ((hsource hno).trans he)]
    refine ⟨rfl, fun u hu ↦ ?_⟩
    rcases loadedFrom_snoc.mp hu with ⟨hu, -⟩ | ⟨-, hu, -⟩
    · exact hno u hu
    · rw [he] at hu
      cases hu
  · rw [run_of_not_needs hs hf _ t]
  · rw [loadedFrom_snoc, and_iff_left hf]
    exact or_iff_left fun h ↦ hs h.1

/-- A file whose only number is a superscript digit. -/
def brokenFile : List UInt8 := [0x70, 0x69, 0x6D, 0x20, 0xC2, 0xB2]

/-- A file that enters one name. -/
def pimFile : List UInt8 := [0x70, 0x69, 0x6D, 0x20, 0x31, 0x30, 0x33]

/-- A name is looked up, the file is rewritten, and the names are counted. -/
def mending : List Step := [.lookup "pim", .replace (some pimFile), .size]

/-- With a broken file at first the table is that of the rewritten file, and it stays that one when
the file is deleted. -/
theorem mending_answers_from_first_load :
    LoadedFrom (some brokenFile) mending (Table.empty.insert "pim" 103) ∧
      answers (after ⟨some brokenFile, none⟩ mending) [.replace none, .lookup "PIM"] =
        [.ok .done, .ok (.number (some 103))] := by
  have hfrom := (answers_from_first_load (some brokenFile) mending).1
  have hloaded : LoadedFrom (some brokenFile) mending (Table.empty.insert "pim" 103) :=
    (hfrom.loaded _).mp (by decide)
  have hlookup : (Table.empty.insert "pim" 103).lookup "PIM" = some 103 := by decide
  refine ⟨hloaded, ?_⟩
  rw [(hfrom.kept _ hloaded [.replace none, .lookup "PIM"] (by simp)).1, List.map_cons,
    List.map_cons, List.map_nil, Step.answerWith, Step.answerWith, hlookup]

end CaptureFilter.Usage
