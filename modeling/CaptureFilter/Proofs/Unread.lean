import CaptureFilter.Http.Client
import CaptureFilter.Http.Response
import CaptureFilter.Proofs.LegalCriteria
import CaptureFilter.Proofs.OwnNames
import CaptureFilter.Proofs.UnreadTokens

/-!
# Criteria that leave no answer

Building a criterion gives the criterion or its fault unless it comes to digits that cannot be read
or written: those that name its section, those of a value that would be blamed, those of a token,
or those of the number that is listed for a name. It gives neither where a name is to be looked up
and the table cannot be had. It is the same with the service that checks criteria.
Spec guidance: `SPEC_FULL.md` §4.1 (`Attribute.build`), §7 and §C (`validate_attribute`).
-/

namespace CaptureFilter

open Text

/-! ### Criteria -/

namespace Criterion

variable {source : Protocol.Source} {kind place operator : Json.Value} {raw : Option String}
  {e : Numeral.Error} {c : Criterion}

/-- Where and why building a criterion stops without an answer. -/
inductive StopsAt (source : Protocol.Source) (kind place operator : Json.Value)
    (raw : Option String) : Numeral.Error → Prop where
  /-- At the digits that name the section, behind a kind that is named. -/
  | place {k : Kind} {count : Nat} (hk : Names kind k.name) (ho : OversizedSection place count) :
    StopsAt source kind place operator raw (.tooManyDigits count)
  /-- At a value that would be blamed and that cannot be shown. -/
  | unshown (h : Unshown kind place operator) :
    StopsAt source kind place operator raw .unwritable
  /-- At a word of the input, behind words that are accepted. -/
  | token {c : Criterion} {text : String} {before after : List String} {word : String}
    {field : PacketField} {depth : Fin 10} {fragments : List Fragment} {e : Numeral.Error}
    (hc : read kind place operator = .ok c) (hr : raw = some text)
    (hw : words text = before ++ word :: after) (hf : c.kind = .packet field)
    (hd : c.place = .depth depth)
    (hb : before.mapM (Fragment.ofTokenFrom source depth field) = .ok fragments)
    (hu : Fragment.Unread source field word e) : StopsAt source kind place operator raw e

/-- The fragments of a text are those of its words. -/
theorem fragmentsFrom_eq_mapM {field : PacketField} {depth : Fin 10} (hk : c.kind = .packet field)
    (hp : c.place = .depth depth) (source : Protocol.Source) (raw : Option String) :
    c.fragmentsFrom source raw =
      (words (raw.getD "")).mapM (Fragment.ofTokenFrom source depth field) := by
  have hof (table : Protocol.Table) (tokens : List String) :
      c.fragmentsOf table tokens = tokens.mapM (Fragment.ofToken table depth field) := by
    rw [fragmentsOf, hk, hp]
  unfold fragmentsFrom
  simp only [hof, hk]
  cases source with
  | ok table =>
    have hsame :
        Fragment.ofTokenFrom (.ok table) depth field = Fragment.ofToken table depth field :=
      funext fun _ ↦ Fragment.ofTokenFrom_ok table
    rw [hsame]
    split
    · rfl
    · next hno =>
      rw [← hof, ← hof]
      exact fragmentsOf_congr (by rw [hk]; exact Bool.eq_false_iff.mpr hno) .empty table
  | error e =>
    cases field with
    | protocol => exact (Fragment.mapM_ofTokenFrom_error _).symm
    | _ => rfl

private theorem fragmentsFrom_eq_numeral_iff :
    c.fragmentsFrom source raw = .error (.numeral e) ↔
      ∃ field depth before word after fragments, c.kind = .packet field ∧
        c.place = .depth depth ∧ words (raw.getD "") = before ++ word :: after ∧
        before.mapM (Fragment.ofTokenFrom source depth field) = .ok fragments ∧
        Fragment.Unread source field word e := by
  constructor
  · intro h
    cases hk : c.kind with
    | packet field =>
      obtain ⟨depth, hp⟩ := exists_depth_of_packet hk
      rw [fragmentsFrom_eq_mapM hk hp, mapM_eq_error_iff] at h
      obtain ⟨before, word, after, hw, ⟨fragments, hb⟩, he⟩ := h
      have hword : word ∈ words (raw.getD "") := by simp [hw]
      exact ⟨field, depth, before, word, after, fragments, rfl, hp, hw, hb,
        (Fragment.ofTokenFrom_eq_numeral_iff (word_spec hword).2).mp he⟩
    | _ => simp [fragmentsFrom, fragmentsOf, hk] at h
  · rintro ⟨field, depth, before, word, after, fragments, hk, hp, hw, hb, hu⟩
    have hword : word ∈ words (raw.getD "") := by simp [hw]
    rw [fragmentsFrom_eq_mapM hk hp, mapM_eq_error_iff]
    exact ⟨before, word, after, hw, ⟨fragments, hb⟩,
      (Fragment.ofTokenFrom_eq_numeral_iff (word_spec hword).2).mpr hu⟩

private theorem setInputFrom_eq_numeral_iff (hn : c.input = none) :
    c.setInputFrom source raw = .error (.numeral e) ↔
      c.fragmentsFrom source raw = .error (.numeral e) := by
  rw [setInputFrom_eq, hn, if_neg (by simp)]
  cases c.fragmentsFrom source raw with
  | error failure => simp [Except.map]
  | ok fragments => exact iff_of_false nofun nofun

private theorem buildFrom_eq_error_iff_built :
    buildFrom kind place operator source raw = .error e ↔
      (read kind place operator >>= fun c ↦
        if raw.isSome then c.setInputFrom source raw else .ok c) = .error (.numeral e) := by
  have hbuilt : (read kind place operator >>= fun c ↦
      if raw.isSome then c.setInputFrom source raw else .ok c) =
        (do
          let c ← read kind place operator
          if raw.isSome then c.setInputFrom source raw else return c) := rfl
  rw [hbuilt]
  unfold buildFrom
  dsimp only
  split
  · next h => simp [h]
  · next h => simp [h]
  · next h => simp [h]

/-- Building leaves no answer exactly where it stops. -/
theorem buildFrom_eq_error_iff :
    buildFrom kind place operator source raw = .error e ↔
      StopsAt source kind place operator raw e := by
  rw [buildFrom_eq_error_iff_built, bind_eq_error_iff, read_eq_numeral_iff]
  constructor
  · rintro ((⟨k, count, hk, ho, rfl⟩ | ⟨h, rfl⟩) | ⟨c, hc, h⟩)
    · exact .place hk ho
    · exact .unshown h
    · cases hr : raw with
      | none => simp [hr] at h
      | some text =>
        rw [hr, Option.isSome_some, if_pos rfl,
          setInputFrom_eq_numeral_iff (input_of_read hc).1, fragmentsFrom_eq_numeral_iff] at h
        obtain ⟨field, depth, before, word, after, fragments, hk, hd, hw, hb, hu⟩ := h
        exact .token hc rfl hw hk hd hb hu
  · intro h
    cases h with
    | place hk ho => exact .inl (.inl ⟨_, _, hk, ho, rfl⟩)
    | unshown h => exact .inl (.inr ⟨h, rfl⟩)
    | token hc hr hw hk hd hb hu =>
      subst hr
      refine .inr ⟨_, hc, ?_⟩
      rw [Option.isSome_some, if_pos rfl, setInputFrom_eq_numeral_iff (input_of_read hc).1,
        fragmentsFrom_eq_numeral_iff]
      exact ⟨_, _, _, _, _, _, hk, hd, hw, hb, hu⟩

end Criterion

/-! ### Submissions -/

namespace Submission

variable {s : Submission} {source : Protocol.Source} {e : Numeral.Error}

/-- Where and why a submission leaves no answer. -/
def StopsAt (source : Protocol.Source) (s : Submission) : Numeral.Error → Prop :=
  Criterion.StopsAt source (.text s.kind) s.place.value (.text s.operator) (some s.input)

/-- A submission leaves no answer exactly where building its criterion stops. -/
theorem criterion_eq_numeral_iff :
    s.criterion source = .error (.numeral e) ↔ s.StopsAt source e := by
  rw [StopsAt, ← Criterion.buildFrom_eq_error_iff, Criterion.buildFrom_eq_error_iff_built]
  rfl

end Submission

/-! ### Answers -/

private theorem answered_or {α : Type} {x : Except Numeral.Error α} {stops : Numeral.Error → Prop}
    (h : ∀ e, x = .error e ↔ stops e) : (∃ a, x = .ok a) ↔ ∀ e, ¬ stops e := by
  cases x with
  | ok a => exact iff_of_true ⟨a, rfl⟩ fun e he ↦ nomatch (h e).mpr he
  | error e => exact iff_of_false nofun fun hno ↦ hno e ((h e).mp rfl)

namespace Http.BodyReader

variable {reader : BodyReader} {context : Context} {v : Json.Value} {s : Submission}

/-- A body that is read as a submission leaves no answer exactly where the submission does. -/
theorem validate_eq_error_iff (h : reader.submission v = .ok s) {e : Numeral.Error} :
    reader.validate context v = .error e ↔ s.StopsAt context.protocols e := by
  rw [validate_of_read h, ← Submission.criterion_eq_numeral_iff]
  cases s.criterion context.protocols with
  | ok c => exact iff_of_false nofun nofun
  | error failure =>
    cases failure with
    | filter fault => exact iff_of_false nofun nofun
    | numeral e' =>
      change Except.error e' = .error e ↔ _
      simp

/-- A body that is read as a submission is answered with status 200 or 422 if at all. -/
theorem status_of_validate (h : reader.submission v = .ok s) {response : Response}
    (hr : reader.validate context v = .ok response) :
    ∃ status answer, response = .reply status answer ∧ (status = 200 ∨ status = 422) := by
  rw [validate_of_read h] at hr
  cases hc : s.criterion context.protocols with
  | ok c =>
    rw [hc] at hr
    cases hr
    exact ⟨200, _, rfl, .inl rfl⟩
  | error failure =>
    rw [hc] at hr
    cases failure with
    | filter fault =>
      cases hr
      exact ⟨422, _, rfl, .inr rfl⟩
    | numeral e => cases hr

end Http.BodyReader

namespace Criterion

/-- Building a criterion gives it or its fault unless it stops, with the table that is handed in or
the one that is loaded when a name is looked up, and then for one of the reasons there are. So does
the service that checks criteria, with every reader of bodies and every body that is read as a
submission: it answers with status 200 or 422, or not at all. -/
theorem answered_iff (source : Protocol.Source) :
    (∀ kind place operator raw,
      ((∃ answer, buildFrom kind place operator source raw = .ok answer) ↔
        ∀ e, ¬ StopsAt source kind place operator raw e) ∧
      ∀ e, buildFrom kind place operator source raw = .error e ↔
        StopsAt source kind place operator raw e) ∧
    ∀ (reader : Http.BodyReader) untaggedPrefixes v s, reader.submission v = .ok s →
      ((∃ status answer, reader.validate ⟨source, untaggedPrefixes⟩ v =
          .ok (.reply status answer) ∧ (status = 200 ∨ status = 422)) ↔
        ∀ e, ¬ s.StopsAt source e) ∧
      ∀ e, reader.validate ⟨source, untaggedPrefixes⟩ v = .error e ↔ s.StopsAt source e := by
  constructor
  · intro kind place operator raw
    have herror (e : Numeral.Error) := @buildFrom_eq_error_iff source kind place operator raw e
    exact ⟨answered_or herror, herror⟩
  · intro reader untaggedPrefixes v s hs
    have herror (e : Numeral.Error) :=
      @Http.BodyReader.validate_eq_error_iff reader ⟨source, untaggedPrefixes⟩ v s hs e
    refine ⟨?_, herror⟩
    rw [← answered_or herror]
    constructor
    · rintro ⟨status, answer, ha, -⟩
      exact ⟨_, ha⟩
    · rintro ⟨response, hr⟩
      obtain ⟨status, answer, rfl, hstatus⟩ := Http.BodyReader.status_of_validate hs hr
      exact ⟨status, answer, hr, hstatus⟩

/-- A criterion on the ports of packets at a depth. -/
def portsAt (depth : Fin 10) : Criterion where
  kind := .packet .port
  place := .depth depth
  operator := .anyOf
  legal := rfl

/-- A port beside something that is none, behind one tag. -/
def twoPorts : Submission := ⟨"port", .number 1, "any_of", "80 x"⟩

/-- Its digits are few, so it is answered. -/
theorem twoPorts_answered :
    Http.bodyReader.submission twoPorts.toJson = .ok twoPorts ∧
      (∀ e, ¬ twoPorts.StopsAt (.ok .empty) e) ∧
      ∃ status answer, Http.validate ⟨.ok .empty, []⟩ twoPorts.toJson =
        .ok (.reply status answer) ∧ (status = 200 ∨ status = 422) := by
  have hbody : Http.bodyReader.submission twoPorts.toJson = .ok twoPorts := rfl
  have hread : read (.text "port") (.int 1) (.text "any_of") = .ok (portsAt 1) :=
    read_names (portsAt 1) rfl
  have hstops (e : Numeral.Error) : ¬ twoPorts.StopsAt (.ok .empty) e := by
    intro h
    cases h with
    | place _ ho =>
      obtain ⟨_, hs, -⟩ := ho
      cases hs
    | unshown h => cases hread.symm.trans h.read
    | @token c text before after word field depth _ _ hc hr hw hf _ _ hu =>
      cases hread.symm.trans hc
      cases hf
      cases hr
      cases hu with
      | digits hn ho =>
        cases hn
        have hlengths : ∀ w ∈ words "80 x", w.toList.length ≤ Numeral.maxDigits := by decide
        have hword : word ∈ words "80 x" := by
          rw [show words "80 x" = before ++ word :: after from hw]
          exact List.mem_append_right before List.mem_cons_self
        exact absurd ho.2 (Nat.not_lt.mpr (hlengths word hword))
  exact ⟨hbody, hstops, ((answered_iff (.ok .empty)).2 _ [] _ _ hbody).1.mpr hstops⟩

/-- A port of `count` ones. -/
def onesPort (count : Nat) : Submission :=
  ⟨"port", .number 0, "any_of", String.ofList (List.replicate count '1')⟩

private theorem onesPort_stopsAt {count : Nat} (h : Numeral.maxDigits < count) :
    (onesPort count).StopsAt (.ok .empty) (.tooManyDigits count) := by
  have hone : ∀ c ∈ List.replicate count '1', c = '1' := fun c hc ↦ List.eq_of_mem_replicate hc
  have hlength : (List.replicate count '1').length = count := List.length_replicate
  have hne : List.replicate count '1' ≠ [] := by
    rw [Ne, List.replicate_eq_nil_iff]
    omega
  have hread : read (.text "port") (.int 0) (.text "any_of") = .ok (portsAt 0) :=
    read_names (portsAt 0) rfl
  have hwords : words (onesPort count).input = [] ++ (onesPort count).input :: [] := by
    apply words_of_forall hne
    intro c hc
    rw [hone c hc]
    decide
  have hdigits : isNumber (List.replicate count '1') = true := by
    refine isNumber_iff.mpr ⟨hne, fun c hc ↦ ?_⟩
    rw [hone c hc]
    decide
  have hunread : Fragment.Unread (.ok .empty) .port (onesPort count).input
      (.tooManyDigits (List.replicate count '1').length) :=
    .digits String.toList_ofList ⟨hdigits, by rw [hlength]; exact h⟩
  rw [hlength] at hunread
  exact .token hread rfl hwords rfl rfl rfl hunread

/-- A port of 4301 ones is neither accepted nor refused, and the service gives no answer to it. -/
theorem onesPort_unanswered :
    build (.text "port") (.int 0) (.text "any_of") .empty (some (onesPort 4301).input) =
        .error (.tooManyDigits 4301) ∧
      Http.validate ⟨.ok .empty, []⟩ (onesPort 4301).toJson = .error (.tooManyDigits 4301) := by
  have hstops : (onesPort 4301).StopsAt (.ok .empty) (.tooManyDigits 4301) :=
    onesPort_stopsAt (by decide)
  have hbody : Http.bodyReader.submission (onesPort 4301).toJson = .ok (onesPort 4301) := rfl
  have hvalidate := @Http.BodyReader.validate_eq_error_iff _ ⟨.ok .empty, []⟩ _ _ hbody
  exact ⟨buildFrom_eq_error_iff.mpr hstops, hvalidate.mpr hstops⟩

end Criterion

end CaptureFilter
