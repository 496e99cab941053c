import CaptureFilter.CommandLine.Report
import CaptureFilter.Proofs.LastEntry
import CaptureFilter.Proofs.Negation
import CaptureFilter.Proofs.Refusals
import CaptureFilter.Proofs.Unread

/-!
# The command line and the service

Entries on a command line and the same criteria in a request come to the same: one expression, or
one fault. They part only where a protocol name is to be looked up and the database cannot be read:
the command line reports the digits that are at fault there, and the service leaves them unanswered.
Spec guidance: `SPEC_FULL.md` §7, §C (`compile_filter`) and §D (`main`).
-/

namespace CaptureFilter

open Text CommandLine

/-! ### What is asked -/

namespace Submission

/-- An entry can hold a submission: a text names its section, and no name holds a colon. -/
structure FitsEntry (s : Submission) : Prop where
  /-- A text without a colon names the section. -/
  place : ∃ name, s.place = .text name ∧ ':' ∉ name.toList
  /-- The name of the kind holds no colon. -/
  kind : ':' ∉ s.kind.toList
  /-- The name of the operator holds no colon. -/
  operator : ':' ∉ s.operator.toList

/-- Neither the name of the section nor the input holds digits that are oversized. -/
structure Readable (s : Submission) : Prop where
  /-- The name of the section holds none. -/
  place : ∀ name digits, s.place = .text name → digits <:+: name.toList →
    ¬ Numeral.Oversized digits
  /-- The input holds none. -/
  input : ∀ digits, digits <:+: s.input.toList → ¬ Numeral.Oversized digits

variable {s : Submission} {e : Numeral.Error}

/-- A submission that fits an entry is read from it. -/
theorem FitsEntry.ofText?_entry (h : s.FitsEntry) : ofText? s.entry = some s := by
  obtain ⟨kind, place, operator, input⟩ := s
  obtain ⟨name, hname, hcolon⟩ := h.place
  cases hname
  exact Submission.ofText?_entry input hcolon h.kind h.operator

/-- The entry of a submission makes its criterion. -/
theorem FitsEntry.ofEntry_entry (h : s.FitsEntry) (source : Protocol.Source) :
    Criterion.ofEntry source s.entry = (s.criterion source).mapError .refused := by
  rw [Criterion.ofEntry, h.ofText?_entry]

/-- A section that is named by a text needs no number to be written. -/
theorem FitsEntry.writable (h : s.FitsEntry) : s.Writable := by
  intro n hn
  obtain ⟨name, hname, -⟩ := h.place
  cases hname.symm.trans hn

/-- Short texts hold no digits that are oversized. -/
theorem readable_of_length (hp : s.place.plain.length ≤ Numeral.maxDigits)
    (hi : s.input.length ≤ Numeral.maxDigits) : s.Readable where
  place name digits hname hin ho := by
    rw [hname] at hp
    have hlength : digits.length ≤ name.length := hin.length_le
    exact absurd ho.2 (by have : name.length ≤ Numeral.maxDigits := hp; omega)
  input digits hin ho := by
    have hlength : digits.length ≤ s.input.length := hin.length_le
    exact absurd ho.2 (by omega)

/-- A submission has a protocol name looked up: what it names is read, and its input comes to a
name. -/
def LooksUp (s : Submission) : Prop :=
  ∃ c, Criterion.read (.text s.kind) s.place.value (.text s.operator) = .ok c ∧
    c.consults (some s.input) = true

/-- A submission that looks a name up makes nothing where there is no table. -/
theorem LooksUp.criterion_error (h : s.LooksUp) (e : Numeral.Error) :
    s.criterion (.error e) = .error (.numeral e) := by
  obtain ⟨c, hc, hconsults⟩ := h
  rw [criterion, hc]
  change c.setInputFrom (.error e) (some s.input) = _
  rw [Criterion.setInputFrom, if_pos hconsults]
  rfl

/-- The table does not matter to a submission that looks no name up. -/
theorem criterion_of_not_looksUp (h : ¬ s.LooksUp) (source : Protocol.Source) :
    s.criterion source = s.criterion (.ok .empty) := by
  unfold criterion
  cases hc : Criterion.read (.text s.kind) s.place.value (.text s.operator) with
  | error failure => rfl
  | ok c =>
    have hconsults : ¬ c.consults (some s.input) = true := fun hconsults ↦ h ⟨c, hc, hconsults⟩
    change c.setInputFrom source (some s.input) = c.setInputFrom (.ok .empty) (some s.input)
    rw [Criterion.setInputFrom, Criterion.setInputFrom, if_neg hconsults, if_neg hconsults]

/-- With a table whose numbers can be written, a readable submission makes a criterion or is
refused. -/
theorem Readable.criterion_ne_numeral (h : s.Readable) (hf : s.FitsEntry) {table : Protocol.Table}
    (ht : ∀ name n, table.lookup name = some n → ¬ Numeral.Unwritable n) :
    s.criterion (.ok table) ≠ .error (.numeral e) := by
  obtain ⟨name, hname, -⟩ := hf.place
  intro hc
  rw [criterion_eq_numeral_iff, StopsAt, hname] at hc
  cases hc with
  | place _ ho =>
    obtain ⟨text, htext, ho, -⟩ := ho
    cases htext
    rw [lower_eq_self ho.1] at ho
    have hin : (trim name).toList <:+: name.toList := trim_infix name
    exact h.place name _ hname hin ho
  | unshown hu => exact Criterion.not_unshown_of_text hu
  | @token _ text before after word field _ _ _ _ hr hw _ _ _ hu =>
    cases hr
    have hword : word ∈ words s.input := by simp [hw]
    cases hu with
    | digits hn ho =>
      have hin := (Fragment.suffix_of_numeralIn hn).isInfix.trans (infix_of_mem_words hword)
      exact h.input _ hin ho
    | noTable _ hs => cases hs
    | listed _ hs hn hu =>
      cases hs
      exact ht _ _ hn hu

/-- A readable submission leaves no answer exactly where it looks a name up and the database cannot
be read. -/
theorem Readable.criterion_eq_numeral_iff (h : s.Readable) (hf : s.FitsEntry)
    (file : Option (List UInt8)) :
    s.criterion (.ofFile file) = .error (.numeral e) ↔
      Protocol.Source.ofFile file = .error e ∧ s.LooksUp := by
  cases hs : Protocol.Source.ofFile file with
  | ok table =>
    refine iff_of_false (h.criterion_ne_numeral hf fun name n hn ↦ ?_) nofun
    exact Protocol.not_unwritable_of_ofFile hs hn
  | error e' =>
    by_cases hl : s.LooksUp
    · rw [hl.criterion_error, and_iff_left hl]
      simp
    · rw [criterion_of_not_looksUp hl]
      refine iff_of_false (h.criterion_ne_numeral hf fun name n hn ↦ ?_) fun hr ↦ hl hr.2
      rw [Protocol.Table.lookup_empty] at hn
      cases hn

end Submission

namespace CommandLine

/-- A preset as it is handed in. -/
def Preset.submission (preset : Preset) : Submission :=
  ⟨"attribute_preset", .text "preset", preset.val.name, ""⟩

/-- A preset that is handed in makes its criterion, with the empty input set. -/
theorem Preset.criterion_submission (preset : Preset) (source : Protocol.Source) :
    preset.submission.criterion source = .ok { preset.criterion with input := some "" } := by
  have hread : Criterion.read (.text "attribute_preset") (.text "preset")
      (.text preset.val.name) = .ok preset.criterion :=
    preset.criterion.read_names rfl
  change (Criterion.read (.text "attribute_preset") (.text "preset") (.text preset.val.name) >>=
    fun c ↦ c.setInputFrom source (some "")) = _
  rw [hread]
  rfl

/-- What a command line and a service may both be asked to compile. -/
structure Wanted where
  /-- The criteria, in order. -/
  submissions : List Submission
  /-- The preset that stands before them. -/
  preset : Option Preset
  /-- The interface to capture on. -/
  interface : Option String
  /-- Whether the interface is said to carry no tags. -/
  noVlan : Bool

namespace Wanted

variable {w : Wanted}

/-- What is wanted, on a command line. -/
def choices (w : Wanted) : Choices where
  entries := w.submissions.map Submission.entry
  preset := w.preset
  interface := w.interface
  noVlan := w.noVlan
  json := true

/-- What is wanted, in a request. -/
def request (w : Wanted) : Http.CompileRequest where
  submissions := (w.preset.map Preset.submission).toList ++ w.submissions
  vlan := if w.noVlan then some false else none
  interface := w.interface

/-- Both sides decide alike whether the interface carries tags. -/
theorem vlan_choices (w : Wanted) (untaggedPrefixes : List String) :
    w.choices.vlan untaggedPrefixes = w.request.carriesTags untaggedPrefixes := by
  rw [Choices.vlan, Http.CompileRequest.carriesTags, choices, request]
  cases w.noVlan <;> rfl

/-- The criteria that stand before those of the submissions. -/
def lead (w : Wanted) : List Criterion := (w.preset.map Preset.criterion).toList

/-- The criteria of the submissions and the expression of what is wanted. -/
def outcome (w : Wanted) (context : Context) : Except Failure (List Criterion × String) := do
  let cs ← w.submissions.mapM (Submission.criterion context.protocols)
  let vlan := w.request.carriesTags context.untaggedPrefixes
  let expression ← (Expression.compile vlan (w.lead ++ cs)).mapError fun e ↦ .filter (.compile e)
  return (cs, expression)

private theorem criteria_choices (h : ∀ s ∈ w.submissions, s.FitsEntry)
    (source : Protocol.Source) :
    w.choices.criteria source =
      ((w.submissions.mapM (Submission.criterion source)).mapError .refused).map (w.lead ++ ·) := by
  have hentries : (w.submissions.map Submission.entry).mapM (Criterion.ofEntry source) =
      (w.submissions.mapM (Submission.criterion source)).mapError .refused := by
    rw [List.mapM_map, ← mapM_mapError]
    exact mapM_congr fun s hs ↦ (h s hs).ofEntry_entry source
  rw [Choices.criteria, choices]
  dsimp only
  rw [hentries]
  cases (w.submissions.mapM (Submission.criterion source)).mapError EntryFault.refused <;> rfl

/-- The command line compiles what is wanted. -/
theorem compile_choices (h : ∀ s ∈ w.submissions, s.FitsEntry) (context : Context) :
    w.choices.compile context = ((w.outcome context).mapError .refused).map
      fun (cs, expression) ↦
        ⟨w.lead ++ cs, w.request.carriesTags context.untaggedPrefixes, expression⟩ := by
  rw [Choices.compile, criteria_choices h, vlan_choices, outcome]
  cases w.submissions.mapM (Submission.criterion context.protocols) with
  | error failure => rfl
  | ok cs =>
    change (Expression.compile _ (w.lead ++ cs)).mapError _ >>= _ = Except.map _ (Except.mapError _
      ((Expression.compile _ (w.lead ++ cs)).mapError _ >>= _))
    cases Expression.compile (w.request.carriesTags context.untaggedPrefixes) (w.lead ++ cs) <;> rfl

/-- The criterion that a preset makes in a request. -/
private def handedIn (preset : Preset) : Criterion := { preset.criterion with input := some "" }

private theorem criteria_request (w : Wanted) (source : Protocol.Source) :
    w.request.submissions.mapM (Submission.criterion source) =
      (w.submissions.mapM (Submission.criterion source)).map
        ((w.preset.map handedIn).toList ++ ·) := by
  rw [request]
  dsimp only
  cases w.preset with
  | none =>
    change w.submissions.mapM _ = _
    cases w.submissions.mapM (Submission.criterion source) <;> rfl
  | some preset =>
    have hpreset : preset.submission.criterion source = .ok (handedIn preset) :=
      preset.criterion_submission source
    change (preset.submission :: w.submissions).mapM _ = _
    rw [List.mapM_cons, hpreset]
    cases w.submissions.mapM (Submission.criterion source) <;> rfl

/-- Whether its input is set does not matter to what a preset is compiled to. -/
private theorem compile_handedIn (w : Wanted) (vlan : Bool) (cs : List Criterion) :
    Expression.compile vlan ((w.preset.map handedIn).toList ++ cs) =
      Expression.compile vlan (w.lead ++ cs) := by
  rw [lead]
  cases w.preset <;> rfl

/-- The service compiles what is wanted. -/
theorem compile_request (w : Wanted) (context : Context) :
    w.request.compile context = (w.outcome context).map fun (cs, expression) ↦
      .record [("expression", .text expression),
        ("vlan_supported", .bool (w.request.carriesTags context.untaggedPrefixes)),
        ("attributes", .list (((w.preset.map handedIn).toList ++ cs).map Criterion.view))] := by
  rw [Http.CompileRequest.compile, criteria_request, outcome]
  cases w.submissions.mapM (Submission.criterion context.protocols) with
  | error failure => rfl
  | ok cs =>
    change (Expression.compile _ ((w.preset.map handedIn).toList ++ cs)).mapError _ >>= _ =
      Except.map _ ((Expression.compile _ (w.lead ++ cs)).mapError _ >>= _)
    rw [compile_handedIn]
    cases Expression.compile (w.request.carriesTags context.untaggedPrefixes) (w.lead ++ cs) <;> rfl

/-- Some submission has a name looked up, behind submissions that make criteria. -/
def LooksUp (source : Protocol.Source) (w : Wanted) : Prop :=
  ∃ before s after, w.submissions = before ++ s :: after ∧
    (∃ cs, before.mapM (Submission.criterion source) = .ok cs) ∧ s.LooksUp

/-- What is wanted leaves no answer exactly where a name is looked up and the database cannot be
read. -/
theorem outcome_eq_numeral_iff (h : ∀ s ∈ w.submissions, s.FitsEntry ∧ s.Readable)
    (file : Option (List UInt8)) (untaggedPrefixes : List String) {e : Numeral.Error} :
    w.outcome ⟨.ofFile file, untaggedPrefixes⟩ = .error (.numeral e) ↔
      Protocol.Source.ofFile file = .error e ∧ w.LooksUp (.ofFile file) := by
  have hcompile (cs : List Criterion) :
      (do
        let vlan := w.request.carriesTags untaggedPrefixes
        let expression ← (Expression.compile vlan (w.lead ++ cs)).mapError fun e ↦
          .filter (.compile e)
        return (cs, expression)) ≠
          (.error (.numeral e) : Except Failure (List Criterion × String)) := by
    dsimp only
    cases Expression.compile (w.request.carriesTags untaggedPrefixes) (w.lead ++ cs) <;> nofun
  rw [outcome, bind_eq_error_iff, or_iff_left fun ⟨cs, _, hc⟩ ↦ hcompile cs hc, mapM_eq_error_iff]
  constructor
  · rintro ⟨before, s, after, hw, hb, hs⟩
    obtain ⟨hfits, hreadable⟩ := h s (by simp [hw])
    obtain ⟨hsource, hlooks⟩ := (hreadable.criterion_eq_numeral_iff hfits file).mp hs
    exact ⟨hsource, before, s, after, hw, hb, hlooks⟩
  · rintro ⟨hsource, before, s, after, hw, hb, hlooks⟩
    obtain ⟨hfits, hreadable⟩ := h s (by simp [hw])
    exact ⟨before, s, after, hw, hb,
      (hreadable.criterion_eq_numeral_iff hfits file).mpr ⟨hsource, hlooks⟩⟩

/-! ### What comes of it -/

/-- An answer on the command line and one of the service that come to the same. -/
inductive SameOutcome : Answer → Http.Served → Prop where
  /-- Both give the expression, and whether the interface carries tags. -/
  | compiled (expression : String) (vlan : Bool) (criteria : Json.Value) :
    SameOutcome
      ⟨0, .json (.record [("expression", .text expression), ("vlan_supported", .bool vlan)])⟩
      (.ok (.reply 200 (.record [("expression", .text expression),
        ("vlan_supported", .bool vlan), ("attributes", criteria)])))
  /-- Both give the account of a fault. -/
  | refused (account : Json.Value) :
    SameOutcome ⟨2, .json (.record [("error", account)])⟩
      (.ok (.reply 422 (.record [("detail", account)])))

/-- An answer on the command line that reports digits, and a service that leaves them unanswered. -/
def Unanswered (e : Numeral.Error) (answer : Answer) (served : Http.Served) : Prop :=
  answer = ⟨2, .json (.record [("error", .record [("message", .text e.message)])])⟩ ∧
    served = .error e

/-- Both answers come from what is wanted. -/
theorem outcome_cases {reader : Http.BodyReader} (hreader : reader.Faithful)
    (h : ∀ s ∈ w.submissions, s.FitsEntry) (context : Context) :
    (∃ e, w.outcome context = .error (.numeral e) ∧
        Unanswered e (w.choices.answer context) (reader.compile context w.request.toJson)) ∨
      ((∀ e, w.outcome context ≠ .error (.numeral e)) ∧
        SameOutcome (w.choices.answer context) (reader.compile context w.request.toJson)) := by
  have hwritable : ∀ s ∈ w.request.submissions, s.Writable := by
    intro s hs
    rcases List.mem_append.mp hs with hs | hs
    · obtain ⟨preset, -, rfl⟩ := Option.map_eq_some_iff.mp (Option.mem_toList.mp hs)
      exact nofun
    · exact (h s hs).writable
  rw [Http.BodyReader.compile_of_read (hreader.compileRequest_toJson _ hwritable), Choices.answer,
    compile_choices h, compile_request]
  cases w.outcome context with
  | ok made =>
    obtain ⟨cs, expression⟩ := made
    exact .inr ⟨nofun, .compiled expression _ _⟩
  | error failure =>
    cases failure with
    | filter fault => exact .inr ⟨nofun, .refused fault.account⟩
    | numeral e => exact .inl ⟨e, rfl, rfl, rfl⟩

/-- An answer that is given is not left out. -/
theorem SameOutcome.not_unanswered {answer : Answer} {served : Http.Served} {e : Numeral.Error}
    (h : SameOutcome answer served) : ¬ Unanswered e answer served := by
  rintro ⟨-, hserved⟩
  cases h <;> cases hserved

/-- Where a name is looked up in a database that cannot be read, the digits that are at fault are
reported and left unanswered. -/
theorem unanswered_of_looksUp {reader : Http.BodyReader} (hreader : reader.Faithful)
    (h : ∀ s ∈ w.submissions, s.FitsEntry ∧ s.Readable) {file : Option (List UInt8)}
    {untaggedPrefixes : List String} {e : Numeral.Error}
    (hsource : Protocol.Source.ofFile file = .error e) (hlooks : w.LooksUp (.ofFile file)) :
    Unanswered e (w.choices.answer ⟨.ofFile file, untaggedPrefixes⟩)
      (reader.compile ⟨.ofFile file, untaggedPrefixes⟩ w.request.toJson) := by
  have he := (outcome_eq_numeral_iff h file untaggedPrefixes).mpr ⟨hsource, hlooks⟩
  rcases outcome_cases hreader (fun s hs ↦ (h s hs).1) ⟨.ofFile file, untaggedPrefixes⟩ with
    ⟨e', he', hu⟩ | ⟨hne, -⟩
  · rw [he, Except.error.injEq, Failure.numeral.injEq] at he'
    rw [he']
    exact hu
  · exact absurd he (hne e)

/-- What is wanted comes to the same on the command line and in a request, with every reader that
reads what clients write and every protocol database, if its submissions fit entries and hold no
digits that are oversized, exactly unless the database cannot be read and a name is looked up in it.
Then the command line reports the digits and the service gives no answer. -/
theorem same_outcome_iff {reader : Http.BodyReader} (hreader : reader.Faithful) (w : Wanted)
    (file : Option (List UInt8)) (untaggedPrefixes : List String)
    (h : ∀ s ∈ w.submissions, s.FitsEntry ∧ s.Readable) :
    (SameOutcome (w.choices.answer ⟨.ofFile file, untaggedPrefixes⟩)
        (reader.compile ⟨.ofFile file, untaggedPrefixes⟩ w.request.toJson) ↔
      ((∃ table, Protocol.Source.ofFile file = .ok table) ∨ ¬ w.LooksUp (.ofFile file))) ∧
    ∀ e, Protocol.Source.ofFile file = .error e → w.LooksUp (.ofFile file) →
      Unanswered e (w.choices.answer ⟨.ofFile file, untaggedPrefixes⟩)
        (reader.compile ⟨.ofFile file, untaggedPrefixes⟩ w.request.toJson) := by
  refine ⟨?_, fun e hsource hlooks ↦ unanswered_of_looksUp hreader h hsource hlooks⟩
  rcases outcome_cases hreader (fun s hs ↦ (h s hs).1) ⟨.ofFile file, untaggedPrefixes⟩ with
    ⟨e, he, hu⟩ | ⟨hne, hsame⟩
  · obtain ⟨hsource, hlooks⟩ := (outcome_eq_numeral_iff h file untaggedPrefixes).mp he
    refine iff_of_false (fun hsame ↦ hsame.not_unanswered hu) ?_
    rintro (⟨table, ht⟩ | hno)
    · cases hsource.symm.trans ht
    · exact hno hlooks
  · refine iff_of_true hsame ?_
    cases hsource : Protocol.Source.ofFile file with
    | ok table => exact .inl ⟨table, rfl⟩
    | error e =>
      right
      intro hlooks
      rw [← hsource] at hlooks
      exact hne e ((outcome_eq_numeral_iff h file untaggedPrefixes).mpr ⟨hsource, hlooks⟩)

/-- Ports behind a tag and a beginning of hardware addresses that is too long to be compared, behind
the preset of tagged packets. -/
def portsAndMac : Wanted where
  submissions := [⟨"port", .text " 1", "any_of", "80\n443"⟩,
    ⟨"macaddress", .text "0", "none_of", "0:1b:2"⟩]
  preset := some ⟨.tagged, rfl⟩
  interface := some "em0"
  noVlan := false

/-- The colons of the input stay in it, and the fault is the same on both sides. -/
theorem portsAndMac_same_outcome :
    Http.bodyReader.Faithful ∧ (∀ s ∈ portsAndMac.submissions, s.FitsEntry ∧ s.Readable) ∧
      SameOutcome (portsAndMac.choices.answer ⟨.ofFile none, ["lo"]⟩)
        (Http.compile ⟨.ofFile none, ["lo"]⟩ portsAndMac.request.toJson) := by
  have h : ∀ s ∈ portsAndMac.submissions, s.FitsEntry ∧ s.Readable := by
    intro s hs
    rcases List.mem_cons.mp hs with rfl | hs
    · exact ⟨⟨⟨" 1", rfl, by decide⟩, by decide, by decide⟩,
        Submission.readable_of_length (by decide) (by decide)⟩
    · rw [List.mem_singleton.mp hs]
      exact ⟨⟨⟨"0", rfl, by decide⟩, by decide, by decide⟩,
        Submission.readable_of_length (by decide) (by decide)⟩
  have hsame := (same_outcome_iff Http.bodyReader_faithful portsAndMac none ["lo"] h).1
  exact ⟨Http.bodyReader_faithful, h, hsame.mpr (.inl ⟨.empty, rfl⟩)⟩

/-- The number of a protocol by its name. -/
def namedProtocol : Wanted where
  submissions := [⟨"protocol", .text "0", "any_of", "tcp"⟩]
  preset := none
  interface := none
  noVlan := false

/-- The bytes of `x ² X`, a line with a digit of no decimal system for its number. -/
def squareFile : List UInt8 := [0x78, 0x20, 0xC2, 0xB2, 0x20, 0x58, 0x0A]

/-- The command line reports the digit and the service gives no answer, although the entry is well
formed and its digits are few. -/
theorem namedProtocol_outcomes_differ :
    (∀ s ∈ namedProtocol.submissions, s.FitsEntry ∧ s.Readable) ∧
      Protocol.Source.ofFile (some squareFile) = .error (.notDecimal "²") ∧
      Unanswered (.notDecimal "²") (namedProtocol.choices.answer ⟨.ofFile (some squareFile), []⟩)
        (Http.compile ⟨.ofFile (some squareFile), []⟩ namedProtocol.request.toJson) ∧
      ¬ SameOutcome (namedProtocol.choices.answer ⟨.ofFile (some squareFile), []⟩)
        (Http.compile ⟨.ofFile (some squareFile), []⟩ namedProtocol.request.toJson) := by
  have h : ∀ s ∈ namedProtocol.submissions, s.FitsEntry ∧ s.Readable := by
    intro s hs
    rw [List.mem_singleton.mp hs]
    exact ⟨⟨⟨"0", rfl, by decide⟩, by decide, by decide⟩,
      Submission.readable_of_length (by decide) (by decide)⟩
  have hsource : Protocol.Source.ofFile (some squareFile) = .error (.notDecimal "²") := rfl
  have hsection : Criterion.readSection (.text "0") = .ok (.depth 0) :=
    Criterion.readSection_name (.depth 0)
  have hread : Criterion.read (.text "protocol") (.text "0") (.text "any_of") =
      .ok (Criterion.onField .protocol 0 .anyOf rfl) :=
    Criterion.read_names (Criterion.onField .protocol 0 .anyOf rfl) hsection
  have hlooks : namedProtocol.LooksUp (.ofFile (some squareFile)) :=
    ⟨[], _, [], rfl, ⟨[], rfl⟩, _, hread, by decide⟩
  have hu : Unanswered (.notDecimal "²")
      (namedProtocol.choices.answer ⟨.ofFile (some squareFile), []⟩)
      (Http.compile ⟨.ofFile (some squareFile), []⟩ namedProtocol.request.toJson) :=
    unanswered_of_looksUp Http.bodyReader_faithful h hsource hlooks
  exact ⟨h, hsource, hu, fun hsame ↦ hsame.not_unanswered hu⟩

end Wanted

end CommandLine

end CaptureFilter
