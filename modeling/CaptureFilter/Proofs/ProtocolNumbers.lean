import CaptureFilter.Proofs.LastEntry
import CaptureFilter.Proofs.Lifetime
import CaptureFilter.Proofs.Negation
import CaptureFilter.Proofs.Sources
import CaptureFilter.Proofs.TokenForms
import CaptureFilter.Proofs.Unread

/-!
# Protocol numbers in filters

The filter of a protocol criterion compares the protocol of packets with the numbers that the tokens
of its input stand for. A token of digits stands for itself and is at most 255. A name stands for
the number of the last line of the database that gives it one, which may be any number: the numbers
in filters are at most 255 exactly if those of the names that can be looked up are.
Spec guidance: `SPEC_FULL.md` §4.1 (`_compile_protocol`) and §6 (`from_lines`).
-/

namespace CaptureFilter

open Text Protocol Expression Usage

/-! ### Known tokens -/

namespace Usage

/-- Whether a token is known does not depend on its case. -/
theorem known_lower_iff {word : String} : Known (lower word) ↔ Known word := by
  rw [Known, Known, lower_lower]
  refine or_congr_right ⟨fun h ↦ ?_, fun h ↦ ?_⟩
  · rwa [lower_eq_self h] at h
  · rwa [lower_of_isNumber h]

/-- Looking at a token shows whether it is known. -/
instance (word : String) : Decidable (Known word) :=
  inferInstanceAs (Decidable (_ = true ∨ _ = true))

end Usage

/-! ### What tokens stand for -/

/-- The protocol number that a token stands for, where names are those of a database's lines. -/
inductive StandsFor (lines : List (List Char)) (word : String) : Nat → Prop where
  /-- A token of digits stands for its number, which must not be too great. -/
  | number {n : Nat} (h : Fragment.IsDecimal word n) (hn : n ≤ 255) : StandsFor lines word n
  /-- A name stands for the number of the last line that contributes it. -/
  | name {n : Nat} (h : ¬ Known word)
    (hn : (lines.filter (Line.gives (lower word))).getLast?.bind Line.number? = some (n : Int)) :
    StandsFor lines word n

namespace Fragment

variable {lines : List (List Char)} {t : Table} {word : String} {fragment : Fragment}

/-- A token that is accepted and is no protocol with a fragment of its own is a plain one. -/
theorem plain_of_ofProtocol (hb : ∀ c ∈ word.toList, isBlank c = false)
    (h : ofProtocol t word = .ok fragment) (hno : namedProtocol? (lower word) = none) :
    Plain .protocol word where
  not_blank := hb
  not_oversized := fun ho ↦ by
    rw [ofProtocol_eq_numeral_iff.mpr (.inl ⟨ho, rfl⟩)] at h
    cases h
  no_alias := hno

/-- A token with a fragment of its own is accepted as that. -/
theorem ofProtocol_of_named (h : namedProtocol? (lower word) = some fragment) :
    ofProtocol t word = .ok fragment := by
  rw [ofProtocol, ProtocolToken.of, h]
  rfl

/-- A token whose fragment is a number stands for that number. -/
theorem standsFor_of_ofProtocol (hr : Records lines t) (hb : ∀ c ∈ word.toList, isBlank c = false)
    {m : Int} (h : ofProtocol t word = .ok (.protocol m)) :
    ∃ n : Nat, m = n ∧ StandsFor lines word n := by
  have hno : namedProtocol? (lower word) = none := by
    refine Option.eq_none_iff_forall_ne_some.mpr fun special hs ↦ ?_
    have hsame := Except.ok.inj ((ofProtocol_of_named hs).symm.trans h)
    rcases namedProtocol?_eq_some hs with rfl | rfl <;> cases hsame
  obtain ⟨v, hv, hm⟩ : ∃ v, Denotes t 0 .protocol word v ∧
      Fragment.protocol m = v.fragment 0 .protocol :=
    (ofProtocol_eq_ok_iff (plain_of_ofProtocol hb h hno)).mp h
  cases hv with
  | protocol hd hn =>
    cases hm
    exact ⟨_, rfl, .number hd hn⟩
  | protocolName hd hn _ =>
    cases hm
    have hk : ¬ Known word := by simp [Known, hno, hd]
    rw [hr.lookup_eq] at hn
    obtain ⟨line, -, hline⟩ := Option.bind_eq_some_iff.mp hn
    obtain ⟨n, -, rfl⟩ := Option.map_eq_some_iff.mp hline
    exact ⟨n, rfl, .name hk hn⟩

/-- A name that is looked up has the fragment of its number. -/
theorem ofProtocol_of_lookup (hr : Records lines t) (hk : ¬ Known word) {n : Int}
    (hn : t.lookup word = some n) : ofProtocol t word = .ok (.protocol n) := by
  rw [ofProtocol, of_eq_name_iff.mpr hk]
  dsimp only
  rw [hn]
  exact ofListed_of_not_unwritable (hr.not_unwritable_of_lookup hn)

/-- The fragment of a token that is accepted and stands for a number is the number. -/
theorem ofProtocol_of_standsFor (hr : Records lines t) (hb : ∀ c ∈ word.toList, isBlank c = false)
    (h : ofProtocol t word = .ok fragment) {n : Nat} (hs : StandsFor lines word n) :
    fragment = .protocol n := by
  cases hs with
  | number hd hn =>
    have hplain := plain_of_ofProtocol hb h (namedProtocol?_of_isNumber hd.1)
    have hvalue : ∃ v, Denotes t 0 .protocol word v ∧
        Fragment.protocol n = v.fragment 0 .protocol := ⟨_, .protocol hd hn, rfl⟩
    exact Except.ok.inj (h.symm.trans ((ofProtocol_eq_ok_iff hplain).mpr hvalue))
  | name hk hn =>
    rw [← hr.lookup_eq] at hn
    rw [ofProtocol_of_lookup hr hk hn] at h
    exact (Except.ok.inj h).symm

/-- A comparison with a protocol's number is that of a protocol fragment. -/
theorem exists_protocol_of_mem_texts {number : String}
    (h : "proto " ++ number ∈ fragment.formula.texts) :
    ∃ n, fragment = .protocol n ∧ number = signedDecimal n := by
  cases fragment with
  | protocol n => exact ⟨n, rfl, (String.append_right_inj _).mp (List.mem_singleton.mp h)⟩
  | named known =>
    have hl := congrArg String.toList (List.mem_singleton.mp h)
    cases known <;> simp [text, NamedEthertype.word, String.toList_append] at hl
  | ping | ipsec =>
    simp [formula, Formula.texts, Formula.atoms, ← String.toList_inj, String.toList_append] at h
  | hardwareStart octets =>
    simp [formula, Formula.texts, Formula.atoms, octetsAt, ← String.toList_inj,
      String.toList_append] at h
  | _ =>
    have hl := congrArg String.toList (List.mem_singleton.mp h)
    simp [text, String.toList_append] at hl

end Fragment

/-! ### Filters -/

namespace Criterion

variable {c d : Criterion} {t : Table} {raw : Option String}

/-- The comparisons of a filter are those of its fragments. -/
theorem mem_comparisons_filter_iff (hr : ∀ fragment ∈ c.fragments, fragment.Readable)
    {text : String} :
    text ∈ comparisons c.filter ↔ ∃ fragment ∈ c.fragments, text ∈ fragment.formula.texts := by
  have hasked : comparisons c.filter = c.sources.map (·.text) := by
    rw [← askedTexts_formula?]
    cases hf : c.formula? with
    | none =>
      rw [filter_eq_empty_iff.mpr hf]
      rfl
    | some f => exact (Formula.texts_of_ofText? (phrase_filter hr hf).ofText?).symm
  rw [hasked, sources, List.map_map, ← List.mem_flatMap]
  exact iff_of_eq (congrArg (text ∈ ·) (List.map_id _))

/-- The filter of a protocol criterion compares packets with exactly the numbers that the words of
its input stand for. -/
theorem mem_comparisons_of_setInput {lines : List (List Char)} (hr : Records lines t)
    (hk : c.kind = .packet .protocol) (h : c.setInput t raw = .ok d) {number : String} :
    "proto " ++ number ∈ comparisons d.filter ↔
      ∃ word ∈ words (raw.getD ""), ∃ n, StandsFor lines word n ∧ number = decimal n := by
  obtain ⟨depth, hp⟩ := exists_depth_of_packet hk
  have hfragments := fragments_of_setInput h
  have hmap : (words (raw.getD "")).mapM (Fragment.ofProtocol t) = .ok d.fragments := by
    simpa [fragmentsOf, hk, hp, Fragment.ofToken] using hfragments
  have hreadable : ∀ fragment ∈ d.fragments, fragment.Readable := by
    intro fragment hm
    obtain ⟨word, hword, hw⟩ := exists_mem_of_mapM_eq_ok hmap hm
    have htoken : Fragment.ofToken t depth .protocol word = .ok fragment := hw
    exact Fragment.readable_of_ofToken hword htoken fun hf ↦ absurd hf (by decide)
  rw [mem_comparisons_filter_iff hreadable]
  constructor
  · rintro ⟨fragment, hm, htext⟩
    obtain ⟨m, rfl, rfl⟩ := Fragment.exists_protocol_of_mem_texts htext
    obtain ⟨word, hword, hw⟩ := exists_mem_of_mapM_eq_ok hmap hm
    obtain ⟨n, rfl, hs⟩ := Fragment.standsFor_of_ofProtocol hr (word_spec hword).2 hw
    exact ⟨word, hword, n, hs, rfl⟩
  · rintro ⟨word, hword, n, hs, rfl⟩
    obtain ⟨fragment, hm, hw⟩ := exists_result_of_mapM_eq_ok hmap hword
    obtain rfl := Fragment.ofProtocol_of_standsFor hr (word_spec hword).2 hw hs
    exact ⟨_, hm, List.mem_singleton.mpr rfl⟩

/-- A name that can be looked up makes a filter with its number. -/
theorem exists_filter_of_name {lines : List (List Char)} (hr : Records lines t) {key : String}
    {n : Nat} (hk : ¬ Known key)
    (hn : (lines.filter (Line.gives key)).getLast?.bind Line.number? = some (n : Int)) :
    ∃ (c d : Criterion) (raw : Option String), c.kind = .packet .protocol ∧
      c.setInput t raw = .ok d ∧ "proto " ++ decimal n ∈ comparisons d.filter := by
  obtain ⟨line, hlast, -⟩ := Option.bind_eq_some_iff.mp hn
  have hgives := (List.mem_filter.mp (List.mem_of_getLast? hlast)).2
  obtain ⟨word, hword, rfl⟩ := Line.exists_word_of_mem_names (Line.gives_iff.mp hgives).2
  obtain ⟨hne, hblank⟩ := word_spec hword
  rw [known_lower_iff] at hk
  have hlookup : t.lookup word = some (n : Int) := by rw [hr.lookup_eq, hn]
  have hof : Fragment.ofProtocol t word = .ok (.protocol n) :=
    Fragment.ofProtocol_of_lookup hr hk hlookup
  have hwords : words word = [word] := by
    have hw := words_of_forall (mt String.toList_eq_nil_iff.mp hne) hblank
    rwa [String.ofList_toList] at hw
  have hany : Operator.onField .anyOf = true := rfl
  have hset : (onField .protocol 0 .anyOf hany).setInput t (some word) =
      .ok { onField .protocol 0 .anyOf hany with
        input := some word, fragments := [.protocol n] } := by
    rw [setInput_onField, hwords, List.mapM_cons, List.mapM_nil]
    change (Fragment.ofProtocol t word >>= _).map _ = _
    rw [hof]
    rfl
  refine ⟨_, _, some word, rfl, hset, (mem_comparisons_of_setInput hr rfl hset).mpr ?_⟩
  exact ⟨word, by simp [hwords], n, .name hk hn, rfl⟩

end Criterion

/-- With the table of a database, the filter of a protocol criterion compares packets with exactly
the numbers that the words of its input stand for. All of them in all filters are from 0 to 255
exactly if the number that the last line to give a name gives it is at most 255, whichever name can
be looked up. -/
theorem protocol_numbers_fit_iff {lines : List (List Char)} {t : Table}
    (h : Table.ofLines lines = .ok t) :
    (∀ (c d : Criterion) (raw : Option String), c.kind = .packet .protocol →
      c.setInput t raw = .ok d → ∀ number, "proto " ++ number ∈ comparisons d.filter ↔
        ∃ word ∈ words (raw.getD ""), ∃ n, StandsFor lines word n ∧ number = decimal n) ∧
    ((∀ (c d : Criterion) (raw : Option String), c.kind = .packet .protocol →
      c.setInput t raw = .ok d → ∀ number, "proto " ++ number ∈ comparisons d.filter →
        ∃ n : Nat, number = decimal n ∧ n ≤ 255) ↔
      ∀ (key : String) (n : Nat), ¬ Known key →
        (lines.filter (Line.gives key)).getLast?.bind Line.number? = some (n : Int) → n ≤ 255) := by
  have hr := records_of_ofLines h
  refine ⟨fun c d raw hk hs number ↦ Criterion.mem_comparisons_of_setInput hr hk hs, ?_, ?_⟩
  · intro hfit key n hk hn
    obtain ⟨c, d, raw, hkind, hset, hmem⟩ := Criterion.exists_filter_of_name hr hk hn
    obtain ⟨m, hm, hle⟩ := hfit c d raw hkind hset _ hmem
    rw [decimal_injective hm]
    exact hle
  · intro hnames c d raw hkind hset number hmem
    obtain ⟨word, -, n, hs, rfl⟩ := (Criterion.mem_comparisons_of_setInput hr hkind hset).mp hmem
    refine ⟨n, rfl, ?_⟩
    cases hs with
    | number _ hle => exact hle
    | name hk hn => exact hnames (lower word) n (mt known_lower_iff.mp hk) hn

/-- Lines with numbers above 255 for tokens that are known and for a name that is given another. -/
def shadowedNumbers : List (List Char) :=
  ["udp 999", "ping 300", "Tcp 6 1000", "4711 1000", "sctp 132 UDP"].map String.toList

/-- The numbers in their filters are at most 255. -/
theorem shadowedNumbers_fit :
    ∃ t d, Table.ofLines shadowedNumbers = .ok t ∧
      (Criterion.onField .protocol 0 .noneOf rfl).setInput t (some "UDP ping TCP 255") = .ok d ∧
      "proto 132" ∈ comparisons d.filter ∧
      ∀ number, "proto " ++ number ∈ comparisons d.filter →
        ∃ n : Nat, number = decimal n ∧ n ≤ 255 := by
  have ht : Table.ofLines shadowedNumbers = .ok ⟨[("udp", 132), ("sctp", 132), ("4711", 1000),
      ("1000", 6), ("tcp", 6), ("ping", 300), ("udp", 999)]⟩ := rfl
  have hd : (Criterion.onField .protocol 0 .noneOf rfl).setInput ⟨[("udp", 132), ("sctp", 132),
      ("4711", 1000), ("1000", 6), ("tcp", 6), ("ping", 300), ("udp", 999)]⟩
      (some "UDP ping TCP 255") = .ok { Criterion.onField .protocol 0 .noneOf rfl with
        input := some "UDP ping TCP 255",
        fragments := [.protocol 132, .ping, .protocol 6, .protocol 255] } := rfl
  have hnames : ∀ line ∈ shadowedNumbers, ∀ key ∈ Line.names line, ¬ Known key →
      ((shadowedNumbers.filter (Line.gives key)).getLast?.bind Line.number?).all (· ≤ 255) =
        true := by
    decide +kernel
  obtain ⟨hexact, hfit⟩ := protocol_numbers_fit_iff ht
  refine ⟨_, _, ht, hd, ?_, hfit.mpr ?_ _ _ _ rfl hd⟩
  · refine (hexact _ _ _ rfl hd "132").mpr ⟨"UDP", by decide, 132, .name (by decide) ?_, rfl⟩
    decide +kernel
  · intro key n hk hn
    obtain ⟨line, hlast, -⟩ := Option.bind_eq_some_iff.mp hn
    obtain ⟨hline, hgives⟩ := List.mem_filter.mp (List.mem_of_getLast? hlast)
    have hall := hnames line hline key (Line.gives_iff.mp hgives).2 hk
    rw [hn, Option.all_some, decide_eq_true_eq] at hall
    exact Int.ofNat_le.mp hall

/-- A line with a number that no protocol has. -/
def greatNumber : List (List Char) := ["big 300"].map String.toList

/-- Its name makes a filter with that number, which is refused where it is written as such. -/
theorem greatNumber_misfits :
    ∃ t d, Table.ofLines greatNumber = .ok t ∧
      (Criterion.onField .protocol 0 .anyOf rfl).setInput t (some "big") = .ok d ∧
      d.filter = "proto 300" ∧ "proto 300" ∈ comparisons d.filter ∧
      (Criterion.onField .protocol 0 .anyOf rfl).setInput t (some "300") =
        .error (.filter (.token .protocolNumber "300")) := by
  have ht : Table.ofLines greatNumber = .ok ⟨[("big", 300)]⟩ := rfl
  have hd : (Criterion.onField .protocol 0 .anyOf rfl).setInput ⟨[("big", 300)]⟩ (some "big") =
      .ok { Criterion.onField .protocol 0 .anyOf rfl with
        input := some "big", fragments := [.protocol 300] } := rfl
  exact ⟨_, _, ht, hd, by decide +kernel, by decide +kernel, rfl⟩

end CaptureFilter
