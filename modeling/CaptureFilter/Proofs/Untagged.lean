import CaptureFilter.Proofs.Summaries
import CaptureFilter.Proofs.TagCount

/-!
# Interfaces without tags

Where packets carry no tags and the untagged section is let in, the expression is what that section
asks for and nothing else: whatever is said of tagged sections neither changes it nor has it
refused, and no comparison in it looks for a tag.
Spec guidance: `SPEC_FULL.md` §4.2 step 5 (`_emit` without VLAN support).
-/

namespace CaptureFilter

open Text Expression

/-- A comparison looks for a tag: for the tag itself, for its ethertype or for its number. -/
def IsTagTest (text : String) : Prop :=
  text ∈ ["vlan", "ether proto 0x8100", "ether proto 0x88a8"] ∨
    ∃ place rest, text = "ether[" ++ place ++ "] & 0x0fff" ++ rest

/-- No fragment accepted for untagged packets looks for a tag. -/
theorem Fragment.not_isTagTest {table : Protocol.Table} {depth : Fin 10} {field : PacketField}
    {token : String} {fragment : Fragment} (h : ofToken table depth field token = .ok fragment)
    (h0 : depth.val = 0) {text : String} (ht : text ∈ fragment.formula.texts) :
    ¬ IsTagTest text := by
  obtain ⟨htag, hethertype⟩ := numbers_of_ofToken h
  have hproto (digits : String) {n : Nat} (hn : ofHexDigits digits.toList = n)
      (hm : "ether proto 0x" ++ digits ∈ fragment.formula.texts) :
      tagEthertypes.contains n = false := by
    obtain ⟨m, hf, hdigits⟩ := exists_ethertype_of_mem_texts hm
    rw [← hn, hdigits, ofHexDigits_hexDigits]
    exact hethertype m hf
  rintro (hword | ⟨place, rest, rfl⟩)
  · simp only [List.mem_cons, List.not_mem_nil, or_false] at hword
    rcases hword with rfl | rfl | rfl
    · exact vlan_not_mem_texts fragment ht
    · exact absurd (hproto "8100" rfl ht) (by decide)
    · exact absurd (hproto "88a8" rfl ht) (by decide)
  · obtain ⟨d, n, hf⟩ := exists_tag_of_mem_texts ht
    exact (htag d n hf).2.2 h0

namespace Expression

variable {cs : List Criterion}

/-! ### What the untagged section asks for -/

/-- Nothing is asked for in a section exactly if all inputs that compare a field are blank. -/
theorem askedFilters_eq_nil_iff (hb : ∀ c ∈ cs, c.Built) (index : Nat) :
    askedFilters (Level.criteriaAt index cs) = [] ↔
      ∀ c ∈ Level.criteriaAt index cs, (∃ field, c.kind = .packet field) →
        words (c.input.getD "") = [] := by
  rw [askedFilters, List.map_eq_nil_iff, List.filter_eq_nil_iff]
  refine forall₂_congr fun c hc ↦ ?_
  obtain ⟨hmem, depth, hplace, -⟩ := Level.mem_criteriaAt_iff.mp hc
  cases hk : c.kind with
  | packet field =>
    rw [← (hb c hmem).fragments_eq_nil_iff hk hplace, ← Criterion.formula?_eq_none_iff,
      ← Criterion.filter_eq_empty_iff]
    simp [Criterion.asks, hk]
  | preset | disposition => simp [Criterion.asks, hk]

/-- The comparisons of a level are those of what it reads as. -/
theorem Level.Reads.comparisons_text {level : Level} {asked : Option Formula}
    (h : level.Reads asked) : comparisons level.text = askedTexts asked := by
  cases asked with
  | none =>
    rw [h.2]
    decide
  | some f => exact (Formula.texts_of_ofText? h.2.1.ofText?).symm

/-- What the untagged section asks for looks for no tag. -/
theorem not_isTagTest_of_mem_comparisons (hb : ∀ c ∈ cs, c.Built) (hl : ∀ c ∈ cs, c.Legible)
    (hin : ¬ LeftOut cs 0) {text : String}
    (ht : text ∈ comparisons (Level.atDepth cs 0).text) : ¬ IsTagTest text := by
  have hreads := Level.reads_atDepth hb hl (Level.excluded_atDepth_eq_false_iff.mpr hin)
  rw [hreads.comparisons_text, askedTexts_sectionFormula?] at ht
  obtain ⟨s, hs, rfl⟩ := List.mem_map.mp ht
  obtain ⟨c, hc, -, fragment, hf, hm⟩ := exists_fragment_of_mem hs
  obtain ⟨hmem, depth, hplace, h0⟩ := Level.mem_criteriaAt_iff.mp hc
  obtain ⟨table, field, depth', token, -, hplace', -, htoken⟩ := (hb c hmem).exists_token hf
  obtain rfl : depth = depth' := by simpa [hplace] using hplace'
  exact Fragment.not_isTagTest htoken h0 hm

/-! ### What is written -/

/-- Without tags no tagged level is written. -/
theorem writtenUpTo_false_of_tagged {stops : Piece → Bool} {n : Nat} {levels : List Level}
    (hc : Consecutive (n + 1) levels) : writtenUpTo stops false levels = .ok [] := by
  cases levels with
  | nil => rfl
  | cons level below =>
    have hpos : (decide (0 < level.index) && !false) = true := by simp [hc.1]
    rw [writtenUpTo, if_pos hpos]

/-- Without tags the text of the untagged level is emitted if that level is let in. -/
theorem emit_false_of_included (hin : ¬ LeftOut cs 0) :
    emit false (Level.levels cs) = .ok (Level.atDepth cs 0).text := by
  have he := Level.excluded_atDepth_eq_false_iff.mpr hin
  have hi := Level.index_atDepth cs 0
  cases hlevels : Level.levels cs with
  | nil => exact absurd hlevels (Level.levels_ne_nil (Level.mentioned_of_not_leftOut hin))
  | cons level below =>
    obtain ⟨rfl, hbelow⟩ := head_of_levels hlevels
    have halone (boundary : Joint) (clause : Clause) :
        assemble boundary [(Level.atDepth cs 0, clause)] =
          clause.text (Level.atDepth cs 0) := by
      rw [assemble_cons boundary hi (by simp), joinParts]
      by_cases ht : clause.text (Level.atDepth cs 0) = ""
      · simp [entryText, chain, ht]
      · simp [entryText, chain, ht]
    by_cases ht : (Level.atDepth cs 0).text = ""
    · have hw : Writes false (Level.atDepth cs 0) below ⟨.nothing, true⟩ := .unsaid he ht hi rfl
      rw [emit, written, writtenUpTo_of_writes (.inl hi) hw, if_pos rfl, Except.map, halone, ht]
      rfl
    · have hw : Writes false (Level.atDepth cs 0) below ⟨.terms, false⟩ := .plain he ht hi
      rw [emit, written, writtenUpTo_of_writes (.inl hi) hw, if_neg (by simp),
        writtenUpTo_false_of_tagged hbelow]
      exact congrArg Except.ok (halone _ _)

/-- Without tags criteria compile to what the untagged section asks for. -/
theorem compile_false_of_included (hb : ∀ c ∈ cs, c.Built) (hl : ∀ c ∈ cs, c.Legible)
    (hin : ¬ LeftOut cs 0) {ds : List Criterion} (hp : ∀ d ∈ ds, d.isPreset = false)
    (hsame : Level.criteriaAt 0 ds = Level.criteriaAt 0 cs) :
    compile false ds = .ok (joinFilters (askedFilters (Level.criteriaAt 0 cs))) := by
  have hin' : ¬ LeftOut ds 0 := by rwa [LeftOut, hsame]
  have htext : (Level.atDepth ds 0).text = (Level.atDepth cs 0).text := by
    rw [Level.atDepth_of_not_leftOut hin', Level.atDepth_of_not_leftOut hin, hsame]
  have hno : dropTautology (Level.atDepth cs 0).text = (Level.atDepth cs 0).text := by
    apply if_neg
    intro h
    have hvlan : "vlan" ∈ comparisons (Level.atDepth cs 0).text := by
      rw [h]
      decide
    exact not_isTagTest_of_mem_comparisons hb hl hin hvlan (.inl (by decide))
  rw [compile_of_no_preset hp, emit_false_of_included hin', Except.map, htext, hno,
    Level.atDepth_of_not_leftOut hin]

/-- Without tags, and with the untagged section let in, criteria compile to the filters of that
section joined. The expression is empty exactly if their inputs are blank. Criteria of other
sections may be left out, put in or changed, and no comparison looks for a tag. -/
theorem untagged_section_alone {cs : List Criterion} (hb : ∀ c ∈ cs, c.Built)
    (hl : ∀ c ∈ cs, c.Legible) (hp : ∀ c ∈ cs, c.isPreset = false) (hin : ¬ LeftOut cs 0) :
    ∃ e, compile false cs = .ok e ∧ compile false (Level.criteriaAt 0 cs) = .ok e ∧
      e = joinFilters (askedFilters (Level.criteriaAt 0 cs)) ∧
      (e = "" ↔ ∀ c ∈ Level.criteriaAt 0 cs, (∃ field, c.kind = .packet field) →
        words (c.input.getD "") = []) ∧
      (∀ ds : List Criterion, (∀ d ∈ ds, d.isPreset = false) →
        Level.criteriaAt 0 ds = Level.criteriaAt 0 cs → compile false ds = .ok e) ∧
      ∀ text ∈ comparisons e, ¬ IsTagTest text := by
  have hall {ds : List Criterion} (hd : ∀ d ∈ ds, d.isPreset = false)
      (hsame : Level.criteriaAt 0 ds = Level.criteriaAt 0 cs) :
      compile false ds = .ok (joinFilters (askedFilters (Level.criteriaAt 0 cs))) :=
    compile_false_of_included hb hl hin hd hsame
  refine ⟨_, hall hp rfl, hall ?_ ?_, rfl, ?_, fun _ ↦ hall, ?_⟩
  · exact fun c hc ↦ hp c (List.mem_of_mem_filter hc)
  · exact List.filter_eq_self.mpr fun c hc ↦ (List.mem_filter.mp hc).2
  · rw [joinFilters_eq_empty_iff, askedFilters_eq_nil_iff hb]
  · intro text ht
    have htext : (Level.atDepth cs 0).text =
        joinFilters (askedFilters (Level.criteriaAt 0 cs)) := by
      rw [Level.atDepth_of_not_leftOut hin]
    exact not_isTagTest_of_mem_comparisons hb hl hin (htext ▸ ht)

/-- Ports and ethertypes of untagged packets, between a number of a tag and a section left out. -/
def portsBesideTags : List Criterion :=
  Criterion.accepted .empty
    [(.packet .port, 0, .anyOf, "80 443"), (.packet .vlan, 1, .anyOf, "7"),
      (.packet .ethertype, 0, .orNoneOf, "arp 0x88cc"), (.disposition, 2, .none, ""),
      (.disposition, 0, .anyOf, "")]

/-- Where there are no tags nothing is left of the number and of the section that is left out. -/
theorem portsBesideTags_alone :
    ∃ e, e = "(port 80 or port 443) or (not arp and not ether proto 0x88cc)" ∧
      compile false portsBesideTags = .ok e ∧
      (∀ ds : List Criterion, (∀ d ∈ ds, d.isPreset = false) →
        Level.criteriaAt 0 ds = Level.criteriaAt 0 portsBesideTags → compile false ds = .ok e) ∧
      ∀ text ∈ comparisons e, ¬ IsTagTest text := by
  have hb : ∀ c ∈ portsBesideTags, c.Built := fun _ hc ↦ .of_mem_accepted hc
  have hkind : ∀ c ∈ portsBesideTags, c.kind ≠ .packet .address := by decide
  obtain ⟨e, he, -, -, -, hall, htag⟩ :=
    untagged_section_alone hb (fun c hc ↦ Criterion.legible_of_kind (hkind c hc)) (by decide)
      (by decide)
  have hsaid : compile false portsBesideTags =
      .ok "(port 80 or port 443) or (not arp and not ether proto 0x88cc)" := rfl
  refine ⟨e, ?_, he, hall, htag⟩
  rw [hsaid] at he
  exact (Except.ok.inj he).symm

end Expression

end CaptureFilter
