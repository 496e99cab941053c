import CaptureFilter.Proofs.Fidelity
import CaptureFilter.Proofs.Sources
import Mathlib.Data.List.Basic

/-!
# Comparisons stand at their depth

A comparison that comes from a criterion follows as many `vlan` as the criterion's section is deep,
so that it is looked at behind that many tags. The number of a tag is read at the offset that the
tag has there.
Spec guidance: `SPEC_FULL.md` §4.1 (`vlan_tag_offset`) and §4.2 step 5 (`_fragment`).
-/

namespace CaptureFilter

open Text Expression

/-! ### The comparisons of fragments -/

namespace Fragment

variable {fragment : Fragment} {offset number : String}

private theorem mask_not_mem_octetsAt (octets : List UInt8) (start : Nat) :
    '&' ∉ (octetsAt octets start).toList := by
  have hdigit : ∀ n, '&' ∉ (decimal n).toList := fun n hm ↦
    absurd (isDigit_of_mem_decimal hm) (by decide)
  have hoctets : '&' ∉ ("".intercalate (octets.map octetText)).toList := by
    intro hm
    rcases mem_toList_intercalate hm with hm | ⟨t, ht, hm⟩
    · exact absurd hm (by decide)
    · obtain ⟨octet, -, rfl⟩ := List.mem_map.mp ht
      rw [octetText, String.toList_ofList] at hm
      exact absurd (isHexDigit_of_mem_hexDigits hm) (by decide)
  simp only [octetsAt, String.toList_append, List.mem_append, not_or]
  exact ⟨⟨⟨⟨⟨by decide, hdigit _⟩, by decide⟩, hdigit _⟩, by decide⟩, hoctets⟩

/-- A comparison of a tag's number has one offset and one number. -/
theorem tag_text_inj {depth : Fin 10} {n : Nat}
    (h : "ether[" ++ offset ++ ":2] & 0x0fff = " ++ number = text (.tag depth n)) :
    offset = signedDecimal (tagOffset depth.val) ∧ number = decimal n := by
  have hdigit : ∀ c, c.isDigit = true → c ≠ ':' := by
    rintro c hc rfl
    exact absurd hc (by decide)
  have hoffset : ':' ∉ (signedDecimal (tagOffset depth.val)).toList := by
    intro hm
    rcases isDigit_of_mem_signedDecimal hm with hd | hd
    · exact hdigit _ hd rfl
    · exact absurd hd (by decide)
  have hnumber : ':' ∉ "2] & 0x0fff = ".toList ++ (decimal n).toList := by
    intro hm
    rcases List.mem_append.mp hm with hm | hm
    · exact absurd hm (by decide)
    · exact hdigit _ (isDigit_of_mem_decimal hm) rfl
  -- the colon behind the offset is the only one
  have hl : (signedDecimal (tagOffset depth.val)).toList ++
        ':' :: ("2] & 0x0fff = ".toList ++ (decimal n).toList) =
      offset.toList ++ ':' :: ("2] & 0x0fff = ".toList ++ number.toList) := by
    have hl := congrArg String.toList h.symm
    have hcolon : ":2] & 0x0fff = ".toList = ':' :: "2] & 0x0fff = ".toList := by decide
    simpa only [text, String.toList_append, List.append_assoc, List.append_cancel_left_eq, hcolon,
      List.cons_append] using hl
  obtain ⟨ho, -, hn⟩ := (List.append_cons_inj_of_notMem hoffset hnumber).mp hl
  exact ⟨(String.toList_inj.mp ho).symm, (String.toList_inj.mp (List.append_cancel_left hn)).symm⟩

/-- Only a tag fragment masks what it compares to get the number of a tag. -/
theorem exists_tag_of_mem_texts {place rest : String}
    (h : "ether[" ++ place ++ "] & 0x0fff" ++ rest ∈ fragment.formula.texts) :
    ∃ depth n, fragment = .tag depth n := by
  cases fragment with
  | tag depth n => exact ⟨depth, n, rfl⟩
  | named known =>
    have hl := congrArg String.toList (List.mem_singleton.mp h)
    cases known <;> simp [text, NamedEthertype.word, String.toList_append] at hl
  | ping | ipsec =>
    simp [formula, Formula.texts, Formula.atoms, ← String.toList_inj, String.toList_append] at h
  | hardwareStart octets =>
    have hmask : '&' ∈ ("ether[" ++ place ++ "] & 0x0fff" ++ rest).toList := by
      simp [String.toList_append]
    simp only [formula, Formula.texts, Formula.atoms, List.map_append, List.map_cons, List.map_nil,
      List.mem_append, List.mem_singleton] at h
    rcases h with h | h <;> (rw [h] at hmask; exact absurd hmask (mask_not_mem_octetsAt octets _))
  | _ =>
    have hl := congrArg String.toList (List.mem_singleton.mp h)
    simp [text, String.toList_append] at hl

/-- Only an ethertype fragment compares an ethertype by its number. -/
theorem exists_ethertype_of_mem_texts {digits : String}
    (h : "ether proto 0x" ++ digits ∈ fragment.formula.texts) :
    ∃ n, fragment = .ethertype n ∧ digits.toList = hexDigits 4 n := by
  cases fragment with
  | ethertype n =>
    have hl := congrArg String.toList (List.mem_singleton.mp h)
    simp only [text, String.toList_append, String.toList_ofList] at hl
    exact ⟨n, rfl, List.append_cancel_left hl⟩
  | named known =>
    have hl := congrArg String.toList (List.mem_singleton.mp h)
    cases known <;> simp [text, NamedEthertype.word, String.toList_append] at hl
  | ping | ipsec =>
    simp [formula, Formula.texts, Formula.atoms, ← String.toList_inj, String.toList_append] at h
  | hardwareStart octets =>
    simp [formula, Formula.texts, Formula.atoms, octetsAt, ← String.toList_inj,
      String.toList_append] at h
  | _ =>
    have hl := congrArg String.toList (List.mem_singleton.mp h)
    simp [text, String.toList_append] at hl

/-- A comparison of a tag's number is that of a tag fragment. -/
theorem tag_of_mem_texts
    (h : "ether[" ++ offset ++ ":2] & 0x0fff = " ++ number ∈ fragment.formula.texts) :
    ∃ depth n, fragment = .tag depth n ∧ offset = signedDecimal (tagOffset depth.val) ∧
      number = decimal n := by
  have hmask : "ether[" ++ offset ++ ":2] & 0x0fff = " ++ number =
      "ether[" ++ (offset ++ ":2") ++ "] & 0x0fff" ++ (" = " ++ number) := by
    simp [← String.toList_inj, String.toList_append]
  obtain ⟨depth, n, rfl⟩ := exists_tag_of_mem_texts (hmask ▸ h)
  obtain ⟨ho, hn⟩ := tag_text_inj (List.mem_singleton.mp h)
  exact ⟨depth, n, rfl, ho, hn⟩

end Fragment

/-! ### The depth of comparisons -/

/-- A comparison that comes from a criterion stands behind as many tags as the criterion's section
is deep, and every other is one of those written for levels. -/
def Source.Stands (cs : List Criterion) (tags : Nat) (s : Source) : Prop :=
  match s.criterion with
  | none => s.text ∈ ["vlan", "ether proto 0x8100", "ether proto 0x88a8"]
  | some c =>
    c ∈ Level.criteriaAt tags cs ∧ ∃ fragment ∈ c.fragments, s.text ∈ fragment.formula.texts

namespace Expression

/-- All comparisons that follow a number of tags stand at their depth. -/
def AllStand (cs : List Criterion) : Nat → List Source → Prop
  | _, [] => True
  | tags, s :: rest => s.Stands cs tags ∧ AllStand cs (tags + tagCount [s]) rest

variable {cs : List Criterion} {tags : Nat}

/-- Comparisons in two parts stand at their depth if those of both parts do. -/
theorem allStand_append {front back : List Source} :
    AllStand cs tags (front ++ back) ↔
      AllStand cs tags front ∧ AllStand cs (tags + tagCount front) back := by
  induction front generalizing tags with
  | nil => simp [AllStand, tagCount]
  | cons s rest ih =>
    rw [List.cons_append, AllStand, AllStand, ih, tagCount_cons s rest, and_assoc, Nat.add_assoc]

/-- A comparison in the middle stands behind the tags that are counted before it. -/
theorem AllStand.stands {front back : List Source} {s : Source}
    (h : AllStand cs tags (front ++ s :: back)) : s.Stands cs (tags + tagCount front) :=
  (allStand_append.mp h).2.1

/-- Comparisons that ask for no tag stand at their depth if each of them does. -/
theorem allStand_of_forall {all : List Source} (hv : tagCount all = 0)
    (h : ∀ s ∈ all, s.Stands cs tags) : AllStand cs tags all := by
  induction all with
  | nil => exact True.intro
  | cons s rest ih =>
    rw [tagCount_cons] at hv
    have hs : tagCount [s] = 0 := by omega
    refine ⟨h s List.mem_cons_self, ?_⟩
    rw [hs]
    exact ih (by omega) fun r hr ↦ h r (List.mem_cons_of_mem s hr)

private theorem allStand_sectionSources (index : Nat) (cs : List Criterion) :
    AllStand cs index (sectionSources index cs) := by
  apply allStand_of_forall (tagCount_sectionSources index cs)
  intro s hs
  obtain ⟨c, hc, hcrit, hf⟩ := exists_fragment_of_mem hs
  rw [Source.Stands, hcrit]
  exact ⟨hc, hf⟩

private theorem stands_written {text : String}
    (h : text ∈ ["vlan", "ether proto 0x8100", "ether proto 0x88a8"]) :
    Source.Stands cs tags ⟨none, text⟩ := h

variable {vlan last : Bool} {level : Level} {below levels : List Level} {clause : Clause}

/-- A tagged level asks for one more tag, and its criteria stand behind that. -/
theorem allStand_tagged (hw : Writes vlan level below ⟨clause, last⟩)
    (hi : level.index = tags + 1) :
    AllStand cs tags (clause.sources (sectionSources level.index cs)) ∧
      tagCount (clause.sources (sectionSources level.index cs)) = 1 := by
  have hv : AllStand cs tags [⟨none, "vlan"⟩] := ⟨stands_written (by decide), True.intro⟩
  cases hw with
  | stepped | empty => exact ⟨hv, rfl⟩
  | ended => exact ⟨hv, rfl⟩
  | tagged =>
    rw [hi, Clause.sources]
    refine ⟨⟨stands_written (by decide), allStand_sectionSources (tags + 1) cs⟩, ?_⟩
    rw [tagCount_cons, tagCount_sectionSources]
    rfl
  | skipped _ h0 | anyTag _ h0 | unsaid _ _ h0 | untagged _ _ h0 | onlyUntagged _ _ h0
  | plain _ _ h0 => omega

/-- The untagged level asks for no tag unless nothing follows. -/
theorem allStand_untagged (hw : Writes vlan level below ⟨clause, last⟩) (hi : level.index = 0) :
    AllStand cs 0 (clause.sources (sectionSources level.index cs)) ∧
      (last = false → tagCount (clause.sources (sectionSources level.index cs)) = 0) := by
  have hv : AllStand cs 0 [⟨none, "vlan"⟩] := ⟨stands_written (by decide), True.intro⟩
  cases hw with
  | skipped | unsaid => exact ⟨True.intro, fun _ ↦ rfl⟩
  | anyTag | onlyUntagged => exact ⟨hv, fun h ↦ nomatch h⟩
  | untagged =>
    refine ⟨allStand_of_forall rfl ?_, fun _ ↦ rfl⟩
    intro s hs
    simp only [Clause.sources, List.mem_cons, List.not_mem_nil, or_false] at hs
    rcases hs with rfl | rfl <;> exact stands_written (by decide)
  | plain =>
    rw [hi]
    exact ⟨allStand_sectionSources 0 cs, fun _ ↦ tagCount_sectionSources 0 cs⟩
  | stepped _ h0 | ended _ h0 | empty _ _ h0 | tagged _ _ h0 => exact absurd hi h0

/-- The comparisons of tagged levels that follow each other stand at their depth. -/
theorem allStand_of_consecutive {all : List (Level × Clause)} (hc : Consecutive (tags + 1) levels)
    (h : written true levels = .ok all) : AllStand cs tags (sources cs all) := by
  induction levels generalizing tags all with
  | nil =>
    cases h
    exact True.intro
  | cons level below ih =>
    rw [written] at h
    obtain ⟨p, hw, ⟨-, rfl⟩ | ⟨-, rest, hr, rfl⟩⟩ := writtenUpTo_true_cons h
    · rw [sources, List.flatMap_singleton]
      exact (allStand_tagged hw hc.1).1
    · obtain ⟨hs, hone⟩ := allStand_tagged hw hc.1
      rw [sources, List.flatMap_cons]
      apply allStand_append.mpr
      rw [hone]
      exact ⟨hs, ih hc.2 hr⟩

/-- The comparisons of all levels of criteria stand at their depth. -/
theorem allStand_sources {all : List (Level × Clause)}
    (h : written true (Level.levels cs) = .ok all) : AllStand cs 0 (sources cs all) := by
  have hc := consecutive_levels cs
  cases hlevels : Level.levels cs with
  | nil =>
    rw [hlevels] at h
    cases h
    exact True.intro
  | cons level below =>
    rw [hlevels, written] at h
    rw [hlevels] at hc
    obtain ⟨p, hw, ⟨-, rfl⟩ | ⟨hl, rest, hr, rfl⟩⟩ := writtenUpTo_true_cons h
    · rw [sources, List.flatMap_singleton]
      exact (allStand_untagged hw hc.1).1
    · obtain ⟨hs, hzero⟩ := allStand_untagged hw hc.1
      rw [sources, List.flatMap_cons]
      apply allStand_append.mpr
      rw [hzero hl]
      exact ⟨hs, allStand_of_consecutive hc.2 hr⟩

private theorem tag_of_stands {s : Source} (h : s.Stands cs tags) (hb : ∀ c ∈ cs, c.Built)
    {offset number : String} (ht : s.text = "ether[" ++ offset ++ ":2] & 0x0fff = " ++ number) :
    offset = signedDecimal (Fragment.tagOffset tags) ∧ 1 ≤ tags ∧
      ∃ n ≤ Fragment.maxTag, number = decimal n := by
  rw [Source.Stands] at h
  split at h
  · -- what is written for a level compares no number of a tag
    rw [ht] at h
    simp [← String.toList_inj, String.toList_append] at h
  · next c _ =>
    obtain ⟨hc, fragment, hf, hm⟩ := h
    obtain ⟨hmem, depth, hplace, rfl⟩ := Level.mem_criteriaAt_iff.mp hc
    rw [ht] at hm
    obtain ⟨depth', n, rfl, ho, hn⟩ := Fragment.tag_of_mem_texts hm
    obtain ⟨table, field, depth'', token, -, hplace', -, htoken⟩ :=
      (hb c hmem).exists_token hf
    rw [hplace] at hplace'
    cases hplace'
    obtain ⟨rfl, hmax, hpos⟩ := (Fragment.numbers_of_ofToken htoken).1 _ _ rfl
    exact ⟨ho, Nat.one_le_iff_ne_zero.mpr hpos, n, hmax, hn⟩

/-- Every comparison of an expression that comes from a criterion has as many `vlan` before it as
the criterion's section is deep. A comparison of a tag's number has at least one before it, is made
at the offset that the tag has there, and with a number that fits a tag. -/
theorem comparisons_at_their_depth {cs : List Criterion} (hb : ∀ c ∈ cs, c.Built)
    (hl : ∀ c ∈ cs, c.Legible) (hp : ∀ c ∈ cs, c.isPreset = false) {e : String}
    (h : compile true cs = .ok e) :
    e = "" ∨ ∃ all, written true (Level.levels cs) = .ok all ∧
      comparisons e = (sources cs all).map (·.text) ∧
      ∀ front s back, sources cs all = front ++ s :: back →
        (∀ c, s.criterion = some c →
          c ∈ cs ∧ ∃ depth : Fin 10, c.place = .depth depth ∧ depth.val = tagCount front) ∧
        (∀ offset number, s.text = "ether[" ++ offset ++ ":2] & 0x0fff = " ++ number →
          offset = signedDecimal (10 + 4 * tagCount front) ∧ 1 ≤ tagCount front ∧
            ∃ n ≤ 4095, number = decimal n) := by
  by_cases he : e = ""
  · exact .inl he
  · obtain ⟨all, f, hw, hf, hphrase⟩ := exists_written_of_compile hb hl hp h he
    refine .inr ⟨all, hw, ?_, ?_⟩
    · have ht := askedTexts_assembleFormula? hb hw (boundary (Level.levels cs))
      rw [hf] at ht
      rw [← Formula.texts_of_ofText? hphrase.ofText?]
      exact ht
    · intro front s back hsplit
      have hall := allStand_sources hw
      rw [hsplit] at hall
      have hs := hall.stands
      rw [Nat.zero_add] at hs
      refine ⟨?_, fun offset number ht ↦ tag_of_stands hs hb ht⟩
      intro c hc
      rw [Source.Stands, hc] at hs
      exact Level.mem_criteriaAt_iff.mp hs.1

/-- The comparisons of ports and a tag behind two others stand at their depth. -/
theorem portsOrTag_at_their_depth :
    ∃ all, written true (Level.levels portsOrTag) = .ok all ∧
      comparisons portsOrTagExpression = (sources portsOrTag all).map (·.text) ∧
      ∀ front s back, sources portsOrTag all = front ++ s :: back →
        ∀ c, s.criterion = some c →
          c ∈ portsOrTag ∧
            ∃ depth : Fin 10, c.place = .depth depth ∧ depth.val = tagCount front := by
  have h : compile true portsOrTag = .ok portsOrTagExpression := rfl
  rcases comparisons_at_their_depth (fun _ hc ↦ .of_mem_accepted hc) portsOrTag_legible
    (by decide) h with he | ⟨all, hw, ht, hs⟩
  · exact absurd he (by decide)
  · exact ⟨all, hw, ht, fun front s back hsplit ↦ (hs front s back hsplit).1⟩

end Expression

end CaptureFilter
