import CaptureFilter.Proofs.Grouping
import CaptureFilter.Proofs.Summaries

/-!
# Parentheses of filters and expressions

The parentheses of a filter match exactly if those of the addresses match that it repeats as they
were given. From filters whose parentheses match every expression is put together so that its own
match, too.
Spec guidance: `SPEC_FULL.md` §1 and §4.2 step 5 (`_emit`, `_group`).
-/

namespace CaptureFilter.Expression

open Text

/-- A text of hexadecimal digits matches. -/
theorem Balanced.of_isHexDigit {s : List Char} (h : ∀ c ∈ s, isHexDigit c = true) :
    Balanced s := by
  apply of_forall
  intro c hc
  constructor <;> (rintro rfl; exact absurd (h _ hc) (by decide))

end CaptureFilter.Expression

namespace CaptureFilter

open Text Expression

/-! ### Filters -/

namespace Fragment

/-- What a fragment repeats as it was given. -/
def repeated : Fragment → List Char
  | .host address => address.toList
  | .network subnet => subnet.toList
  | _ => []

private theorem balanced_decimal (n : Nat) : Balanced (decimal n).toList :=
  .of_isHexDigit fun c hc ↦ by
    rw [isHexDigit, isDigit_of_mem_decimal hc]
    rfl

private theorem balanced_signedDecimal (n : Int) : Balanced (signedDecimal n).toList := by
  apply Balanced.of_forall
  intro c hc
  rcases isDigit_of_mem_signedDecimal hc with hd | rfl
  · constructor <;> (rintro rfl; exact absurd hd (by decide))
  · decide

private theorem balanced_octets {sep : String} (hsep : Balanced sep.toList)
    (octets : List UInt8) : Balanced (sep.intercalate (octets.map octetText)).toList := by
  apply balanced_intercalate hsep
  intro t ht
  obtain ⟨octet, -, rfl⟩ := List.mem_map.mp ht
  rw [octetText, String.toList_ofList]
  exact .of_isHexDigit fun c hc ↦ isHexDigit_of_mem_hexDigits hc

private theorem balanced_octetsAt (octets : List UInt8) (offset : Nat) :
    Balanced (octetsAt octets offset).toList := by
  simp only [octetsAt, String.toList_append]
  refine .append (.append (.append (.append (.append ?_ ?_) ?_) ?_) ?_) ?_
  · decide
  · exact balanced_decimal offset
  · decide
  · exact balanced_decimal octets.length
  · decide
  · exact balanced_octets (by decide) octets

/-- The text of a fragment nests as what it repeats. -/
theorem nestAlike_repeated (fragment : Fragment) :
    NestAlike fragment.text.toList fragment.repeated := by
  cases fragment with
  | host address =>
    rw [text, String.toList_append]
    exact Balanced.nestAlike_append (by decide) _
  | network subnet =>
    rw [text, String.toList_append]
    exact Balanced.nestAlike_append (by decide) _
  | tag depth n =>
    simp only [text, String.toList_append]
    refine nestAlike_nil_iff.mpr (.append (.append (.append ?_ ?_) ?_) ?_)
    · decide
    · exact balanced_signedDecimal _
    · decide
    · exact balanced_decimal n
  | named known => exact nestAlike_nil_iff.mpr (by cases known <;> decide)
  | ethertype n =>
    simp only [text, String.toList_append, String.toList_ofList]
    refine nestAlike_nil_iff.mpr (.append ?_ ?_)
    · decide
    · exact .of_isHexDigit fun c hc ↦ isHexDigit_of_mem_hexDigits hc
  | ping =>
    have hparts : ∀ t ∈ pingParts, Balanced t.toList := by decide +kernel
    exact nestAlike_nil_iff.mpr (Balanced.parenthesised (balanced_intercalate (by decide) hparts))
  | ipsec => exact nestAlike_nil_iff.mpr (by decide +kernel)
  | protocol n =>
    rw [text, String.toList_append]
    exact nestAlike_nil_iff.mpr (.append (by decide) (balanced_signedDecimal n))
  | hardware octets =>
    rw [text, String.toList_append]
    exact nestAlike_nil_iff.mpr (.append (by decide) (balanced_octets (by decide) octets))
  | hardwareStart octets =>
    rw [text]
    refine nestAlike_nil_iff.mpr (Balanced.parenthesised (balanced_intercalate (by decide) ?_))
    intro t ht
    obtain ⟨offset, -, rfl⟩ := List.mem_map.mp ht
    exact balanced_octetsAt octets offset
  | port n =>
    rw [text, String.toList_append]
    exact nestAlike_nil_iff.mpr (.append (by decide) (balanced_decimal n))

/-- What is repeated has no parentheses if it can be told from the rest of an expression. -/
theorem balanced_repeated {fragment : Fragment} (h : fragment.Readable) :
    Balanced fragment.repeated := by
  have hword {s : List Char} (hs : isWord s = true) : Balanced s := by
    rw [isWord, Bool.and_eq_true, Bool.and_eq_true, List.all_eq_true] at hs
    apply Balanced.of_forall
    intro c hc
    have hc : c ≠ ' ' ∧ c ≠ '(' ∧ c ≠ ')' := by
      simpa [isWordChar, and_assoc] using hs.1.2 c hc
    exact hc.2
  cases fragment with
  | host address => exact hword h
  | network subnet => exact hword h
  | _ => exact balanced_nil

end Fragment

namespace Criterion

/-- What the fragments of a criterion repeat as it was given. -/
def repeated (c : Criterion) : List Char := c.fragments.flatMap Fragment.repeated

/-- The filter of a criterion nests as what it repeats. -/
theorem nestAlike_repeated (c : Criterion) : NestAlike c.filter.toList c.repeated := by
  have htext (fragment : Fragment) := fragment.nestAlike_repeated
  rw [filter, Fragment.combine]
  split
  · refine nestAlike_intercalate (by decide) fun fragment _ ↦ ?_
    have hnot : Balanced "not ".toList := by decide
    rw [String.toList_append]
    exact (hnot.nestAlike_append _).trans (htext fragment)
  · split
    · exact nestAlike_intercalate (by decide) fun fragment _ ↦ htext fragment
    · exact nestAlike_intercalate (by decide) fun fragment _ ↦ htext fragment

/-- The filter of a criterion matches if no address has a parenthesis in its zone. -/
theorem Built.balanced_filter {c : Criterion} (hb : c.Built) (hl : c.Legible) :
    Balanced c.filter.toList := by
  have hrepeated : ∀ fragment ∈ c.fragments, NestAlike fragment.repeated [] := fun fragment hm ↦
    nestAlike_nil_iff.mpr (Fragment.balanced_repeated (hb.readable hl hm))
  apply c.nestAlike_repeated.balanced_iff.mpr
  rw [repeated]
  generalize c.fragments = fragments at hrepeated
  induction fragments with
  | nil => exact balanced_nil
  | cons fragment rest ih =>
    rw [List.flatMap_cons]
    exact (nestAlike_nil_iff.mp (hrepeated fragment List.mem_cons_self)).append
      (ih fun f hf ↦ hrepeated f (List.mem_cons_of_mem fragment hf))

end Criterion

namespace Expression

/-! ### Expressions -/

/-- Filters joined match if each of them does. -/
theorem balanced_joinFilters {asked : List (Bool × String)}
    (hb : ∀ a ∈ asked, Balanced a.2.toList) : Balanced (joinFilters asked).toList := by
  induction asked using List.reverseRecOn with
  | nil => exact balanced_nil
  | append_singleton front last ih =>
    have hlast : Balanced (group last.2).toList :=
      (hb last (List.mem_append_right front List.mem_cons_self)).group
    by_cases hne : front = []
    · subst hne
      exact hlast
    · have hword : Balanced (if last.1 then " and " else " or ").toList := by
        cases last.1 <;> decide
      rw [joinFilters_concat hne, joinFilter, String.toList_append, String.toList_append]
      exact ((ih fun a ha ↦ hb a (List.mem_append_left [last] ha)).append hword).append hlast

/-- The text of the level of a depth matches if the filters do. -/
theorem Level.balanced_atDepth {cs : List Criterion} (hc : ∀ c ∈ cs, Balanced c.filter.toList)
    (index : Nat) : Balanced (atDepth cs index).text.toList := by
  by_cases hout : LeftOut cs index
  · rw [(atDepth_of_leftOut hout).2]
    exact balanced_nil
  · rw [atDepth_of_not_leftOut hout]
    apply balanced_joinFilters
    intro a ha
    obtain ⟨c, hm, rfl⟩ := List.mem_map.mp ha
    exact hc c (List.mem_filter.mp (List.mem_filter.mp hm).1).1

variable {level : Level}

/-- The text of a clause matches if that of its level does. -/
theorem Clause.balanced_text (h : Balanced level.text.toList) (clause : Clause) :
    Balanced (clause.text level).toList := by
  cases clause with
  | nothing => exact balanced_nil
  | tag => exact (by decide : Balanced "vlan".toList)
  | noTag => exact (by decide : Balanced "not vlan".toList)
  | untagged => exact (by decide +kernel : Balanced untaggedTest.toList)
  | terms => exact h
  | tagAndTerms =>
    rw [Clause.text, Level.grouped, String.toList_append]
    refine .append (by decide) ?_
    split
    · exact h
    · exact h.group

private theorem balanced_operand {s : String} (h : Balanced s.toList) :
    Balanced (operand s).toList := by
  rw [operand]
  split
  · exact h.group
  · exact h

private theorem balanced_word (joint : Joint) : Balanced joint.word.toList := by
  cases joint <;> decide

private theorem balanced_chainAfter {entries : List (Level × String)}
    (h : ∀ entry ∈ entries, Balanced entry.2.toList) (previous : Level) :
    Balanced (chainAfter previous entries).toList := by
  induction entries generalizing previous with
  | nil => exact balanced_nil
  | cons entry rest ih =>
    rw [chainAfter, String.toList_append, String.toList_append]
    exact ((balanced_word _).append (balanced_operand (h entry List.mem_cons_self))).append
      (ih (fun e he ↦ h e (List.mem_cons_of_mem entry he)) entry.1)

/-- A chain matches if its levels do. -/
theorem balanced_chain {entries : List (Level × String)}
    (h : ∀ entry ∈ entries, Balanced entry.2.toList) : Balanced (chain entries).toList := by
  unfold chain
  split
  · exact balanced_nil
  · exact h _ List.mem_cons_self
  · next entry rest _ =>
    rw [String.toList_append]
    exact (balanced_operand (h _ List.mem_cons_self)).append
      (balanced_chainAfter (fun e he ↦ h e (List.mem_cons_of_mem _ he)) _)

/-- Two parts joined match if each of them does. -/
theorem balanced_joinParts (boundary : Joint) {untagged tagged : String}
    (hu : Balanced untagged.toList) (ht : Balanced tagged.toList) :
    Balanced (joinParts boundary untagged tagged).toList := by
  rw [joinParts]
  split
  · exact ht
  · split
    · exact hu
    · rw [String.toList_append, String.toList_append]
      exact (hu.group.append (balanced_word boundary)).append ht.group

/-- What levels are written as matches if their texts do. -/
theorem balanced_assemble (boundary : Joint) {all : List (Level × Clause)}
    (h : ∀ entry ∈ all, Balanced entry.1.text.toList) :
    Balanced (assemble boundary all).toList := by
  have htexts : ∀ entry ∈ all.map entryText, Balanced entry.2.toList := by
    intro entry hm
    obtain ⟨written, ha, rfl⟩ := List.mem_map.mp hm
    exact written.2.balanced_text (h written ha)
  rw [assemble_eq]
  apply balanced_joinParts
  · apply balanced_intercalate (by decide)
    intro t ht
    obtain ⟨entry, hm, rfl⟩ := List.mem_map.mp ht
    exact htexts entry (List.mem_filter.mp hm).1
  · exact balanced_chain fun entry hm ↦ htexts entry (List.mem_filter.mp hm).1

/-- The expression of a preset has no parentheses. -/
theorem balanced_ofPreset {vlan : Bool} {operator : Operator} {e : String}
    (h : ofPreset vlan operator = .ok e) : Balanced e.toList := by
  unfold ofPreset at h
  split at h
  · cases h
    decide
  · cases h
    cases vlan <;> decide
  · split at h
    · cases h
      decide
    · cases h
  · cases h

/-- The expression of criteria matches if their filters do. -/
theorem balanced_compile {vlan : Bool} {cs : List Criterion} {e : String}
    (h : compile vlan cs = .ok e) (hc : ∀ c ∈ cs, Balanced c.filter.toList) :
    Balanced e.toList := by
  have hempty : Balanced "".toList := balanced_nil
  unfold compile at h
  split at h
  · exact balanced_ofPreset h
  · obtain ⟨levels, hl, h⟩ := bind_eq_ok_iff.mp h
    split at h
    · cases h
      exact hempty
    · obtain ⟨text, ht, h⟩ := bind_eq_ok_iff.mp h
      cases h
      obtain ⟨all, hw, rfl⟩ := map_eq_ok_iff.mp ht
      have hlevels : levels = Level.levels cs := by
        unfold levels? at hl
        split at hl
        · cases hl
        · cases hl
          rfl
      subst hlevels
      rw [dropTautology]
      split
      · exact hempty
      · apply balanced_assemble
        intro entry hm
        rw [Level.eq_atDepth (mem_writtenUpTo hw hm).1]
        exact Level.balanced_atDepth hc _

/-- The parentheses of a filter match exactly if those that it repeats from addresses do, as they do
where no zone holds one; and where those of all filters match, those of the expression do. -/
theorem parentheses_match_iff {cs : List Criterion} (hb : ∀ c ∈ cs, c.Built) :
    (∀ c ∈ cs, (Balanced c.filter.toList ↔ Balanced c.repeated) ∧
      (c.Legible → Balanced c.filter.toList)) ∧
    ∀ vlan e, compile vlan cs = .ok e → (∀ c ∈ cs, Balanced c.filter.toList) →
      Balanced e.toList := by
  constructor
  · exact fun c hc ↦ ⟨c.nestAlike_repeated.balanced_iff, (hb c hc).balanced_filter⟩
  · exact fun vlan e h hf ↦ balanced_compile h hf

/-- A subnet and an address with a zone, both to be left out. -/
def zonedAddress : List Criterion :=
  Criterion.accepted .empty [(.packet .address, 0, .noneOf, "10.0.0.0/8 fe80::1%eth0")]

/-- The zone of an address does no harm without a parenthesis. -/
theorem zonedAddress_matches :
    Balanced "(not net 10.0.0.0/8 and not host fe80::1%eth0)".toList := by
  have hb : ∀ c ∈ zonedAddress, c.Built := fun _ hc ↦ .of_mem_accepted hc
  obtain ⟨hfilter, hcompile⟩ := parentheses_match_iff hb
  have hrepeated : ∀ c ∈ zonedAddress, Balanced c.repeated := by decide +kernel
  exact hcompile true _ rfl fun c hc ↦ (hfilter c hc).1.mpr (hrepeated c hc)

/-- An address whose zone is a closing parenthesis. -/
def closingZone : List Criterion :=
  Criterion.accepted .empty [(.packet .address, 0, .anyOf, "fe80::1%)")]

/-- The zone closes a parenthesis that nothing opens, in the filter and in the expression. -/
theorem closingZone_breaks_out :
    (∃ c ∈ closingZone, c.filter = "host fe80::1%)" ∧ ¬ Balanced c.filter.toList) ∧
      compile true closingZone = .ok "(host fe80::1%))" ∧
      ¬ Balanced "(host fe80::1%))".toList :=
  ⟨by decide, rfl, by decide⟩

end Expression

end CaptureFilter
