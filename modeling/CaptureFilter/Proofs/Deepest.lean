import CaptureFilter.Proofs.Inclusion
import Mathlib.Data.Nat.Find

/-!
# Packets of the deepest section

No expression contradicts itself: it lets the packets of the deepest section in, if what each
section asks for holds at its depth. Every clause written down to that section then holds, and the
one that may follow asks for no further tag. How the clauses are joined does not matter, since both
joints hold of what holds on both sides.
Spec guidance: `SPEC_FULL.md` §4.2 step 5 (`_emit`, `_join`).
-/

namespace CaptureFilter.Expression

variable {cs : List Criterion} {p : Packet} {entries : List (Level × Clause)} {n m : Nat}

/-- The number of tags of packets of the deepest section let in, or one if there is none. -/
def deepestTags (cs : List Criterion) : Nat :=
  if ∀ index : Nat, index < 10 → LeftOut cs index then 1
  else Nat.findGreatest (fun index ↦ ¬ LeftOut cs index) 9

/-- The deepest section is let in and no deeper one is, unless all sections are left out. -/
theorem deepestTags_spec (cs : List Criterion) :
    (¬ LeftOut cs (deepestTags cs) ∧ ∀ index, ¬ LeftOut cs index → index ≤ deepestTags cs) ∨
      ((∀ index, LeftOut cs index) ∧ deepestTags cs = 1) := by
  have hlt {index : Nat} (hin : ¬ LeftOut cs index) : index < 10 :=
    Level.lt_of_mentioned (Level.mentioned_of_not_leftOut hin)
  by_cases hall : ∀ index : Nat, index < 10 → LeftOut cs index
  · right
    refine ⟨fun index ↦ ?_, if_pos hall⟩
    by_contra hin
    exact hin (hall index (hlt hin))
  · left
    have hdeepest : deepestTags cs = Nat.findGreatest (fun index ↦ ¬ LeftOut cs index) 9 :=
      if_neg hall
    rw [hdeepest]
    push Not at hall
    obtain ⟨index, hi, hin⟩ := hall
    constructor
    · exact Nat.findGreatest_spec (P := fun index ↦ ¬ LeftOut cs index) (by omega) hin
    · intro other hother
      have := hlt hother
      exact Nat.le_findGreatest (by omega) hother

/-! ### Clauses that hold -/

/-- Clauses that hold of a packet are joined to a chain that does. -/
theorem chainHolds_of_forall (hne : entries ≠ [])
    (h : ∀ entry ∈ entries, entry.2.holds cs p entry.1.index = true) :
    chainHolds cs p entries = true := by
  have hrun (previous : Level) (rest : List (Level × Clause))
      (hr : ∀ entry ∈ rest, entry.2.holds cs p entry.1.index = true) :
      Found (rest.foldl (chainStep cs p) (some (previous, true))) = true := by
    induction rest generalizing previous with
    | nil => rfl
    | cons entry rest ih =>
      rw [List.foldl_cons, chainStep_some, hr entry List.mem_cons_self]
      have hjoint : (joint previous entry.1).holds true true = true := by
        cases joint previous entry.1 <;> rfl
      rw [hjoint]
      exact ih entry.1 fun e he ↦ hr e (List.mem_cons_of_mem entry he)
  cases entries with
  | nil => exact absurd rfl hne
  | cons entry rest =>
    rw [chainHolds, List.foldl_cons, chainStep_none, h entry List.mem_cons_self]
    exact hrun entry.1 rest fun e he ↦ h e (List.mem_cons_of_mem entry he)

section Satisfied

variable (hb : ∀ c ∈ cs, c.Built) (hin : ¬ LeftOut cs p.tags)
  (hmax : ∀ index, ¬ LeftOut cs index → index ≤ p.tags)
  (hs : ∀ index, ¬ LeftOut cs index → sectionHolds cs p index = true)

include hb hin hmax hs

/-- What is written for a tagged level holds of a packet of the deepest section. -/
theorem clause_holds_of_deepest {piece : Piece} (hlast : p.tags ≤ n + (m + 1))
    (hw : Writes true (Level.atDepth cs (n + 1)) (Level.beyond cs (n + 1) m) piece) :
    piece.clause.holds cs p (n + 1) = true := by
  by_cases hle : n + 1 ≤ p.tags
  · rw [holds_of_le_tags hb (Nat.succ_ne_zero n) hle hw]
    · by_cases hout : LeftOut cs (n + 1)
      · simp [hout]
      · simp [hs (n + 1) hout]
    · -- a level that is left out stands above the deepest section
      intro hout
      have hne : n + 1 ≠ p.tags := fun he ↦ hin (he ▸ hout)
      exact Level.exists_included_beyond_iff.mpr ⟨p.tags, by omega, by omega, hin⟩
  · have hout {index : Nat} (hi : n + 1 ≤ index) : LeftOut cs index := by
      by_contra h
      have := hmax index h
      omega
    have he := (Level.excluded_atDepth_iff cs (n + 1)).mpr (hout (Nat.le_refl _))
    rcases hw.of_tagged (by simp) with ⟨-, hb, -⟩ | ⟨-, -, rfl⟩ | ⟨hn, -⟩ | ⟨hn, -⟩
    · obtain ⟨index, hi, -, hindex⟩ := Level.exists_included_beyond_iff.mp hb
      exact absurd (hout (Nat.le_of_lt hi)) hindex
    · -- no further tag is asked for
      exact decide_eq_true (by omega)
    · simp [he] at hn
    · simp [he] at hn

/-- All that is written for tagged levels holds of a packet of the deepest section. -/
theorem holds_of_mem_written (hlast : p.tags ≤ n + m)
    (h : written true (Level.beyond cs n m) = .ok entries) :
    ∀ entry ∈ entries, entry.2.holds cs p entry.1.index = true := by
  induction m generalizing n entries with
  | zero =>
    cases h
    simp
  | succ m ih =>
    rw [Level.beyond_succ] at h
    obtain ⟨piece, hw, hrest⟩ := writtenUpTo_true_cons h
    have hfirst : piece.clause.holds cs p (Level.atDepth cs (n + 1)).index = true := by
      rw [Level.index_atDepth]
      exact clause_holds_of_deepest hb hin hmax hs hlast hw
    rcases hrest with ⟨-, rfl⟩ | ⟨-, rest, hr, rfl⟩
    · simpa using hfirst
    · exact List.forall_mem_cons.mpr ⟨hfirst, ih (by omega) hr⟩

/-- The chain of tagged levels holds of a packet of the deepest section. -/
theorem chainHolds_of_deepest {level : Level} {below : List Level}
    (hlevels : Level.levels cs = level :: below) (hpos : 0 < p.tags)
    (hr : written true below = .ok entries) : chainHolds cs p entries = true := by
  obtain ⟨last, -, hlast, rfl⟩ := Level.exists_below hlevels
  have hle := hlast p.tags (Level.mentioned_of_not_leftOut hin)
  have hmem : Level.atDepth cs p.tags ∈ Level.beyond cs 0 last := Level.mem_beyond hpos (by omega)
  apply chainHolds_of_forall (writtenUpTo_ne_nil (List.ne_nil_of_mem hmem) hr)
  exact holds_of_mem_written hb hin hmax hs (by omega) hr

end Satisfied

/-! ### Expressions -/

/-- If only untagged packets are mentioned, and left out, one tag is asked for. -/
theorem compile_of_all_leftOut (hp : ∀ c ∈ cs, c.isPreset = false) (hne : cs ≠ [])
    (hout : ∀ index, LeftOut cs index) {e : String} (h : compile true cs = .ok e) :
    e = "vlan" := by
  have honly : ∀ index, Mentioned cs index → index = 0 := by
    by_contra hn
    have hnothing : LeavesNothing true cs :=
      ⟨hp, hne, hout 0, fun index _ ↦ hout index, fun h ↦ hn h.2⟩
    rw [error_of_leavesNothing hnothing] at h
    cases h
  cases hlevels : Level.levels cs with
  | nil => exact absurd ((levels_eq_nil_iff hp).mp hlevels) hne
  | cons level below =>
    obtain rfl : below = [] := (below_eq_nil_iff hlevels).mpr honly
    obtain ⟨rfl, -⟩ := head_of_levels hlevels
    have he := (Level.excluded_atDepth_iff cs 0).mpr (hout 0)
    have hw : Writes true (Level.atDepth cs 0) [] ⟨.tag, true⟩ := .anyTag he (by simp) rfl rfl
    have htext (boundary : Joint) :
        assemble boundary [(Level.atDepth cs 0, .tag)] = "vlan" := by
      simp [assemble, joinParts, chain, Clause.text]
    rw [compile_of_no_preset hp, emit, hlevels, written,
      writtenUpTo_of_writes (.inr rfl) hw] at h
    cases h
    rw [htext]
    decide

section Criteria

variable (hb : ∀ c ∈ cs, c.Built) (hl : ∀ c ∈ cs, c.Legible)
  (hp : ∀ c ∈ cs, c.isPreset = false)

include hb hl hp

/-- An expression lets a packet of the deepest section in that all sections hold of. -/
theorem letsIn_of_deepest (hne : cs ≠ []) {e : String} (h : compile true cs = .ok e)
    (ht : p.tags = deepestTags cs)
    (hs : ∀ index, ¬ LeftOut cs index → sectionHolds cs p index = true)
    (hu : p.tags = 0 →
      (p.truth 0 "ether proto 0x8100" || p.truth 0 "ether proto 0x88a8") = false) :
    letsIn (Formula.ofText? e) p = true := by
  rcases deepestTags_spec cs with ⟨hin, hmax⟩ | ⟨hout, hone⟩
  · rw [← ht] at hin hmax
    rcases Nat.eq_zero_or_pos p.tags with h0 | hpos
    · rw [h0] at hin
      exact letsIn_of_untagged hb hl hp h hin h0 (hs 0 hin) (hu h0)
    · obtain ⟨_, _, _, hlevels, hr, hor⟩ := exists_letsIn_eq_or hb hl hp ⟨p.tags, hpos, hin⟩ h
      rw [hor p hu, chainHolds_of_deepest hb hin hmax hs hlevels hpos hr, Bool.or_true]
  · have hread : Formula.ofText? "vlan" = some .vlan := by decide
    rw [compile_of_all_leftOut hp hne hout h, hread]
    exact decide_eq_true (by omega)

end Criteria

/-- An expression is empty or holds of every packet of the deepest section for which what each
section asks for holds at the section's depth. -/
theorem deepest_let_in {cs : List Criterion} (hb : ∀ c ∈ cs, c.Built) (hl : ∀ c ∈ cs, c.Legible)
    (hp : ∀ c ∈ cs, c.isPreset = false) (hne : cs ≠ []) {e : String}
    (h : compile true cs = .ok e) {p : Packet} (ht : p.tags = deepestTags cs)
    (hs : ∀ index, ¬ LeftOut cs index → sectionHolds cs p index = true)
    (hu : p.tags = 0 →
      (p.truth 0 "ether proto 0x8100" || p.truth 0 "ether proto 0x88a8") = false) :
    e = "" ∨ ∃ f, Formula.ofText? e = some f ∧ f.holds p 0 = true := by
  by_cases he : e = ""
  · exact .inl he
  · obtain ⟨f, -, hf⟩ := compile_reads_as_formula hb hl hp h he
    have hin := letsIn_of_deepest hb hl hp hne h ht hs hu
    rw [hf] at hin
    exact .inr ⟨f, hf, hin⟩

/-- A port that must not be there, one behind a tag together with its neighbours, and a number of
the third tag; two and four tags are left out. -/
def stepsDown : List Criterion :=
  Criterion.accepted .empty
    [(.packet .port, 0, .noneOf, "22"), (.packet .port, 1, .anyOf, "80"),
      (.disposition, 1, .allOf, ""), (.disposition, 2, .none, ""), (.packet .vlan, 3, .anyOf, "7"),
      (.disposition, 4, .none, "")]

/-- A packet with three tags gets past the section left out above it and the one below. -/
theorem stepsDown_let_in :
    deepestTags stepsDown = 3 ∧
      ∃ f, Formula.ofText? ("(not port 22) or ((vlan and (port 80)) and vlan and " ++
          "(vlan and (ether[22:2] & 0x0fff = 7)) and not vlan)") = some f ∧
        f.holds ⟨3, fun before _ ↦ 0 < before⟩ 0 = true := by
  have hkind : ∀ c ∈ stepsDown, c.kind ≠ .packet .address := by decide
  have hs : ∀ index < 10, ¬ LeftOut stepsDown index →
      sectionHolds stepsDown ⟨3, fun before _ ↦ 0 < before⟩ index = true := by decide
  have hdeepest : deepestTags stepsDown = 3 := by decide
  refine ⟨hdeepest, ?_⟩
  have hin := deepest_let_in (fun _ hc ↦ .of_mem_accepted hc)
    (fun c hc ↦ Criterion.legible_of_kind (hkind c hc)) (by decide) (by decide) rfl hdeepest.symm
    (fun index hi ↦ hs index (Level.lt_of_mentioned (Level.mentioned_of_not_leftOut hi)) hi)
    (fun h ↦ nomatch h)
  exact hin.resolve_left (by decide)

end CaptureFilter.Expression
