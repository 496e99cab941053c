import CaptureFilter.Proofs.Fidelity
import CaptureFilter.Proofs.Packets

/-!
# Packets that are left out

A section that is left out keeps the packets of its depth from being let in, provided that the
untagged section asks for nothing. The chain steps over the section's tag, and whatever follows asks
for another; or it ends by asking for no further tag.
Spec guidance: `SPEC_FULL.md` §4.2 step 5 (excluded sections).
-/

namespace CaptureFilter.Expression

variable {cs : List Criterion} {p : Packet} {level previous : Level} {below levels : List Level}
  {entries all : List (Level × Clause)} {stops : Piece → Bool} {truth : Bool} {n : Nat}

/-! ### Chains -/

/-- A level that is left out is joined by `and` to the one before it. -/
theorem joint_of_excluded (h : level.excluded = true) : joint previous level = .conj := by
  rw [joint, if_pos (by rw [h, Bool.true_or])]

/-- What follows a level that is left out is joined to it by `and`. -/
theorem joint_behind_excluded (h : previous.excluded = true) :
    joint previous level = .conj := by
  rw [joint, if_pos (by rw [h, Bool.or_true])]

private theorem joint_holds_false (joint : Joint) : joint.holds false false = false := by
  cases joint <;> rfl

/-- A level beyond the tags of a packet lets it in only by ending the chain. -/
theorem holds_beyond_tags {piece : Piece} (hw : Writes true level below piece)
    (hi : p.tags < level.index) :
    piece.clause.holds cs p level.index = false ∨
      (level.excluded = true ∧ ∀ l ∈ below, l.excluded = true) := by
  have hn : decide (level.index ≤ p.tags) = false := decide_eq_false (by omega)
  rcases hw.of_tagged (by omega) with ⟨-, -, rfl⟩ | ⟨he, hb, -⟩ | ⟨-, -, rfl⟩ | ⟨-, -, rfl⟩
  · exact .inl hn
  · exact .inr ⟨he, hb⟩
  · exact .inl hn
  · rw [Clause.holds, hn]
    exact .inl rfl

/-- A chain that does not let a packet in goes on so, once the packet has no more tags. -/
theorem found_beyond_tags (hc : Consecutive (n + 1) levels) (hn : p.tags ≤ n)
    (h : writtenUpTo stops true levels = .ok entries) :
    Found (entries.foldl (chainStep cs p) (some (previous, false))) = false := by
  induction levels generalizing n previous entries with
  | nil =>
    cases h
    rfl
  | cons level below ih =>
    have hlt : p.tags < level.index := by
      rw [hc.1]
      omega
    obtain ⟨piece, hw, hrest⟩ := writtenUpTo_true_cons h
    have hstep : chainStep cs p (some (previous, false)) (level, piece.clause) =
        some (level, false) := by
      rw [chainStep_some]
      rcases holds_beyond_tags hw hlt with hholds | ⟨he, -⟩
      · rw [hholds, joint_holds_false]
      · -- no further tag is asked for, but together with what has not been found before
        rw [joint_of_excluded he]
        rfl
    rcases hrest with ⟨-, rfl⟩ | ⟨-, rest, hr, rfl⟩
    · rw [List.foldl_cons, hstep]
      rfl
    · rw [List.foldl_cons, hstep]
      exact ih hc.2 (by omega) hr

/-- Behind a level that is stepped over another tag is asked for. -/
theorem found_behind_excluded (hp : previous.excluded = true) (hc : Consecutive (n + 1) levels)
    (hn : p.tags ≤ n) (hb : ∃ l ∈ levels, l.excluded = false)
    (h : writtenUpTo stops true levels = .ok entries) :
    Found (entries.foldl (chainStep cs p) (some (previous, truth))) = false := by
  obtain ⟨l, hl, hle⟩ := hb
  cases levels with
  | nil => exact absurd hl List.not_mem_nil
  | cons level below =>
    have hlt : p.tags < level.index := by
      rw [hc.1]
      omega
    obtain ⟨piece, hw, hrest⟩ := writtenUpTo_true_cons h
    have hstep : chainStep cs p (some (previous, truth)) (level, piece.clause) =
        some (level, false) := by
      rw [chainStep_some, joint_behind_excluded hp]
      rcases holds_beyond_tags hw hlt with hholds | ⟨he, hbelow⟩
      · rw [hholds, Joint.holds, Bool.and_false]
      · -- a level is let in, so that the chain does not end here
        rcases List.mem_cons.mp hl with rfl | hm
        · rw [he] at hle
          cases hle
        · rw [hbelow l hm] at hle
          cases hle
    rcases hrest with ⟨-, rfl⟩ | ⟨-, rest, hr, rfl⟩
    · rw [List.foldl_cons, hstep]
      rfl
    · rw [List.foldl_cons, hstep]
      exact found_beyond_tags hc.2 (by omega) hr

private theorem exists_deeper_of_ne {d : Nat} (hne : level.index ≠ d)
    (hm : ∃ l ∈ level :: below, l.index = d ∧ l.excluded = true) :
    ∃ l ∈ below, l.index = d ∧ l.excluded = true := by
  obtain ⟨l, hl, hld, hle⟩ := hm
  rcases List.mem_cons.mp hl with rfl | hl
  · exact absurd hld hne
  · exact ⟨l, hl, hld, hle⟩

private theorem exists_deeper {d : Nat} (hc : Consecutive n (level :: below))
    (he : level.excluded = false)
    (hm : ∃ l ∈ level :: below, l.index = d ∧ l.excluded = true) :
    n < d ∧ ∃ l ∈ below, l.index = d ∧ l.excluded = true := by
  obtain ⟨l, hl, rfl, hle⟩ := hm
  rcases List.mem_cons.mp hl with rfl | hl
  · rw [he] at hle
    cases hle
  · exact ⟨hc.2.le_index l hl, l, hl, rfl, hle⟩

private theorem found_noTag (he : level.excluded = true) (hle : level.index ≤ p.tags)
    (found : Option (Level × Bool)) : Found (chainStep cs p found (level, .noTag)) = false := by
  have hno : decide (p.tags < level.index) = false := decide_eq_false (by omega)
  cases found with
  | none =>
    rw [chainStep_none, Clause.holds, hno]
    rfl
  | some found =>
    rw [chainStep_some, joint_of_excluded he, Clause.holds, hno, Joint.holds, Bool.and_false]
    rfl

/-- A tagged level that is left out keeps the packets of its depth from being let in. -/
theorem found_at_excluded {d : Nat} {found : Option (Level × Bool)} (ht : p.tags = d)
    (hc : Consecutive (n + 1) levels) (hn : n < d)
    (hm : ∃ l ∈ levels, l.index = d ∧ l.excluded = true) (h : written true levels = .ok entries) :
    Found (entries.foldl (chainStep cs p) found) = false := by
  induction levels generalizing n found entries with
  | nil =>
    obtain ⟨l, hl, -⟩ := hm
    exact absurd hl List.not_mem_nil
  | cons level below ih =>
    rw [written] at h
    obtain ⟨piece, hw, hrest⟩ := writtenUpTo_true_cons h
    have hi : level.index = n + 1 := hc.1
    rcases hw.of_tagged (by omega) with
      ⟨he, hb, rfl⟩ | ⟨he, -, rfl⟩ | ⟨he, -, rfl⟩ | ⟨he, -, rfl⟩
    · -- the level is stepped over
      rcases hrest with ⟨hs, -⟩ | ⟨-, rest, hr, rfl⟩
      · cases hs
      · rw [List.foldl_cons]
        by_cases hd : n + 1 = d
        · exact found_behind_excluded he hc.2 (by omega) hb hr
        · have hne : level.index ≠ d := by
            rw [hi]
            exact hd
          exact ih hc.2 (by omega) (exists_deeper_of_ne hne hm) hr
    · -- the packet has the tag that must not be there
      rcases hrest with ⟨-, rfl⟩ | ⟨hs, -⟩
      · exact found_noTag he (by omega) found
      · cases hs
    · obtain ⟨hd, hdeeper⟩ := exists_deeper hc he hm
      rcases hrest with ⟨hs, -⟩ | ⟨-, rest, hr, rfl⟩
      · -- the chain does not stop above a level that is left out
        obtain ⟨l, hl, -, hle⟩ := hdeeper
        have hall := List.all_eq_true.mp hs l hl
        rw [hle] at hall
        cases hall
      · rw [List.foldl_cons]
        exact ih hc.2 hd hdeeper hr
    · obtain ⟨hd, hdeeper⟩ := exists_deeper hc he hm
      rcases hrest with ⟨hs, -⟩ | ⟨-, rest, hr, rfl⟩
      · cases hs
      · rw [List.foldl_cons]
        exact ih hc.2 hd hdeeper hr

/-- A chain begins as it would go on behind a level that is left out. -/
theorem chainHolds_eq_found (hp : previous.excluded = true) (hne : entries ≠ []) :
    chainHolds cs p entries = Found (entries.foldl (chainStep cs p) (some (previous, true))) := by
  cases entries with
  | nil => exact absurd rfl hne
  | cons entry rest =>
    rw [chainHolds, List.foldl_cons, List.foldl_cons, chainStep_none, chainStep_some,
      joint_behind_excluded hp, Joint.holds, Bool.true_and]

/-- If untagged packets are left out and others are let in, the chain asks for a tag. -/
theorem chainHolds_of_no_tag (hp : previous.excluded = true) (hc : Consecutive 1 levels)
    (ht : p.tags = 0) (hb : ∃ l ∈ levels, l.excluded = false)
    (h : writtenUpTo stops true levels = .ok entries) : chainHolds cs p entries = false := by
  have hne : entries ≠ [] := writtenUpTo_ne_nil (List.ne_nil_of_mem hb.choose_spec.1) h
  rw [chainHolds_eq_found hp hne]
  exact found_behind_excluded hp hc (Nat.le_of_eq ht) hb h

/-! ### Expressions -/

/-- The untagged level alone lets in what its clause does. -/
theorem letsIn_single {first : Level × Clause} (h0 : first.1.index = 0)
    (boundary : Joint) :
    letsIn (assembleFormula? cs boundary [first]) p =
      (first.2.formula? (sectionFormula? 0 cs)).elim true (·.holds p 0) := by
  rw [assembleFormula?_cons boundary h0 (fun entry hm ↦ absurd hm List.not_mem_nil),
    entryFormula?, h0, Option.map_map]
  cases first.2.formula? (sectionFormula? 0 cs) <;> rfl

private theorem letsIn_levels_eq_false {d : Nat} (hc : Consecutive 0 (level :: below))
    (hs : ∀ l ∈ level :: below, l.excluded = false → l.Says (sectionFormula? l.index cs))
    (h0 : level.excluded = false → level.text = "") (ht : p.tags = d)
    (hm : ∃ l ∈ level :: below, l.index = d ∧ l.excluded = true)
    (hu : (p.truth 0 "ether proto 0x8100" || p.truth 0 "ether proto 0x88a8") =
      decide (0 < p.tags))
    (h : written true (level :: below) = .ok all) (boundary : Joint) :
    letsIn (assembleFormula? cs boundary all) p = false := by
  have hi : level.index = 0 := hc.1
  have hsbelow := fun l (hl : l ∈ below) ↦ hs l (List.mem_cons_of_mem level hl)
  rw [written] at h
  obtain ⟨piece, hw, hrest⟩ := writtenUpTo_true_cons h
  rcases hw.of_untagged hi with
    ⟨he, hb, rfl⟩ | ⟨-, hb, rfl⟩ | ⟨he, -, hb, rfl⟩ | ⟨he, -, -, rfl⟩ | ⟨he, htext, -⟩
  · -- nothing is written for the untagged level
    rcases hrest with ⟨hlast, -⟩ | ⟨-, rest, hr, rfl⟩
    · cases hlast
    · have hne : below ≠ [] := List.ne_nil_of_mem hb.choose_spec.1
      rw [letsIn_assembleFormula? hi (by intro f hf; cases hf) hc.2 hsbelow hr hne]
      by_cases hd : d = 0
      · exact chainHolds_of_no_tag he hc.2 (by omega) hb hr
      · have hdeeper := exists_deeper_of_ne (by omega) hm
        exact found_at_excluded ht hc.2 (Nat.pos_of_ne_zero hd) hdeeper hr
  · -- a tag is asked for, and there is no deeper section
    rcases hrest with ⟨-, rfl⟩ | ⟨hlast, -⟩
    · rw [letsIn_single hi]
      have hd : ¬ 0 < p.tags := by
        intro hd
        obtain ⟨l, hl, -⟩ := exists_deeper_of_ne (by omega) hm
        rw [hb] at hl
        exact absurd hl List.not_mem_nil
      exact decide_eq_false hd
    · cases hlast
  · -- untagged packets are told from tagged ones
    rcases hrest with ⟨hlast, -⟩ | ⟨-, rest, hr, rfl⟩
    · cases hlast
    · obtain ⟨hd, hdeeper⟩ := exists_deeper hc he hm
      have hne : below ≠ [] := List.ne_nil_of_mem hb.choose_spec.1
      rw [letsIn_assembleFormula? hi (by intro f hf; cases hf; rfl) hc.2 hsbelow hr hne]
      have hchain : chainHolds cs p rest = false := found_at_excluded ht hc.2 hd hdeeper hr
      have htest : (!p.truth 0 "ether proto 0x8100" && !p.truth 0 "ether proto 0x88a8") =
          false := by
        rw [← Bool.not_or, hu, decide_eq_true (by omega)]
        rfl
      rw [hchain]
      change boundary.holds (!p.truth 0 _ && !p.truth 0 _) false = false
      rw [htest, joint_holds_false]
  · -- no tag is asked for
    rcases hrest with ⟨-, rfl⟩ | ⟨hlast, -⟩
    · rw [letsIn_single hi]
      obtain ⟨hd, -⟩ := exists_deeper hc he hm
      change (!decide (0 < p.tags)) = false
      rw [decide_eq_true (by omega)]
      rfl
    · cases hlast
  · exact absurd (h0 he) htext

/-- What the levels of criteria are written as does not let in the packets of a depth that is left
out, unless something is asked for in the untagged section. -/
theorem letsIn_eq_false (hb : ∀ c ∈ cs, c.Built) {d k : Nat} (hk : Mentioned cs k) (hdk : d ≤ k)
    (hd : LeftOut cs d) (ht : p.tags = d) (h0 : LeftOut cs 0 ∨ sectionFormula? 0 cs = none)
    (hu : (p.truth 0 "ether proto 0x8100" || p.truth 0 "ether proto 0x88a8") =
      decide (0 < p.tags))
    (h : written true (Level.levels cs) = .ok all) (boundary : Joint) :
    letsIn (assembleFormula? cs boundary all) p = false := by
  have hc := consecutive_levels cs
  have hs := fun level (hm : level ∈ Level.levels cs) ↦ Level.says_of_mem_levels hb hm
  obtain ⟨bound, hlevels, hbound, -⟩ := Level.exists_levels cs
  have hmem {index : Nat} (hi : index ≤ k) : Level.atDepth cs index ∈ Level.levels cs := by
    rw [hlevels]
    exact List.mem_map_of_mem (List.mem_range.mpr (Nat.lt_of_le_of_lt hi (hbound k hk)))
  cases hl : Level.levels cs with
  | nil =>
    have hd := hmem hdk
    rw [hl] at hd
    exact absurd hd List.not_mem_nil
  | cons level below =>
    have hm : level ∈ Level.levels cs := by
      rw [hl]
      exact List.mem_cons_self
    rw [hl] at hc
    obtain ⟨hlevel, -⟩ := head_of_levels hl
    have htext (he : level.excluded = false) : level.text = "" := by
      have hin : ¬ LeftOut cs 0 := by
        intro hout
        rw [hlevel, (Level.excluded_atDepth_iff cs 0).mpr hout] at he
        cases he
      have hasked := hs level hm he
      rw [hlevel, Level.index_atDepth] at hasked
      rw [hlevel]
      exact hasked.mpr (h0.resolve_left hin)
    rw [hl] at hs h
    refine letsIn_levels_eq_false hc hs htext ht ⟨Level.atDepth cs d, ?_, ?_, ?_⟩ hu h boundary
    · rw [← hl]
      exact hmem hdk
    · exact Level.index_atDepth cs d
    · exact (Level.excluded_atDepth_iff cs d).mpr hd

/-- The expression for untagged or tagged packets lets a packet in, if untagged packets do not have
the ethertypes of tags. -/
theorem letsIn_untaggedOrTagged
    (hu : p.tags = 0 →
      (p.truth 0 "ether proto 0x8100" || p.truth 0 "ether proto 0x88a8") = false) :
    letsIn (Formula.ofText? ("(" ++ untaggedTest ++ ") or (vlan)")) p = true := by
  have hf : Formula.ofText? ("(" ++ untaggedTest ++ ") or (vlan)") =
      some (.disj (.conj (.neg (.atom "ether proto 0x8100")) (.neg (.atom "ether proto 0x88a8")))
        .vlan) := by decide
  rw [hf]
  change (!p.truth 0 _ && !p.truth 0 _ || decide (0 < p.tags)) = true
  rw [← Bool.not_or]
  by_cases ht : p.tags = 0
  · rw [hu ht]
    rfl
  · rw [decide_eq_true (Nat.pos_of_ne_zero ht), Bool.or_true]

private theorem letsIn_tautology
    (hu : (p.truth 0 "ether proto 0x8100" || p.truth 0 "ether proto 0x88a8") =
      decide (0 < p.tags)) :
    letsIn (Formula.ofText? ("(" ++ untaggedTest ++ ") or (vlan)")) p = true := by
  apply letsIn_untaggedOrTagged
  intro ht
  rw [hu, ht]
  rfl

/-- If the untagged section is left out or asks for nothing, no packet with as many tags as a
section that is left out is deep is let in, down to the deepest section mentioned. -/
theorem left_out_not_let_in {cs : List Criterion} (hb : ∀ c ∈ cs, c.Built)
    (hl : ∀ c ∈ cs, c.Legible) (hp : ∀ c ∈ cs, c.isPreset = false) {e : String}
    (h : compile true cs = .ok e)
    (h0 : LeftOut cs 0 ∨ ∀ c ∈ Level.criteriaAt 0 cs, c.filter = "")
    {d k : Nat} (hk : Mentioned cs k) (hdk : d ≤ k) (hd : LeftOut cs d) {p : Packet}
    (ht : p.tags = d)
    (hu : (p.truth 0 "ether proto 0x8100" || p.truth 0 "ether proto 0x88a8") =
      decide (0 < p.tags)) :
    letsIn (Formula.ofText? e) p = false := by
  rw [compile_of_no_preset hp, emit] at h
  obtain ⟨text, htext, rfl⟩ := map_eq_ok_iff.mp h
  obtain ⟨all, hw, rfl⟩ := map_eq_ok_iff.mp htext
  have hout : letsIn (Formula.ofText? (assemble (boundary (Level.levels cs)) all)) p = false := by
    rw [ofText?_assemble hb hl hw]
    exact letsIn_eq_false hb hk hdk hd ht (h0.imp_right sectionFormula?_eq_none) hu hw _
  rw [dropTautology]
  split
  · -- the expression that is dropped lets every packet in
    next hdrop =>
    rw [hdrop, letsIn_tautology hu] at hout
    cases hout
  · exact hout

/-- One tag is left out by a decision, and behind two tags a number is asked for. -/
def innerTag : List Criterion :=
  Criterion.accepted .empty [(.disposition, 1, .none, ""), (.packet .vlan, 2, .allOf, "7")]

/-- A packet with one tag is left out, whatever else holds of it. -/
theorem innerTag_not_let_in :
    letsIn (Formula.ofText? "vlan and (vlan and (ether[18:2] & 0x0fff = 7))")
      ⟨1, fun _ _ ↦ true⟩ = false := by
  have hkind : ∀ c ∈ innerTag, c.kind ≠ .packet .address := by decide
  have hl : ∀ c ∈ innerTag, c.Legible := fun c hc ↦ Criterion.legible_of_kind (hkind c hc)
  have hk : Mentioned innerTag 2 := List.cons_ne_nil _ _
  have hd : LeftOut innerTag 1 := .inr ⟨_, List.mem_cons_self, rfl, rfl⟩
  exact left_out_not_let_in (fun _ hc ↦ .of_mem_accepted hc) hl (by decide) rfl (.inl (.inl rfl)) hk
    (by decide) hd rfl rfl

end CaptureFilter.Expression
