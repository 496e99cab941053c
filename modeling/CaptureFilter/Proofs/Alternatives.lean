import CaptureFilter.Proofs.Exclusion
import CaptureFilter.Proofs.Refusals

/-!
# Untagged packets as an alternative

Where a tagged section is let in, an expression lets a packet in by what it asks of untagged packets
or by its chain of tagged levels. What it asks of untagged packets does not ask for the packet to be
untagged. A packet of a depth that is left out is therefore let in exactly if this part holds of it,
looked at in front of its tags.
Spec guidance: `SPEC_FULL.md` §3 (`Section`) and §4.2 step 5 (`_emit`).
-/

namespace CaptureFilter.Expression

/-! ### Packets -/

/-- The names of comparisons of what stands behind the tags. -/
def innerNames : List String := ["ip", "ip6", "arp"]

/-- The beginnings of comparisons of what stands behind the tags. -/
def innerStarts : List String := ["host ", "net ", "port ", "proto ", "ether proto "]

/-- Whether a comparison is one of what stands behind the tags. -/
def isInner (text : String) : Bool :=
  innerNames.contains text || innerStarts.any fun start ↦ start.toList.isPrefixOf text.toList

/-- What stands behind the tags is found only behind all of them. -/
def Packet.Layered (p : Packet) : Prop :=
  ∀ before text, isInner text = true → p.truth before text = true → p.tags = before

/-- A packet of which one comparison holds, behind all of its tags. -/
def Packet.behind (tags : Nat) (text : String) : Packet :=
  ⟨tags, fun before other ↦ before == tags && other == text⟩

/-- A comparison that holds behind all tags is found only there. -/
theorem Packet.layered_behind (tags : Nat) (text : String) : (behind tags text).Layered := by
  intro before other _ h
  rw [behind, Bool.and_eq_true, beq_iff_eq] at h
  exact h.1.symm

variable {cs : List Criterion} {p : Packet} {f : Formula} {truth : Bool}

/-! ### The two parts -/

/-- Dropping the expression for untagged or tagged packets does not change what is let in, if
untagged packets do not have the ethertypes of tags. -/
theorem letsIn_dropTautology
    (hu : p.tags = 0 →
      (p.truth 0 "ether proto 0x8100" || p.truth 0 "ether proto 0x88a8") = false)
    (text : String) :
    letsIn (Formula.ofText? (dropTautology text)) p = letsIn (Formula.ofText? text) p := by
  rw [dropTautology]
  split
  · next hdrop =>
    rw [hdrop, letsIn_untaggedOrTagged hu]
    rfl
  · rfl

section Criteria

variable (hb : ∀ c ∈ cs, c.Built) (hl : ∀ c ∈ cs, c.Legible)
  (hp : ∀ c ∈ cs, c.isPreset = false)

include hb hl hp

/-- An expression lets a packet in by its untagged part or by its chain, if a tagged section is let
in. -/
theorem exists_letsIn_eq_or (hin : ∃ index, 0 < index ∧ ¬ LeftOut cs index) {e : String}
    (h : compile true cs = .ok e) :
    ∃ level below entries, Level.levels cs = level :: below ∧
      written true below = .ok entries ∧
      ∀ p : Packet, (p.tags = 0 →
          (p.truth 0 "ether proto 0x8100" || p.truth 0 "ether proto 0x88a8") = false) →
        letsIn (Formula.ofText? e) p = (untaggedHolds cs p || chainHolds cs p entries) := by
  rw [compile_of_no_preset hp, emit] at h
  obtain ⟨text, ht, rfl⟩ := map_eq_ok_iff.mp h
  obtain ⟨all, hw, rfl⟩ := map_eq_ok_iff.mp ht
  cases hlevels : Level.levels cs with
  | nil =>
    obtain ⟨index, -, hindex⟩ := hin
    exact absurd hlevels (Level.levels_ne_nil (Level.mentioned_of_not_leftOut hindex))
  | cons level below =>
    have hbelow := (Level.exists_tagged_included_iff hlevels).mpr hin
    have hi : level.index = 0 := by
      rw [(head_of_levels hlevels).1, Level.index_atDepth]
    have hw' := hw
    rw [hlevels, written] at hw'
    obtain ⟨piece, hpiece, ⟨hlast, -⟩ | ⟨-, entries, hr, rfl⟩⟩ := writtenUpTo_true_cons hw'
    · rw [hpiece.last_of_untagged hi hbelow] at hlast
      cases hlast
    · refine ⟨level, below, entries, rfl, hr, fun p hu ↦ ?_⟩
      rw [← hlevels, letsIn_dropTautology hu, ofText?_assemble hb hl hw]
      exact letsIn_eq_or hb hlevels hpiece hbelow hr

/-- A packet of a depth that is left out is let in as what the untagged section asks for holds of
it. -/
theorem letsIn_at_leftOut (hin : ∃ index, 0 < index ∧ ¬ LeftOut cs index) {e : String}
    (h : compile true cs = .ok e) {d k : Nat} (hd : 0 < d) (hk : Mentioned cs k) (hdk : d ≤ k)
    (hout : LeftOut cs d) (ht : p.tags = d) :
    letsIn (Formula.ofText? e) p = untaggedHolds cs p := by
  obtain ⟨level, below, entries, hlevels, hr, hor⟩ := exists_letsIn_eq_or hb hl hp hin h
  obtain ⟨deepest, -, hmax, hbelow⟩ := Level.exists_below hlevels
  have hexcluded : ∃ l ∈ below, l.index = d ∧ l.excluded = true := by
    have hle := hmax k hk
    rw [hbelow]
    exact ⟨Level.atDepth cs d, List.mem_map_of_mem (List.mem_range'_1.mpr (by omega)),
      Level.index_atDepth cs d, (Level.excluded_atDepth_iff cs d).mpr hout⟩
  have hchain : chainHolds cs p entries = false :=
    found_at_excluded ht (head_of_levels hlevels).2 hd hexcluded hr
  rw [hor p (by omega), hchain, Bool.or_false]

end Criteria

/-! ### What the untagged section asks for -/

namespace Formula

/-- A formula without a negation. -/
def positive : Formula → Bool
  | .atom _ => true
  | .neg _ => false
  | .conj f g | .disj f g => f.positive && g.positive

/-- A formula without a negation does not hold where none of its comparisons does. -/
theorem holds_eq_false_of_positive {before : Nat} (hf : f.positive = true)
    (h : ∀ text ∈ f.texts, text ≠ "vlan" ∧ p.truth before text = false) :
    f.holds p before = false := by
  induction f with
  | atom text =>
    obtain ⟨hne, ht⟩ := h text List.mem_cons_self
    rw [holds, if_neg hne, ht]
  | neg f => cases hf
  | conj f g ihf ihg =>
    rw [positive, Bool.and_eq_true] at hf
    have hleft := ihf hf.1 fun text ht ↦
      h text (by rw [← Joint.join, texts_join]; exact List.mem_append_left _ ht)
    rw [holds, hleft, Bool.false_and]
  | disj f g ihf ihg =>
    rw [positive, Bool.and_eq_true] at hf
    have htexts : (Formula.disj f g).texts = f.texts ++ g.texts := texts_join .disj f g
    rw [htexts] at h
    have hdepth : f.depth = 0 := by
      rw [depth_eq_count, List.count_eq_zero]
      exact fun hv ↦ (h "vlan" (List.mem_append_left _ hv)).1 rfl
    rw [holds, ihf hf.1 fun text ht ↦ h text (List.mem_append_left _ ht), hdepth, Nat.add_zero,
      ihg hf.2 fun text ht ↦ h text (List.mem_append_right _ ht), Bool.false_or]

end Formula

/-- A formula asks for no tag, and has a truth value in front of all tags. -/
def Settled (p : Packet) (truth : Bool) (f : Formula) : Prop :=
  f.depth = 0 ∧ f.holds p 0 = truth

/-- Joining formulas that agree keeps what they agree on. -/
theorem Settled.join {f g : Formula} (hf : Settled p truth f) (hg : Settled p truth g)
    (joint : Joint) : Settled p truth (joint.join f g) := by
  refine ⟨?_, ?_⟩
  · rw [Formula.depth_join, hf.1, hg.1]
  · rw [Formula.holds_join, hf.1, hf.2, Nat.add_zero, hg.2]
    cases joint <;> cases truth <;> rfl

private theorem settled_joined? {joint : Joint} {formulas : List Formula}
    (h : ∀ f ∈ formulas, Settled p truth f) (hj : Formula.joined? joint formulas = some f) :
    Settled p truth f := by
  cases formulas with
  | nil => cases hj
  | cons g rest =>
    cases hj
    obtain ⟨hg, hrest⟩ := List.forall_mem_cons.mp h
    clear h
    induction rest generalizing g with
    | nil => exact hg
    | cons f rest ih =>
      obtain ⟨hf, hothers⟩ := List.forall_mem_cons.mp hrest
      exact ih (joint.join g f) (hg.join hf joint) hothers

/-- A fragment does not hold of a packet where none of its comparisons does. -/
theorem settled_fragment {fragment : Fragment}
    (h : ∀ text ∈ fragment.formula.texts, p.truth 0 text = false) :
    Settled p false fragment.formula := by
  have hvlan := fragment.vlan_not_mem_texts
  refine ⟨?_, Formula.holds_eq_false_of_positive ?_ fun text ht ↦ ⟨?_, h text ht⟩⟩
  · rw [Formula.depth_eq_count, List.count_eq_zero]
    exact hvlan
  · cases fragment <;> rfl
  · rintro rfl
    exact hvlan ht

/-- A criterion that does not exclude holds of no packet that none of its comparisons holds of, and
one that does holds of it. -/
theorem settled_criterion {c : Criterion}
    (h : ∀ fragment ∈ c.fragments, ∀ text ∈ fragment.formula.texts, p.truth 0 text = false)
    (hf : c.formula? = some f) : Settled p c.operator.excludes f := by
  have hfragments : ∀ f ∈ c.fragments.map Fragment.formula, Settled p false f := by
    intro f hm
    obtain ⟨fragment, hfragment, rfl⟩ := List.mem_map.mp hm
    exact settled_fragment (h fragment hfragment)
  unfold Criterion.formula? at hf
  dsimp only at hf
  split at hf
  · next he =>
    rw [he]
    refine settled_joined? (fun g hm ↦ ?_) hf
    obtain ⟨g, hg, rfl⟩ := List.mem_map.mp hm
    obtain ⟨hdepth, hholds⟩ := hfragments g hg
    exact ⟨hdepth, by rw [Formula.holds, hholds]; rfl⟩
  · next he =>
    rw [Bool.eq_false_iff.mpr he]
    split at hf
    · exact settled_joined? hfragments hf
    · exact settled_joined? hfragments hf

/-- A section whose criteria all exclude, or all do not, has the same truth value where none of its
comparisons holds. -/
theorem settled_section {index : Nat}
    (hc : ∀ c ∈ Level.criteriaAt index cs, c.operator.excludes = truth)
    (h : ∀ s ∈ sectionSources index cs, p.truth 0 s.text = false)
    (hf : sectionFormula? index cs = some f) : Settled p truth f := by
  refine sectionFormula?_of_forall (fun joint f g hf hg ↦ hf.join hg joint) ?_ hf
  intro c hm f hf
  rw [← hc c hm]
  refine settled_criterion (fun fragment hfragment text ht ↦ ?_) hf
  refine h ⟨some c, text⟩ (List.mem_flatMap.mpr ⟨c, hm, List.mem_map.mpr ⟨text, ?_, rfl⟩⟩)
  exact List.mem_flatMap.mpr ⟨fragment, hfragment, ht⟩

/-- If the untagged section asks for something, a packet of a tagged depth that is left out is let
in exactly if that holds of it in front of its tags. No packet is if all is asked for positively and
of what stands behind the tags; but if all is asked for negatively, a packet is that nothing holds
of. -/
theorem left_out_let_in_as_untagged {cs : List Criterion} (hb : ∀ c ∈ cs, c.Built)
    (hl : ∀ c ∈ cs, c.Legible) (hp : ∀ c ∈ cs, c.isPreset = false)
    (h0 : ¬ LeftOut cs 0) (hs : ∃ c ∈ Level.criteriaAt 0 cs, c.filter ≠ "")
    (hin : ∃ index, 0 < index ∧ ¬ LeftOut cs index) {d k : Nat} (hd : 0 < d)
    (hk : Mentioned cs k) (hdk : d ≤ k) (hout : LeftOut cs d) :
    ∃ e f, compile true cs = .ok e ∧ sectionFormula? 0 cs = some f ∧
      (∀ p : Packet, p.tags = d → letsIn (Formula.ofText? e) p = f.holds p 0) ∧
      ((∀ c ∈ Level.criteriaAt 0 cs, c.operator.excludes = false) →
        (∀ s ∈ sectionSources 0 cs, isInner s.text = true) →
          ∀ p : Packet, p.Layered → p.tags = d → letsIn (Formula.ofText? e) p = false) ∧
      ((∀ c ∈ Level.criteriaAt 0 cs, c.operator.excludes = true) →
        letsIn (Formula.ofText? e) ⟨d, fun _ _ ↦ false⟩ = true) := by
  obtain ⟨f, hf⟩ := exists_sectionFormula? hs
  obtain ⟨e, he⟩ : ∃ e, compile true cs = .ok e :=
    exists_expression_iff.mpr ⟨fun h ↦ absurd h.1 (by decide), fun h ↦ h0 h.2.2.1⟩
  have huntagged : untaggedFormula? cs = some f := by
    rw [untaggedFormula?, if_neg fun h ↦ h0 ((Level.excluded_atDepth_iff cs 0).mp h), hf]
    rfl
  have hholds (p : Packet) (ht : p.tags = d) : letsIn (Formula.ofText? e) p = f.holds p 0 := by
    rw [letsIn_at_leftOut hb hl hp hin he hd hk hdk hout ht, untaggedHolds, huntagged]
    rfl
  refine ⟨e, f, he, hf, hholds, ?_, ?_⟩
  · intro hc hinner p hlayered ht
    rw [hholds p ht]
    refine (settled_section hc (fun s hm ↦ ?_) hf).2
    rw [← Bool.not_eq_true]
    intro htrue
    -- the packet has tags, so that nothing behind them is found in front
    have h0 := hlayered 0 s.text (hinner s hm) htrue
    omega
  · intro hc
    rw [hholds _ rfl]
    exact (settled_section hc (fun _ _ ↦ rfl) hf).2

/-- A port of untagged packets, one tag left out by a decision, and a port behind two tags. -/
def portBeside (operator : Operator) : List Criterion :=
  Criterion.accepted .empty
    [(.packet .port, 0, operator, "22"), (.disposition, 1, .none, ""),
      (.packet .port, 2, .anyOf, "80")]

/-- The port that is asked for does not let a packet in that has it behind one tag. -/
theorem portBeside_not_let_in :
    letsIn (Formula.ofText? "(port 22) or (vlan and (vlan and (port 80)))")
      (.behind 1 "port 22") = false := by
  have hb : ∀ c ∈ portBeside .anyOf, c.Built := fun _ hc ↦ .of_mem_accepted hc
  have hkind : ∀ c ∈ portBeside .anyOf, c.kind ≠ .packet .address := by decide
  have hl : ∀ c ∈ portBeside .anyOf, c.Legible :=
    fun c hc ↦ Criterion.legible_of_kind (hkind c hc)
  have hk : Mentioned (portBeside .anyOf) 2 := List.cons_ne_nil _ _
  obtain ⟨e, f, he, -, -, hpositive, -⟩ :=
    left_out_let_in_as_untagged hb hl (by decide) (by decide) ⟨_, List.mem_cons_self, by decide⟩
      ⟨2, by decide, by decide⟩ Nat.one_pos hk (by decide) (by decide)
  cases he
  exact hpositive (by decide) (by decide) _ (Packet.layered_behind 1 "port 22") rfl

/-- The port that must not be there lets a packet in that has one tag and nothing behind it. -/
theorem portBeside_let_in :
    compile true (portBeside .noneOf) =
        .ok "(not port 22) or (vlan and (vlan and (port 80)))" ∧
      LeftOut (portBeside .noneOf) 1 ∧ Packet.Layered ⟨1, fun _ _ ↦ false⟩ ∧
      letsIn (Formula.ofText? "(not port 22) or (vlan and (vlan and (port 80)))")
        ⟨1, fun _ _ ↦ false⟩ = true :=
  ⟨rfl, .inr ⟨_, List.mem_cons_self, rfl, rfl⟩, fun _ _ _ h ↦ (Bool.false_ne_true h).elim,
    by decide⟩

end CaptureFilter.Expression
