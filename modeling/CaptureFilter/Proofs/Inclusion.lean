import CaptureFilter.Proofs.Alternatives
import CaptureFilter.Proofs.EarlyStop

/-!
# Packets that are let in

A section that is let in is asked for together with those around it: a section that is left out
joins both of its neighbours by `and`. A packet of its depth is therefore let in only if it gets
past the sections before, and if no deeper one is let in behind one that is left out. An expression
that stops early lets it in if it gets past the sections down to where it stops.
Spec guidance: `SPEC_FULL.md` §4.2 step 5 (`_emit`, `_fragment`, `_join`).
-/

namespace CaptureFilter.Expression

variable {cs : List Criterion} {p : Packet} {previous level : Level}
  {entries : List (Level × Clause)} {truth : Bool} {n m d : Nat}

/-- Whether the sections down to an index let in a packet that has as many tags: a section that is
left out passes on, one behind it asks for what it does besides, and all others are alternatives. -/
def reaches (cs : List Criterion) (p : Packet) : Nat → Bool
  | 0 => true
  | index + 1 =>
    if LeftOut cs (index + 1) then reaches cs p index
    else if index = 0 ∨ LeftOut cs index then reaches cs p index && sectionHolds cs p (index + 1)
    else reaches cs p index || sectionHolds cs p (index + 1)

/-- No section that is left out stands between a tagged section and another that is let in. -/
def Unseparated (cs : List Criterion) (d : Nat) : Prop :=
  ∀ x y, 0 < y → ¬ LeftOut cs y → (y < x ∧ x < d) ∨ (d < x ∧ x < y) → ¬ LeftOut cs x

/-- Below a section, none is let in behind one that is left out. -/
def ClearBelow (cs : List Criterion) (d : Nat) : Prop :=
  ∀ x y, d < x → x < y → LeftOut cs x → LeftOut cs y

/-- From a tagged section on, down to the deepest mentioned, all are let in and ask for nothing. -/
def OpenFrom (cs : List Criterion) (s : Nat) : Prop :=
  0 < s ∧ ∀ i k, s ≤ i → i ≤ k → Mentioned cs k → ¬ LeftOut cs i ∧ sectionFormula? i cs = none

/-- The expression stops at the first section from which on all are let in and ask for nothing. -/
def EndsAt (cs : List Criterion) (s : Nat) : Prop := OpenFrom cs s ∧ ∀ t < s, ¬ OpenFrom cs t

/-- There is one section at most that the expression stops at. -/
theorem EndsAt.unique {s t : Nat} (hs : EndsAt cs s) (ht : EndsAt cs t) : t = s := by
  apply Nat.le_antisymm
  · exact Nat.le_of_not_lt fun hlt ↦ ht.2 s hlt hs.1
  · exact Nat.le_of_not_lt fun hlt ↦ hs.2 t hlt ht.1

/-! ### Sections side by side -/

/-- Sections that are all left out are passed. -/
theorem reaches_of_leftOut (h : ∀ i, 0 < i → i ≤ n → LeftOut cs i) : reaches cs p n = true := by
  induction n with
  | zero => rfl
  | succ n ih =>
    rw [reaches, if_pos (h (n + 1) (Nat.succ_pos n) (Nat.le_refl _))]
    exact ih fun i hi hle ↦ h i hi (Nat.le_succ_of_le hle)

/-- A section that nothing separates from those before it reaches the packets that it asks for. -/
theorem reaches_of_unseparated {s : Nat} (hpos : 0 < s) (hs : s ≤ d) (hu : Unseparated cs d)
    (hin : ¬ LeftOut cs s) (hholds : sectionHolds cs p s = true) : reaches cs p s = true := by
  cases s with
  | zero => omega
  | succ i =>
    rw [reaches, if_neg hin, hholds, Bool.and_true, Bool.or_true]
    split
    · next hprevious =>
      apply reaches_of_leftOut
      intro y hy hle
      refine Decidable.byContradiction fun hiny ↦ ?_
      rcases hprevious with rfl | hout
      · omega
      · -- a section that is let in stands before the one that is left out
        have hne : y ≠ i := fun he ↦ hiny (he ▸ hout)
        exact hu i y hy hiny (.inl ⟨by omega, by omega⟩) hout
    · rfl

/-- Nothing is let in behind a section that is left out below one that nothing separates from it. -/
theorem Unseparated.clearBelow (hu : Unseparated cs d) : ClearBelow cs d := by
  intro x y hx hxy hout
  refine Decidable.byContradiction fun hin ↦ ?_
  exact hu x y (by omega) hin (.inr ⟨hx, hxy⟩) hout

private theorem clearBelow_of_included {last : Nat} (hmax : ∀ i, ¬ LeftOut cs i → i ≤ last)
    (hin : ∀ i, n ≤ i → i ≤ last → ¬ LeftOut cs i) : ClearBelow cs n := by
  intro x y hx hxy hout
  refine Decidable.byContradiction fun hy ↦ ?_
  have hle := hmax y hy
  exact hin x (by omega) (by omega) hout

/-! ### Levels beyond a depth -/

/-- The levels of the depths that follow one, as many as given. -/
def Level.beyond (cs : List Criterion) (n m : Nat) : List Level :=
  (List.range' (n + 1) m).map (atDepth cs)

/-- The first level beyond a depth is that of the next. -/
theorem Level.beyond_succ (cs : List Criterion) (n m : Nat) :
    beyond cs n (m + 1) = atDepth cs (n + 1) :: beyond cs (n + 1) m := by
  rw [beyond, List.range'_succ, List.map_cons]
  rfl

/-- The levels beyond a depth follow each other. -/
theorem Level.consecutive_beyond (cs : List Criterion) (n m : Nat) :
    Consecutive (n + 1) (beyond cs n m) :=
  consecutive_range' cs (n + 1) m

/-- The level of a deeper depth is one of those beyond. -/
theorem Level.mem_beyond {i : Nat} (hi : n < i) (hle : i ≤ n + m) :
    atDepth cs i ∈ beyond cs n m :=
  List.mem_map_of_mem (List.mem_range'_1.mpr (by omega))

/-- A level beyond a depth is let in if its section is. -/
theorem Level.exists_included_beyond_iff :
    (∃ l ∈ beyond cs n m, l.excluded = false) ↔ ∃ i, n < i ∧ i ≤ n + m ∧ ¬ LeftOut cs i := by
  constructor
  · rintro ⟨l, hl, he⟩
    obtain ⟨i, hi, rfl⟩ := List.mem_map.mp hl
    have hrange := List.mem_range'_1.mp hi
    exact ⟨i, by omega, by omega, excluded_atDepth_eq_false_iff.mp he⟩
  · rintro ⟨i, hi, hle, hin⟩
    exact ⟨atDepth cs i, mem_beyond hi hle, excluded_atDepth_eq_false_iff.mpr hin⟩

/-- Above a section that is let in the writer stops if nothing is asked for from there on, and goes
on otherwise. -/
theorem written_beyond_succ {d : Nat} (hd : n < d) (hle : d ≤ n + (m + 1)) (hin : ¬ LeftOut cs d)
    (h : written true (Level.beyond cs n (m + 1)) = .ok entries) :
    ((∀ i, n < i → i ≤ n + (m + 1) → (Level.atDepth cs i).isOpen = true) ∧
        entries = [(Level.atDepth cs (n + 1), .tag)]) ∨
      ((∃ i, n < i ∧ i ≤ n + (m + 1) ∧ (Level.atDepth cs i).isOpen = false) ∧
        ∃ piece rest, Writes true (Level.atDepth cs (n + 1)) (Level.beyond cs (n + 1) m) piece ∧
          written true (Level.beyond cs (n + 1) m) = .ok rest ∧
          entries = (Level.atDepth cs (n + 1), piece.clause) :: rest) := by
  have hmem {i : Nat} (hi : n < i) (hle : i ≤ n + (m + 1)) :
      Level.atDepth cs i ∈ Level.beyond cs n (m + 1) := Level.mem_beyond hi hle
  rw [Level.beyond_succ] at h hmem
  have hi : (Level.atDepth cs (n + 1)).index ≠ 0 := by
    rw [Level.index_atDepth]
    exact Nat.succ_ne_zero n
  rcases written_tagged_cons hi h with
    ⟨hopen, rfl⟩ | ⟨hall, -⟩ | ⟨⟨l, hl, ho⟩, piece, rest, hw, -, hr, rfl⟩
  · exact .inl ⟨fun i hi hle ↦ hopen _ (hmem hi hle), rfl⟩
  · exact absurd ((Level.excluded_atDepth_iff cs d).mp (hall _ (hmem hd hle))) hin
  · rw [← Level.beyond_succ] at hl
    obtain ⟨i, hi, rfl⟩ := List.mem_map.mp hl
    have hrange := List.mem_range'_1.mp hi
    exact .inr ⟨⟨i, by omega, by omega, ho⟩, piece, rest, hw, hr, rfl⟩

/-! ### Joints -/

/-- No level is taken together with its neighbours by a decision if no decision says so. -/
theorem disposition_atDepth_ne
    (ha : ∀ c ∈ cs, c.kind = .disposition → c.operator ≠ .allOf) (index : Nat) :
    (Level.atDepth cs index).disposition ≠ some .allOf := by
  have hfold (l : Level) (hl : l.disposition ≠ some .allOf) (ds : List Criterion)
      (hd : ∀ c ∈ ds, c.kind = .disposition → c.operator ≠ .allOf) :
      (ds.foldl Level.absorb l).disposition ≠ some .allOf := by
    induction ds generalizing l with
    | nil => exact hl
    | cons c rest ih =>
      refine ih _ ?_ fun d hm ↦ hd d (List.mem_cons_of_mem c hm)
      unfold Level.absorb
      split
      · exact hl
      · split
        · next hk =>
          have hne : some c.operator ≠ some .allOf :=
            fun he ↦ hd c List.mem_cons_self hk (Option.some.inj he)
          dsimp only
          split
          · exact hne
          · exact hne
        · rw [(Level.add_keeps l c).2.2]
          exact hl
  have hnone : (none : Option Operator) ≠ some .allOf := by decide
  unfold Level.atDepth
  split
  · exact hnone
  · exact hfold { index } hnone _ fun c hc ↦ ha c (List.mem_filter.mp hc).1

/-- A level stands before those beyond a depth: as the level of that depth or, in front of all tags,
as one that is left out. No decision takes it together with its neighbours. -/
structure StandsBefore (cs : List Criterion) (n : Nat) (level : Level) : Prop where
  /-- It is left out in front of all tags, or if its section is. -/
  excluded_iff : level.excluded = true ↔ n = 0 ∨ LeftOut cs n
  /-- It is not taken together with its neighbours. -/
  alternative : level.disposition ≠ some .allOf

/-- A level that is left out stands before all tagged ones. -/
theorem standsBefore_zero (cs : List Criterion) :
    StandsBefore cs 0 { index := 0, excluded := true } where
  excluded_iff := iff_of_true rfl (.inl rfl)
  alternative := by decide

/-- The level of a depth stands before those beyond. -/
theorem standsBefore_atDepth (ha : ∀ c ∈ cs, c.kind = .disposition → c.operator ≠ .allOf)
    (n : Nat) : StandsBefore cs (n + 1) (Level.atDepth cs (n + 1)) where
  excluded_iff := by
    rw [Level.excluded_atDepth_iff]
    exact (or_iff_right (Nat.succ_ne_zero n)).symm
  alternative := disposition_atDepth_ne ha (n + 1)

/-- A level that stands for a tagged section is let in if the section is. -/
theorem StandsBefore.included (h : StandsBefore cs n level) (hpos : 0 < n)
    (hin : ¬ LeftOut cs n) : level.excluded = false := by
  rw [← Bool.not_eq_true, h.excluded_iff]
  exact fun h ↦ h.elim (Nat.ne_of_gt hpos) hin

private theorem joint_of_included (hp : previous.excluded = false) (hl : level.excluded = false)
    (hpd : previous.disposition ≠ some .allOf) (hld : level.disposition ≠ some .allOf) :
    joint previous level = .disj := by
  rw [joint, hp, hl, if_neg (by decide), if_neg (by simp [hpd, hld])]

/-! ### Below the depth of a packet -/

/-- A section that is let in behind one that is left out asks for more tags than a packet has. -/
theorem found_below_of_gap (hn : p.tags ≤ n) {x y : Nat} (hx : n < x) (hxy : x < y)
    (hout : LeftOut cs x) (hin : ¬ LeftOut cs y) (hy : y ≤ n + m)
    (h : written true (Level.beyond cs n m) = .ok entries) :
    Found (entries.foldl (chainStep cs p) (some (previous, truth))) = false := by
  induction m generalizing n previous entries truth with
  | zero => omega
  | succ m ih =>
    rcases written_beyond_succ (by omega) hy hin h with ⟨hopen, -⟩ | ⟨-, piece, rest, -, hr, rfl⟩
    · have he := excluded_of_isOpen (hopen x hx (by omega))
      exact absurd hout (Level.excluded_atDepth_eq_false_iff.mp he)
    · rw [List.foldl_cons, chainStep_some]
      by_cases hnx : n + 1 = x
      · subst hnx
        have he := (Level.excluded_atDepth_iff cs (n + 1)).mpr hout
        refine found_behind_excluded he (Level.consecutive_beyond cs (n + 1) m) (by omega) ?_ hr
        exact Level.exists_included_beyond_iff.mpr ⟨y, hxy, by omega, hin⟩
      · exact ih (by omega) (by omega) (by omega) hr

section Decided

variable (ha : ∀ c ∈ cs, c.kind = .disposition → c.operator ≠ .allOf)

include ha

private theorem chainStep_below {piece : Piece} (hn : p.tags ≤ n)
    (hw : Writes true (Level.atDepth cs (n + 1)) (Level.beyond cs (n + 1) m) piece)
    (hclear : ClearBelow cs n)
    (hprevious : previous.excluded = true → ∀ y, n < y → LeftOut cs y)
    (hd : previous.disposition ≠ some .allOf) :
    chainStep cs p (some (previous, truth)) (Level.atDepth cs (n + 1), piece.clause) =
      some (Level.atDepth cs (n + 1), truth) := by
  have hlt : p.tags < (Level.atDepth cs (n + 1)).index := by
    rw [Level.index_atDepth]
    omega
  rw [chainStep_some]
  cases he : (Level.atDepth cs (n + 1)).excluded with
  | true =>
    have hout := (Level.excluded_atDepth_iff cs (n + 1)).mp he
    rw [joint_of_excluded he]
    rcases hw.of_tagged (by omega) with ⟨-, hb, -⟩ | ⟨-, -, rfl⟩ | ⟨hin, -⟩ | ⟨hin, -⟩
    · obtain ⟨i, hi, -, hin⟩ := Level.exists_included_beyond_iff.mp hb
      exact absurd (hclear (n + 1) i (Nat.lt_succ_self n) hi hout) hin
    · rw [Clause.holds, decide_eq_true hlt, Joint.holds, Bool.and_true]
    · rw [he] at hin
      cases hin
    · rw [he] at hin
      cases hin
  | false =>
    have hin := Level.excluded_atDepth_eq_false_iff.mp he
    have hp : previous.excluded = false := by
      rw [← Bool.not_eq_true]
      exact fun hp ↦ hin (hprevious hp (n + 1) (Nat.lt_succ_self n))
    rcases holds_beyond_tags hw hlt with hholds | ⟨hout, -⟩
    · rw [joint_of_included hp he hd (disposition_atDepth_ne ha _), hholds, Joint.holds,
        Bool.or_false]
    · rw [he] at hout
      cases hout

/-- Sections beyond the tags of a packet leave what has been found as it is, if none is let in
behind one that is left out. -/
theorem found_below_of_clear (hn : p.tags ≤ n) (hclear : ClearBelow cs n)
    (hprevious : previous.excluded = true → ∀ y, n < y → LeftOut cs y)
    (hd : previous.disposition ≠ some .allOf)
    (h : written true (Level.beyond cs n m) = .ok entries) :
    Found (entries.foldl (chainStep cs p) (some (previous, truth))) = truth := by
  induction m generalizing n previous entries with
  | zero =>
    cases h
    rfl
  | succ m ih =>
    rw [Level.beyond_succ] at h
    obtain ⟨piece, hw, hrest⟩ := writtenUpTo_true_cons h
    have hstep : chainStep cs p (some (previous, truth))
        (Level.atDepth cs (n + 1), piece.clause) = some (Level.atDepth cs (n + 1), truth) :=
      chainStep_below ha hn hw hclear hprevious hd
    rcases hrest with ⟨-, rfl⟩ | ⟨-, rest, hr, rfl⟩
    · rw [List.foldl_cons, hstep]
      rfl
    · rw [List.foldl_cons, hstep]
      refine ih (by omega) (fun x y hx ↦ hclear x y (by omega)) (fun he y hy ↦ ?_)
        (disposition_atDepth_ne ha _) hr
      exact hclear (n + 1) y (by omega) hy ((Level.excluded_atDepth_iff cs (n + 1)).mp he)

/-- Below a section that is let in, the chain keeps what has been found exactly if no section is let
in behind one that is left out. -/
theorem found_below_iff (hn : p.tags ≤ n) (hmax : ∀ i, ¬ LeftOut cs i → i ≤ n + m)
    (hp : previous.excluded = false) (hd : previous.disposition ≠ some .allOf)
    (h : written true (Level.beyond cs n m) = .ok entries) :
    Found (entries.foldl (chainStep cs p) (some (previous, truth))) = true ↔
      ClearBelow cs n ∧ truth = true := by
  by_cases hclear : ClearBelow cs n
  · have hprevious : previous.excluded = true → ∀ y, n < y → LeftOut cs y := fun he ↦ by
      rw [hp] at he
      cases he
    rw [found_below_of_clear ha hn hclear hprevious hd h]
    exact (and_iff_right hclear).symm
  · refine iff_of_false ?_ fun hc ↦ hclear hc.1
    simp only [ClearBelow, Classical.not_forall] at hclear
    obtain ⟨x, y, hx, hxy, hout, hin⟩ := hclear
    rw [found_below_of_gap hn hx hxy hout hin (hmax y hin) h]
    exact Bool.false_ne_true

end Decided

/-! ### Down to the depth of a packet -/

/-- A section that is not deeper than a packet holds of it if it is left out, and otherwise if what
it asks for does. -/
theorem holds_of_le_tags (hb : ∀ c ∈ cs, c.Built) {index : Nat} {below : List Level}
    {piece : Piece} (hi : index ≠ 0) (hle : index ≤ p.tags)
    (hw : Writes true (Level.atDepth cs index) below piece)
    (hbelow : LeftOut cs index → ∃ l ∈ below, l.excluded = false) :
    piece.clause.holds cs p index = (decide (LeftOut cs index) || sectionHolds cs p index) := by
  have htag : decide (index ≤ p.tags) = true := decide_eq_true hle
  rcases hw.of_tagged (by rw [Level.index_atDepth]; exact hi) with
    ⟨he, -, rfl⟩ | ⟨he, hall, -⟩ | ⟨he, ht, rfl⟩ | ⟨he, -, rfl⟩
  · rw [decide_eq_true ((Level.excluded_atDepth_iff cs index).mp he), Bool.true_or]
    exact htag
  · obtain ⟨l, hl, hin⟩ := hbelow ((Level.excluded_atDepth_iff cs index).mp he)
    rw [hall l hl] at hin
    cases hin
  · have hnone : sectionFormula? index cs = none := (Level.says_atDepth hb he).mp ht
    rw [sectionHolds, hnone, Option.elim_none, Bool.or_true]
    exact htag
  · rw [decide_eq_false (Level.excluded_atDepth_eq_false_iff.mp he), Bool.false_or, Clause.holds,
      htag, Bool.true_and]

private theorem isOpen_atDepth_iff (hb : ∀ c ∈ cs, c.Built) {index : Nat} :
    (Level.atDepth cs index).isOpen = true ↔
      ¬ LeftOut cs index ∧ sectionFormula? index cs = none := by
  rw [← Level.excluded_atDepth_eq_false_iff]
  constructor
  · intro h
    have he := excluded_of_isOpen h
    exact ⟨he, (Level.says_atDepth hb he).mp (text_of_isOpen h)⟩
  · rintro ⟨he, hnone⟩
    rw [Level.isOpen, he, (Level.says_atDepth hb he).mpr hnone]
    rfl

/-- All levels from one depth to another are let in and ask for nothing. -/
private def AllOpen (cs : List Criterion) (s last : Nat) : Prop :=
  ∀ i, s ≤ i → i ≤ last → (Level.atDepth cs i).isOpen = true

private theorem openFrom_iff_allOpen (hb : ∀ c ∈ cs, c.Built) {s last : Nat} (hs : 0 < s)
    (hm : Mentioned cs last) (hmax : ∀ i, Mentioned cs i → i ≤ last) :
    OpenFrom cs s ↔ AllOpen cs s last := by
  rw [OpenFrom, and_iff_right hs]
  constructor
  · intro h i hi hle
    exact (isOpen_atDepth_iff hb).mpr (h i last hi hle hm)
  · intro h i k hi hk hmk
    exact (isOpen_atDepth_iff hb).mp (h i hi (Nat.le_trans hk (hmax k hmk)))

section Decided

variable (ha : ∀ c ∈ cs, c.kind = .disposition → c.operator ≠ .allOf)
  (hb : ∀ c ∈ cs, c.Built)

include ha hb

/-- One more section that is not deeper than a packet. -/
theorem chainStep_reaches {below : List Level} {piece : Piece} (hle : n + 1 ≤ p.tags)
    (hw : Writes true (Level.atDepth cs (n + 1)) below piece)
    (hbelow : LeftOut cs (n + 1) → ∃ l ∈ below, l.excluded = false)
    (hp : StandsBefore cs n previous) :
    chainStep cs p (some (previous, reaches cs p n)) (Level.atDepth cs (n + 1), piece.clause) =
      some (Level.atDepth cs (n + 1), reaches cs p (n + 1)) := by
  rw [chainStep_some, Level.index_atDepth,
    holds_of_le_tags hb (Nat.succ_ne_zero n) hle hw hbelow, reaches]
  by_cases hout : LeftOut cs (n + 1)
  · rw [joint_of_excluded ((Level.excluded_atDepth_iff cs (n + 1)).mpr hout), if_pos hout,
      decide_eq_true hout, Bool.true_or, Joint.holds, Bool.and_true]
  · rw [if_neg hout, decide_eq_false hout, Bool.false_or]
    split
    · next hprevious => rw [joint_behind_excluded (hp.excluded_iff.mpr hprevious), Joint.holds]
    · next hprevious =>
      have hin : previous.excluded = false := by
        rw [← Bool.not_eq_true]
        exact fun he ↦ hprevious (hp.excluded_iff.mp he)
      rw [joint_of_included hin (Level.excluded_atDepth_eq_false_iff.mpr hout) hp.alternative
        (disposition_atDepth_ne ha _), Joint.holds]

/-- A chain that stops at the next section finds what the sections down to that do. -/
theorem found_of_open (hle : n + 1 ≤ p.tags) (hp : StandsBefore cs n previous)
    (hopen : ∀ i, n < i → i ≤ n + (m + 1) → (Level.atDepth cs i).isOpen = true) :
    Found (chainStep cs p (some (previous, reaches cs p n)) (Level.atDepth cs (n + 1), .tag)) =
      reaches cs p (n + 1) := by
  have hfirst := hopen (n + 1) (Nat.lt_succ_self n) (by omega)
  have hw : Writes true (Level.atDepth cs (n + 1)) (Level.beyond cs (n + 1) m) _ :=
    .empty (excluded_of_isOpen hfirst) (text_of_isOpen hfirst) (by simp)
  have hin := ((isOpen_atDepth_iff hb).mp hfirst).1
  exact congrArg Found (chainStep_reaches ha hb hle hw (fun hout ↦ absurd hout hin) hp)

/-- A chain finds what its sections down to the depth of a packet do, and keeps it if no section is
let in behind one that is left out; or it stops before, at the first section that it can stop at,
and finds what the sections down to that do. -/
private theorem found_iff_reaches (ht : p.tags = d) (hn : n ≤ d) (hpos : 0 < d)
    (hin : ¬ LeftOut cs d) {last : Nat} (hlast : n + m = last)
    (hmax : ∀ i, ¬ LeftOut cs i → i ≤ last) (hp : StandsBefore cs n previous)
    (h : written true (Level.beyond cs n m) = .ok entries) :
    ((∀ s, n < s → s < d → ¬ AllOpen cs s last) ∧
        (Found (entries.foldl (chainStep cs p) (some (previous, reaches cs p n))) = true ↔
          ClearBelow cs d ∧ reaches cs p d = true)) ∨
      ∃ s, n < s ∧ s < d ∧ AllOpen cs s last ∧ (∀ t, n < t → t < s → ¬ AllOpen cs t last) ∧
        Found (entries.foldl (chainStep cs p) (some (previous, reaches cs p n))) =
          reaches cs p s := by
  have hle := hmax d hin
  induction m generalizing n previous entries with
  | zero =>
    obtain rfl : n = d := by omega
    exact .inl ⟨by omega, found_below_iff ha (Nat.le_of_eq ht) (hlast ▸ hmax)
      (hp.included hpos hin) hp.alternative h⟩
  | succ m ih =>
    rcases Nat.eq_or_lt_of_le hn with rfl | hlt
    · exact .inl ⟨by omega, found_below_iff ha (Nat.le_of_eq ht) (hlast ▸ hmax)
        (hp.included hpos hin) hp.alternative h⟩
    · rcases written_beyond_succ hlt (by omega) hin h with
        ⟨hopen, rfl⟩ | ⟨⟨i, hi, hile, hclosed⟩, piece, rest, hw, hr, rfl⟩
      · -- nothing is asked for from here on, and the chain stops
        have hfound := found_of_open ha hb (ht ▸ hlt) hp hopen
        have hall : AllOpen cs (n + 1) last := fun i hi hle ↦ hopen i hi (by omega)
        rcases Nat.eq_or_lt_of_le hlt with rfl | hlt
        · refine .inl ⟨by omega, ?_⟩
          rw [List.foldl_cons, List.foldl_nil, hfound, and_iff_right]
          exact clearBelow_of_included hmax fun i hi hle ↦
            ((isOpen_atDepth_iff hb).mp (hall i hi hle)).1
        · exact .inr ⟨n + 1, Nat.lt_succ_self n, hlt, hall, by omega, hfound⟩
      · have hbelow (hout : LeftOut cs (n + 1)) :
            ∃ l ∈ Level.beyond cs (n + 1) m, l.excluded = false := by
          have hne : n + 1 ≠ d := fun he ↦ hin (he ▸ hout)
          exact Level.exists_included_beyond_iff.mpr ⟨d, by omega, by omega, hin⟩
        have hgoes : ¬ AllOpen cs (n + 1) last := fun hall ↦ by
          rw [hall i hi (by omega)] at hclosed
          cases hclosed
        -- what holds of the sections behind the next one holds of all behind this one
        have hextend {bound : Nat} (hno : ∀ s, n + 1 < s → s < bound → ¬ AllOpen cs s last)
            (s : Nat) (hs : n < s) (hsb : s < bound) : ¬ AllOpen cs s last := by
          rcases Nat.eq_or_lt_of_le hs with rfl | hs
          · exact hgoes
          · exact hno s hs hsb
        rw [List.foldl_cons, chainStep_reaches ha hb (by omega) hw hbelow hp]
        rcases ih hlt (by omega) (standsBefore_atDepth ha n) hr with
          ⟨hno, hiff⟩ | ⟨s, hs, hsd, hall, hno, hfound⟩
        · exact .inl ⟨hextend hno, hiff⟩
        · exact .inr ⟨s, Nat.lt_of_succ_lt hs, hsd, hall, hextend hno, hfound⟩

/-- What the chain of criteria finds for a packet of a tagged section that is let in: what the
sections down to it do, and those below do not take back, or what those down to its end do. -/
theorem chainHolds_iff_reaches {below : List Level} (hlevels : Level.levels cs = level :: below)
    (hr : written true below = .ok entries) (ht : p.tags = d) (hpos : 0 < d)
    (hin : ¬ LeftOut cs d) :
    ((∀ s < d, ¬ OpenFrom cs s) ∧
        (chainHolds cs p entries = true ↔ ClearBelow cs d ∧ reaches cs p d = true)) ∨
      ∃ s < d, EndsAt cs s ∧ chainHolds cs p entries = reaches cs p s := by
  obtain ⟨last, hlast, hmax, rfl⟩ := Level.exists_below hlevels
  have hle := hmax d (Level.mentioned_of_not_leftOut hin)
  have hbelow : Level.atDepth cs d ∈ Level.beyond cs 0 last := Level.mem_beyond hpos (by omega)
  have hne : entries ≠ [] := writtenUpTo_ne_nil (List.ne_nil_of_mem hbelow) hr
  have hopen {s : Nat} (hs : 0 < s) : OpenFrom cs s ↔ AllOpen cs s last :=
    openFrom_iff_allOpen hb hs hlast hmax
  have hnone {bound : Nat} (hno : ∀ s, 0 < s → s < bound → ¬ AllOpen cs s last) (s : Nat)
      (hs : s < bound) : ¬ OpenFrom cs s := fun ho ↦ hno s ho.1 hs ((hopen ho.1).mp ho)
  -- the chain begins as it would behind an untagged section that is left out
  have hfront := standsBefore_zero cs
  rw [chainHolds_eq_found (hfront.excluded_iff.mpr (.inl rfl)) hne]
  rcases found_iff_reaches ha hb ht (Nat.zero_le d) hpos hin (Nat.zero_add last)
    (fun i hi ↦ hmax i (Level.mentioned_of_not_leftOut hi)) hfront hr with
    ⟨hno, hiff⟩ | ⟨s, hs, hsd, hall, hno, hfound⟩
  · exact .inl ⟨hnone hno, hiff⟩
  · exact .inr ⟨s, hsd, ⟨(hopen hs).mpr hall, hnone hno⟩, hfound⟩

end Decided

/-! ### Expressions -/

/-- What the untagged section asks for lets untagged packets in that it holds of. -/
theorem untaggedHolds_of_sectionHolds (h0 : ¬ LeftOut cs 0) (hs : sectionHolds cs p 0 = true)
    (hu : (p.truth 0 "ether proto 0x8100" || p.truth 0 "ether proto 0x88a8") = false) :
    untaggedHolds cs p = true := by
  rw [untaggedHolds, untaggedFormula?, if_neg fun h ↦ h0 ((Level.excluded_atDepth_iff cs 0).mp h)]
  rw [sectionHolds] at hs
  cases hf : sectionFormula? 0 cs with
  | none =>
    change (!p.truth 0 _ && !p.truth 0 _) = true
    rw [← Bool.not_or, hu]
    rfl
  | some f =>
    rw [hf] at hs
    exact hs

private theorem chainHolds_of_excluded {below : List Level}
    (hc : Consecutive 1 (level :: below)) (hall : ∀ l ∈ level :: below, l.excluded = true)
    (ht : p.tags = 0) (h : writtenUpTo Piece.last true (level :: below) = .ok entries) :
    chainHolds cs p entries = true := by
  have hw : Writes true level below ⟨.noTag, true⟩ :=
    .ended (hall level List.mem_cons_self) (by rw [hc.1]; exact Nat.one_ne_zero)
      fun l hl ↦ hall l (List.mem_cons_of_mem level hl)
  rw [writtenUpTo_of_writes (.inr rfl) hw] at h
  cases h
  exact decide_eq_true (by rw [ht, hc.1]; exact Nat.one_pos)

private theorem letsIn_beside_excluded {below : List Level} (hi : level.index = 0)
    (hc : Consecutive 1 below) (hout : ∀ l ∈ below, l.excluded = true) (ht : p.tags = 0)
    (hs : sectionHolds cs p 0 = true) (h : written true below = .ok entries) (boundary : Joint) :
    letsIn (assembleFormula? cs boundary ((level, .terms) :: entries)) p = true := by
  cases below with
  | nil =>
    cases h
    rw [letsIn_single hi]
    exact hs
  | cons first others =>
    have hsays : ∀ l ∈ first :: others, l.excluded = false →
        l.Says (sectionFormula? l.index cs) := fun l hl he ↦ by
      rw [hout l hl] at he
      cases he
    have hboth : letsIn (assembleFormula? cs boundary ((level, .terms) :: entries)) p =
        (sectionFormula? 0 cs).elim (chainHolds cs p entries) fun f ↦
          boundary.holds (f.holds p 0) (chainHolds cs p entries) := by
      have hfirst : (level, Clause.terms).1.index = 0 := hi
      refine letsIn_assembleFormula? hfirst ?_ hc hsays h (List.cons_ne_nil _ _) boundary
      exact fun f hf ↦ depth_of_sectionFormula? hf
    rw [hboth, chainHolds_of_excluded hc hout ht h]
    rw [sectionHolds] at hs
    cases hf : sectionFormula? 0 cs with
    | none => rfl
    | some f =>
      rw [hf, Option.elim_some] at hs
      rw [Option.elim_some, hs]
      cases boundary <;> rfl

/-- Where no tagged section is let in, what is written lets untagged packets in that the untagged
section asks for. -/
theorem letsIn_untagged_alone {below : List Level} {all : List (Level × Clause)}
    (hlevels : Level.levels cs = level :: below)
    (h0 : ¬ LeftOut cs 0) (hout : ∀ l ∈ below, l.excluded = true) (ht : p.tags = 0)
    (hs : sectionHolds cs p 0 = true) (h : written true (level :: below) = .ok all)
    (boundary : Joint) : letsIn (assembleFormula? cs boundary all) p = true := by
  obtain ⟨hlevel, hc⟩ := head_of_levels hlevels
  have hi : level.index = 0 := by rw [hlevel, Level.index_atDepth]
  have hin : level.excluded = false := by
    rw [hlevel]
    exact Level.excluded_atDepth_eq_false_iff.mpr h0
  obtain ⟨piece, hw, hrest⟩ := writtenUpTo_true_cons h
  rcases hw.of_untagged hi with
    ⟨he, -⟩ | ⟨he, -⟩ | ⟨-, -, ⟨l, hl, he⟩, -⟩ | ⟨-, -, -, rfl⟩ | ⟨-, -, rfl⟩
  · rw [hin] at he
    cases he
  · rw [hin] at he
    cases he
  · rw [hout l hl] at he
    cases he
  · -- only that there is no tag is said
    rcases hrest with ⟨-, rfl⟩ | ⟨hlast, -⟩
    · rw [letsIn_single hi]
      change (!decide (0 < p.tags)) = true
      rw [ht]
      rfl
    · cases hlast
  · rcases hrest with ⟨hlast, -⟩ | ⟨-, rest, hr, rfl⟩
    · cases hlast
    · exact letsIn_beside_excluded hi hc hout ht hs hr boundary

section Criteria

variable (hb : ∀ c ∈ cs, c.Built) (hl : ∀ c ∈ cs, c.Legible)
  (hp : ∀ c ∈ cs, c.isPreset = false) {e : String} (h : compile true cs = .ok e)

include hb hl hp h

/-- An untagged packet is let in if what the untagged section asks for holds of it. -/
theorem letsIn_of_untagged (h0 : ¬ LeftOut cs 0) (ht : p.tags = 0)
    (hs : sectionHolds cs p 0 = true)
    (hu : (p.truth 0 "ether proto 0x8100" || p.truth 0 "ether proto 0x88a8") = false) :
    letsIn (Formula.ofText? e) p = true := by
  by_cases hin : ∃ index, 0 < index ∧ ¬ LeftOut cs index
  · obtain ⟨_, _, _, -, -, hor⟩ := exists_letsIn_eq_or hb hl hp hin h
    rw [hor p fun _ ↦ hu, untaggedHolds_of_sectionHolds h0 hs hu, Bool.true_or]
  · rw [compile_of_no_preset hp, emit] at h
    obtain ⟨text, htext, rfl⟩ := map_eq_ok_iff.mp h
    obtain ⟨all, hw, rfl⟩ := map_eq_ok_iff.mp htext
    rw [letsIn_dropTautology fun _ ↦ hu, ofText?_assemble hb hl hw]
    cases hlevels : Level.levels cs with
    | nil =>
      rw [hlevels] at hw
      cases hw
      rfl
    | cons level below =>
      have hout : ∀ l ∈ below, l.excluded = true := by
        simpa using mt (Level.exists_tagged_included_iff hlevels).mp hin
      rw [hlevels] at hw
      exact letsIn_untagged_alone hlevels h0 hout ht hs hw _

end Criteria

/-- A packet of a section that is let in, and that what the section asks for holds of, is let in if
the section is the untagged one, or if no section that is left out separates it from others. A
tagged one is let in exactly if what the untagged section asks for holds of it too or the tagged
sections let it in: where the expression stops before its section, if it gets past the sections down
to that stop, and elsewhere if it gets past those down to its own and none below is let in behind
one that is left out. -/
theorem included_let_in_iff {cs : List Criterion} (hb : ∀ c ∈ cs, c.Built)
    (hl : ∀ c ∈ cs, c.Legible) (hp : ∀ c ∈ cs, c.isPreset = false)
    (ha : ∀ c ∈ cs, c.kind = .disposition → c.operator ≠ .allOf) {e : String}
    (h : compile true cs = .ok e) {d : Nat} (hd : ¬ LeftOut cs d) {p : Packet} (ht : p.tags = d)
    (hs : sectionHolds cs p d = true)
    (hu : d = 0 → (p.truth 0 "ether proto 0x8100" || p.truth 0 "ether proto 0x88a8") = false) :
    (d = 0 ∨ Unseparated cs d → letsIn (Formula.ofText? e) p = true) ∧
      (0 < d → (∀ s < d, ¬ OpenFrom cs s) →
        (letsIn (Formula.ofText? e) p = true ↔
          untaggedHolds cs p = true ∨ (ClearBelow cs d ∧ reaches cs p d = true))) ∧
      ∀ s < d, EndsAt cs s →
        (letsIn (Formula.ofText? e) p = true ↔
          untaggedHolds cs p = true ∨ reaches cs p s = true) := by
  rcases Nat.eq_zero_or_pos d with rfl | hpos
  · exact ⟨fun _ ↦ letsIn_of_untagged hb hl hp h hd ht hs (hu rfl),
      fun hpos ↦ absurd hpos (Nat.lt_irrefl 0), fun s hs ↦ absurd hs (Nat.not_lt_zero s)⟩
  · obtain ⟨level, below, entries, hlevels, hr, hor⟩ :=
      exists_letsIn_eq_or hb hl hp ⟨d, hpos, hd⟩ h
    rw [hor p (by omega), Bool.or_eq_true]
    rcases chainHolds_iff_reaches ha hb hlevels hr ht hpos hd with
      ⟨hno, hiff⟩ | ⟨s, hsd, hends, hfound⟩
    · refine ⟨fun hor ↦ .inr (hiff.mpr ?_), fun _ _ ↦ by rw [hiff],
        fun s hs hends ↦ absurd hends.1 (hno s hs)⟩
      have hunseparated := hor.resolve_left (Nat.ne_of_gt hpos)
      exact ⟨hunseparated.clearBelow,
        reaches_of_unseparated hpos (Nat.le_refl d) hunseparated hd hs⟩
    · obtain ⟨hspos, hnothing⟩ := hends.1
      refine ⟨fun hor ↦ .inr ?_, fun _ hno ↦ absurd hends.1 (hno s hsd), fun t _ ht ↦ ?_⟩
      · have hunseparated := hor.resolve_left (Nat.ne_of_gt hpos)
        obtain ⟨hin, hnone⟩ :=
          hnothing s d (Nat.le_refl s) (Nat.le_of_lt hsd) (Level.mentioned_of_not_leftOut hd)
        rw [hfound]
        refine reaches_of_unseparated hspos (Nat.le_of_lt hsd) hunseparated hin ?_
        rw [sectionHolds, hnone]
        rfl
      · rw [hends.unique ht, hfound]

/-- Ports behind one tag and behind three, with two tags left out by a decision, and more. -/
def portsAround (deeper : List (Kind × Int × Operator × String)) : List Criterion :=
  Criterion.accepted .empty
    ([(.packet .port, 1, .anyOf, "80"), (.disposition, 2, .none, ""),
      (.packet .port, 3, .anyOf, "443")] ++ deeper)

/-- Ports behind one tag, with two tags left out, and any packets behind three and behind four. -/
def portsBeforeOpen : List Criterion :=
  Criterion.accepted .empty
    [(.packet .port, 1, .anyOf, "80"), (.disposition, 2, .none, ""), (.disposition, 3, .anyOf, ""),
      (.disposition, 4, .anyOf, "")]

private theorem endsAt_portsBeforeOpen : EndsAt portsBeforeOpen 3 := by
  have hmentioned : ∀ k ∈ Level.mentioned portsBeforeOpen, k ≤ 4 := by decide
  have hopen : ∀ i < 5, 3 ≤ i →
      ¬ LeftOut portsBeforeOpen i ∧ sectionFormula? i portsBeforeOpen = none := by decide
  refine ⟨⟨by decide, fun i k hi hk hm ↦ ?_⟩, fun t ht ho ↦ ?_⟩
  · have hle := hmentioned k (Level.mem_mentioned_iff.mpr hm)
    exact hopen i (by omega) hi
  · have hm : Mentioned portsBeforeOpen 4 := List.cons_ne_nil _ _
    have hout : LeftOut portsBeforeOpen 2 := by decide
    exact (ho.2 2 4 (by omega) (by decide) hm).1 hout

/-- A port behind four tags is let in, as an alternative to all that stands before it. Where the
expression stops behind two tags that are left out, it is not, since a port behind one tag is asked
for besides. -/
theorem portsAround_let_in :
    letsIn (Formula.ofText?
        "(vlan and (port 80)) and vlan and (vlan and (port 443)) or (vlan and (port 22))")
      (.behind 4 "port 22") = true ∧
    ¬ letsIn (Formula.ofText? "(vlan and (port 80)) and vlan and vlan") (.behind 4 "port 22") =
      true := by
  have ht : (Packet.behind 4 "port 22").tags = 4 := rfl
  constructor
  · have hb : ∀ c ∈ portsAround [(.packet .port, 4, .anyOf, "22")], c.Built :=
      fun _ hc ↦ .of_mem_accepted hc
    have hkind : ∀ c ∈ portsAround [(.packet .port, 4, .anyOf, "22")],
        c.kind ≠ .packet .address := by decide
    have hm : Mentioned (portsAround [(.packet .port, 4, .anyOf, "22")]) 4 := List.cons_ne_nil _ _
    have hdeeper : ∀ y < 10, 4 < y →
        LeftOut (portsAround [(.packet .port, 4, .anyOf, "22")]) y := by decide
    obtain ⟨-, hiff, -⟩ := included_let_in_iff hb
      (fun c hc ↦ Criterion.legible_of_kind (hkind c hc)) (by decide) (by decide) rfl (by decide) ht
      (by decide) (fun h ↦ nomatch h)
    refine (hiff (by decide) ?_).mpr (.inr ⟨?_, by decide⟩)
    · intro s hs hopen
      exact absurd (hopen.2 4 4 (Nat.le_of_lt hs) (Nat.le_refl 4) hm).2 (by decide)
    · intro x y hx hxy _
      refine Decidable.byContradiction fun hin ↦ hin (hdeeper y ?_ (Nat.lt_trans hx hxy))
      exact Level.lt_of_mentioned (Level.mentioned_of_not_leftOut hin)
  · have hb : ∀ c ∈ portsBeforeOpen, c.Built := fun _ hc ↦ .of_mem_accepted hc
    have hkind : ∀ c ∈ portsBeforeOpen, c.kind ≠ .packet .address := by decide
    have hcompile : compile true portsBeforeOpen =
        .ok "(vlan and (port 80)) and vlan and vlan" := rfl
    obtain ⟨-, -, hiff⟩ := included_let_in_iff hb
      (fun c hc ↦ Criterion.legible_of_kind (hkind c hc)) (by decide) (by decide) hcompile
      (by decide) ht (by decide) (fun h ↦ nomatch h)
    rw [hiff 3 (by decide) endsAt_portsBeforeOpen]
    decide

/-- Untagged packets of any kind, and a port behind one tag. -/
def untaggedBeside : List Criterion :=
  Criterion.accepted .empty [(.disposition, 0, .anyOf, ""), (.packet .port, 1, .anyOf, "80")]

/-- An expression does not let a packet in although the section of its depth does. -/
def Loses (cs : List Criterion) (e : String) (p : Packet) : Prop :=
  compile true cs = .ok e ∧ ¬ LeftOut cs p.tags ∧ sectionHolds cs p p.tags = true ∧
    letsIn (Formula.ofText? e) p = false

/-- A port behind one tag is not let in, since one behind three is asked for besides; nor is an
untagged packet that has the ethertype of a tag. -/
theorem packets_lost :
    (∀ c ∈ portsAround [] ++ untaggedBeside, c.kind = .disposition → c.operator ≠ .allOf) ∧
      Loses (portsAround []) "(vlan and (port 80)) and vlan and (vlan and (port 443))"
        (.behind 1 "port 80") ∧
      Loses untaggedBeside
        "(not ether proto 0x8100 and not ether proto 0x88a8) or (vlan and (port 80))"
        (.behind 0 "ether proto 0x8100") :=
  ⟨by decide, ⟨rfl, by decide, by decide, by decide⟩, ⟨rfl, by decide, by decide, by decide⟩⟩

end CaptureFilter.Expression
