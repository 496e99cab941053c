import CaptureFilter.Proofs.Fidelity
import CaptureFilter.Proofs.Packets

/-!
# Where expressions stop early

An expression stops at a tagged level that asks for nothing if the same holds of all deeper ones.
The levels cut off would each ask for one more tag. What that changes depends on how they would be
joined: one joined by `and` takes packets with fewer tags away, and one joined by `or` lets all
packets with that many tags in.
Spec guidance: `SPEC_FULL.md` §4.2 step 5 (`_emit`, `_fragment`).
-/

namespace CaptureFilter.Expression

/-! ### The levels cut off -/

/-- A level is let in and asks for nothing. -/
def Level.isOpen (l : Level) : Bool := !l.excluded && l.text.isEmpty

/-- The levels from the first one on from which all are let in and ask for nothing. -/
def openTail : List Level → List Level
  | [] => []
  | level :: below => if (level :: below).all Level.isOpen then level :: below else openTail below

/-- How levels are joined to the one before them, one after the other. -/
def jointsAfter (previous : Level) : List Level → List Joint
  | [] => []
  | level :: below => joint previous level :: jointsAfter level below

/-- The last piece of an expression that an empty level does not end. -/
def Piece.ends (piece : Piece) : Bool := piece.last && piece.clause ≠ .tag

/-- A piece that is not the last one does not end an expression. -/
theorem Piece.not_ends {piece : Piece} (h : piece.last = false) : ¬ piece.ends = true := by
  rw [Piece.ends, h, Bool.false_and]
  exact Bool.false_ne_true

/-- The formula of criteria if an empty level never ended their expression. -/
def formulaUnabridged (vlan : Bool) (cs : List Criterion) :
    Except CompileFault (Option Formula) :=
  let levels := Level.levels cs
  (writtenUpTo Piece.ends vlan levels).map (assembleFormula? cs (boundary levels))

variable {cs : List Criterion} {p q : Packet} {level stop : Level} {below levels cut : List Level}
  {entries all : List (Level × Clause)} {truth : Bool} {n : Nat}

/-- A level that asks for nothing is let in. -/
theorem excluded_of_isOpen (h : level.isOpen = true) : level.excluded = false := by
  rw [Level.isOpen, Bool.and_eq_true, Bool.not_eq_true'] at h
  exact h.1

/-- A level that asks for nothing has no text. -/
theorem text_of_isOpen (h : level.isOpen = true) : level.text = "" := by
  rw [Level.isOpen, Bool.and_eq_true] at h
  exact String.isEmpty_iff.mp h.2

private theorem isOpen_eq (l : Level) : (!l.excluded && !l.filtered) = l.isOpen := by
  rw [Level.filtered, Level.isOpen]
  cases l.excluded <;> simp

private theorem openTail_of_all (h : ∀ l ∈ level :: below, l.isOpen = true) :
    openTail (level :: below) = level :: below := by
  rw [openTail, if_pos (List.all_eq_true.mpr h)]

private theorem openTail_of_not_all (h : ∃ l ∈ level :: below, l.isOpen = false) :
    openTail (level :: below) = openTail below := by
  obtain ⟨l, hl, ho⟩ := h
  rw [openTail, if_neg]
  intro hall
  rw [List.all_eq_true.mp hall l hl] at ho
  cases ho

private theorem openTail_of_excluded (h : ∀ l ∈ levels, l.excluded = true) :
    openTail levels = [] := by
  induction levels with
  | nil => rfl
  | cons level below ih =>
    have ho : level.isOpen = false := by
      rw [Level.isOpen, h level List.mem_cons_self]
      rfl
    rw [openTail_of_not_all ⟨level, List.mem_cons_self, ho⟩]
    exact ih fun l hl ↦ h l (List.mem_cons_of_mem level hl)

/-- The levels from one on are levels. -/
theorem mem_of_mem_openTail (h : level ∈ openTail levels) : level ∈ levels := by
  induction levels with
  | nil => exact h
  | cons first below ih =>
    rw [openTail] at h
    split at h
    · exact h
    · exact List.mem_cons_of_mem first (ih h)

/-- The levels from one on all ask for nothing. -/
theorem isOpen_of_mem_openTail (h : level ∈ openTail levels) : level.isOpen = true := by
  induction levels with
  | nil => exact absurd h List.not_mem_nil
  | cons first below ih =>
    rw [openTail] at h
    split at h
    · next hall => exact List.all_eq_true.mp hall level h
    · exact ih h

private theorem exists_included_of_openTail (h : openTail levels = stop :: cut) :
    ∃ l ∈ levels, l.excluded = false := by
  have hstop : stop ∈ openTail levels := by
    rw [h]
    exact List.mem_cons_self
  exact ⟨stop, mem_of_mem_openTail hstop, excluded_of_isOpen (isOpen_of_mem_openTail hstop)⟩

/-- Levels that ask for nothing are written as one tag each if none of them stops. -/
theorem unabridged_of_isOpen (hc : Consecutive (n + 1) levels)
    (ho : ∀ l ∈ levels, l.isOpen = true) :
    writtenUpTo Piece.ends true levels = .ok (levels.map fun l ↦ (l, .tag)) := by
  induction levels generalizing n with
  | nil => rfl
  | cons level below ih =>
    have hopen := ho level List.mem_cons_self
    have hw : Writes true level below ⟨.tag, below.all fun l ↦ !l.excluded && !l.filtered⟩ :=
      .empty (excluded_of_isOpen hopen) (text_of_isOpen hopen) (by rw [hc.1]; omega)
    rw [writtenUpTo_of_writes (.inr rfl) hw, if_neg (by simp [Piece.ends]),
      ih hc.2 fun l hl ↦ ho l (List.mem_cons_of_mem level hl)]
    rfl

/-- Writing stops early at a tagged level, ends at it, or goes on because a level from there on is
left out or asks for something. -/
theorem written_tagged_cons (hi : level.index ≠ 0) (h : written true (level :: below) = .ok all) :
    ((∀ l ∈ level :: below, l.isOpen = true) ∧ all = [(level, .tag)]) ∨
      ((∀ l ∈ level :: below, l.excluded = true) ∧ all = [(level, .noTag)]) ∨
      ((∃ l ∈ level :: below, l.isOpen = false) ∧ ∃ piece rest, Writes true level below piece ∧
        piece.last = false ∧ written true below = .ok rest ∧
          all = (level, piece.clause) :: rest) := by
  have hstart : level ∈ level :: below := List.mem_cons_self
  rw [written] at h
  obtain ⟨piece, hw, ⟨hlast, rfl⟩ | ⟨hlast, rest, hr, rfl⟩⟩ := writtenUpTo_true_cons h
  · rcases hw.of_tagged hi with ⟨-, -, rfl⟩ | ⟨he, hb, rfl⟩ | ⟨he, ht, rfl⟩ | ⟨-, -, rfl⟩
    · cases hlast
    · exact .inr (.inl ⟨List.forall_mem_cons.mpr ⟨he, hb⟩, rfl⟩)
    · refine .inl ⟨List.forall_mem_cons.mpr ⟨?_, ?_⟩, rfl⟩
      · rw [Level.isOpen, he, ht]
        rfl
      · intro l hl
        rw [← isOpen_eq]
        exact List.all_eq_true.mp hlast l hl
    · cases hlast
  · refine .inr (.inr ⟨?_, piece, rest, hw, hlast, hr, rfl⟩)
    rcases hw.of_tagged hi with ⟨he, -, -⟩ | ⟨he, -, -⟩ | ⟨-, -, rfl⟩ | ⟨-, ht, -⟩
    · exact ⟨level, hstart, by rw [Level.isOpen, he]; rfl⟩
    · exact ⟨level, hstart, by rw [Level.isOpen, he]; rfl⟩
    · obtain ⟨l, hl, ho⟩ := List.all_eq_false.mp hlast
      rw [isOpen_eq, Bool.not_eq_true] at ho
      exact ⟨l, List.mem_cons_of_mem level hl, ho⟩
    · refine ⟨level, hstart, ?_⟩
      rw [Level.isOpen, Bool.and_eq_false_iff]
      exact .inr (Bool.eq_false_iff.mpr fun he ↦ ht (String.isEmpty_iff.mp he))

/-- Without stopping early the levels cut off follow, each as one tag. -/
theorem unabridged_of_written (hc : Consecutive (n + 1) levels)
    (h : written true levels = .ok all) :
    writtenUpTo Piece.ends true levels =
      .ok (all ++ (openTail levels).tail.map fun l ↦ (l, .tag)) := by
  induction levels generalizing n all with
  | nil =>
    cases h
    rfl
  | cons level below ih =>
    have hi : level.index ≠ 0 := by
      rw [hc.1]
      omega
    rcases written_tagged_cons hi h with
      ⟨ho, rfl⟩ | ⟨he, rfl⟩ | ⟨ho, piece, rest, hw, hlast, hr, rfl⟩
    · rw [unabridged_of_isOpen hc ho, openTail_of_all ho]
      rfl
    · have hw : Writes true level below ⟨.noTag, true⟩ :=
        .ended (he level List.mem_cons_self) hi fun l hl ↦ he l (List.mem_cons_of_mem level hl)
      rw [writtenUpTo_of_writes (.inr rfl) hw, if_pos (by rfl), openTail_of_excluded he]
      rfl
    · rw [writtenUpTo_of_writes (.inr rfl) hw, if_neg (Piece.not_ends hlast), ih hc.2 hr,
        openTail_of_not_all ho]
      rfl

/-- Where levels are cut off, what is written ends with the tag of the level before them, which is
the deepest one written. -/
theorem written_of_openTail (hc : Consecutive (n + 1) levels)
    (h : written true levels = .ok all) (ho : openTail levels = stop :: cut) :
    (∃ front, all = front ++ [(stop, .tag)]) ∧ (∀ entry ∈ all, entry.1.index ≤ stop.index) ∧
      Consecutive (stop.index + 1) cut := by
  induction levels generalizing n all with
  | nil => cases ho
  | cons level below ih =>
    have hi : level.index ≠ 0 := by
      rw [hc.1]
      omega
    have hstop : stop ∈ level :: below := by
      apply mem_of_mem_openTail
      rw [ho]
      exact List.mem_cons_self
    have hle : level.index ≤ stop.index := by
      rw [hc.1]
      exact hc.le_index stop hstop
    rcases written_tagged_cons hi h with
      ⟨hall, rfl⟩ | ⟨he, rfl⟩ | ⟨hnot, piece, rest, hw, hlast, hr, rfl⟩
    · rw [openTail_of_all hall] at ho
      cases ho
      refine ⟨⟨[], rfl⟩, ?_, ?_⟩
      · intro entry hm
        exact Nat.le_of_eq (by rw [List.mem_singleton.mp hm])
      · rw [hc.1]
        exact hc.2
    · rw [openTail_of_excluded he] at ho
      cases ho
    · rw [openTail_of_not_all hnot] at ho
      obtain ⟨⟨front, rfl⟩, hmax, hcut⟩ := ih hc.2 hr ho
      refine ⟨⟨(level, piece.clause) :: front, rfl⟩, ?_, hcut⟩
      exact List.forall_mem_cons.mpr ⟨hle, hmax⟩

/-! ### What is found for the levels cut off -/

/-- What is found once the tags of levels cut off have been joined to what is found before them. -/
def cutHolds (p : Packet) (stop : Level) (truth : Bool) : List Level → Bool
  | [] => truth
  | level :: below =>
    cutHolds p level ((joint stop level).holds truth (decide (level.index ≤ p.tags))) below

private theorem found_cut (cs : List Criterion) (p : Packet) (stop : Level) (truth : Bool)
    (cut : List Level) :
    Found ((cut.map fun l ↦ (l, Clause.tag)).foldl (chainStep cs p) (some (stop, truth))) =
      cutHolds p stop truth cut := by
  induction cut generalizing stop truth with
  | nil => rfl
  | cons level below ih =>
    rw [List.map_cons, List.foldl_cons, chainStep_some, ih]
    rfl

/-- Joined by `and`, a level cut off would take packets without its tag away. -/
theorem cutHolds_of_conj (hc : Consecutive (n + 1) cut) (hn : p.tags ≤ n)
    (hj : truth = false ∨ .conj ∈ jointsAfter stop cut) : cutHolds p stop truth cut = false := by
  induction cut generalizing n stop truth with
  | nil => exact hj.resolve_right List.not_mem_nil
  | cons level below ih =>
    have hi : decide (level.index ≤ p.tags) = false := by
      apply decide_eq_false
      rw [hc.1]
      omega
    rw [cutHolds, hi]
    apply ih hc.2 (by omega)
    rcases hj with rfl | hj
    · left
      cases joint stop level <;> rfl
    · rcases List.mem_cons.mp hj with hj | hj
      · left
        rw [← hj, Joint.holds, Bool.and_false]
      · exact .inr hj

/-- Joined by `or`, a level cut off would let packets with its tag in. -/
theorem cutHolds_of_disj (hd : ∀ l ∈ cut, l.index ≤ p.tags)
    (hj : truth = true ∨ .disj ∈ jointsAfter stop cut) : cutHolds p stop truth cut = true := by
  induction cut generalizing stop truth with
  | nil => exact hj.resolve_right List.not_mem_nil
  | cons level below ih =>
    have hi : decide (level.index ≤ p.tags) = true :=
      decide_eq_true (hd level List.mem_cons_self)
    rw [cutHolds, hi]
    apply ih fun l hl ↦ hd l (List.mem_cons_of_mem level hl)
    rcases hj with rfl | hj
    · left
      cases joint stop level <;> rfl
    · rcases List.mem_cons.mp hj with hj | hj
      · left
        rw [← hj, Joint.holds, Bool.or_true]
      · exact .inr hj

/-- Levels that would all be joined by `or` take no packet away. -/
theorem cutHolds_of_no_conj (hj : .conj ∉ jointsAfter stop cut) :
    cutHolds p stop true cut = true := by
  induction cut generalizing stop with
  | nil => rfl
  | cons level below ih =>
    rw [jointsAfter, List.mem_cons, not_or] at hj
    have hdisj : joint stop level = .disj := by
      cases h : joint stop level with
      | conj => exact absurd h.symm hj.1
      | disj => rfl
    rw [cutHolds, hdisj, Joint.holds, Bool.true_or]
    exact ih hj.2

/-- Levels that would all be joined by `and` let no packet in. -/
theorem cutHolds_of_no_disj (hj : .disj ∉ jointsAfter stop cut) :
    cutHolds p stop false cut = false := by
  induction cut generalizing stop with
  | nil => rfl
  | cons level below ih =>
    rw [jointsAfter, List.mem_cons, not_or] at hj
    have hconj : joint stop level = .conj := by
      cases h : joint stop level with
      | conj => rfl
      | disj => exact absurd h.symm hj.1
    rw [cutHolds, hconj, Joint.holds, Bool.false_and]
    exact ih hj.2

/-- Cutting levels off changes nothing for a packet if one joined by `and` would not take it away
when it has too few tags, and one joined by `or` would not let it in when it has enough. -/
structure Harmless (untagged whole : Packet → Bool) (stop : Level) (cut : List Level) : Prop where
  /-- A packet that does not reach the levels cut off is let in for being untagged. -/
  conj : .conj ∈ jointsAfter stop cut →
    ∀ p, p.tags ≤ stop.index → whole p = true → untagged p = true
  /-- A packet that reaches the level that stops is let in. -/
  disj : .disj ∈ jointsAfter stop cut → ∀ p, stop.index ≤ p.tags → whole p = true

private theorem index_le_of_consecutive (hc : Consecutive n levels) :
    ∀ l ∈ levels, l.index ≤ n + levels.length := by
  induction levels generalizing n with
  | nil => exact fun l hl ↦ absurd hl List.not_mem_nil
  | cons level below ih =>
    intro l hl
    rw [List.length_cons]
    rcases List.mem_cons.mp hl with rfl | hl
    · rw [hc.1]
      omega
    · have := ih hc.2 l hl
      omega

section Cut

variable {untagged chain : Packet → Bool}
  (hu : ∀ p q, p.truth = q.truth → untagged p = untagged q)
  (ha : ∀ p q, p.truth = q.truth → stop.index ≤ p.tags → stop.index ≤ q.tags → chain p = chain q)

include hu ha

private theorem harmless_of_forall_eq (hc : Consecutive (stop.index + 1) cut)
    (h : ∀ p, (untagged p || chain p) = (untagged p || cutHolds p stop (chain p) cut)) :
    Harmless untagged (fun p ↦ untagged p || chain p) stop cut := by
  constructor
  · intro hj p hp hwhole
    have hcut := h p
    rw [hwhole, cutHolds_of_conj hc hp (.inr hj), Bool.or_false] at hcut
    exact hcut.symm
  · intro hj p hp
    -- a packet with all the tags of the levels cut off, and otherwise the same
    let q : Packet := ⟨stop.index + 1 + cut.length, p.truth⟩
    have hcut := h q
    rw [cutHolds_of_disj (index_le_of_consecutive hc) (.inr hj), Bool.or_true] at hcut
    have hq : stop.index ≤ q.tags := by
      change stop.index ≤ stop.index + 1 + cut.length
      omega
    rw [hu p q rfl, ha p q rfl hp hq, hcut]

private theorem not_chain_of_conj
    (h : Harmless untagged (fun p ↦ untagged p || chain p) stop cut)
    (hj : .conj ∈ jointsAfter stop cut) (hp : untagged p = false) : chain p = false := by
  have hshort (q : Packet) (ht : p.truth = q.truth) (hq : q.tags ≤ stop.index) :
      chain q = false := by
    apply Bool.eq_false_iff.mpr
    intro hchain
    have htrue := h.conj hj q hq (by rw [hchain, Bool.or_true])
    rw [← hu p q ht, hp] at htrue
    cases htrue
  by_cases ht : p.tags ≤ stop.index
  · exact hshort p rfl ht
  · -- the same packet without the tags beyond the level that stops
    rw [ha p ⟨stop.index, p.truth⟩ rfl (by omega) (Nat.le_refl _)]
    exact hshort ⟨stop.index, p.truth⟩ rfl (Nat.le_refl _)

private theorem forall_eq_of_harmless (hc : Consecutive (stop.index + 1) cut)
    (h : Harmless untagged (fun p ↦ untagged p || chain p) stop cut) (p : Packet) :
    (untagged p || chain p) = (untagged p || cutHolds p stop (chain p) cut) := by
  cases hp : untagged p with
  | true => rw [Bool.true_or, Bool.true_or]
  | false =>
    rw [Bool.false_or, Bool.false_or]
    cases hchain : chain p with
    | true =>
      symm
      apply cutHolds_of_no_conj
      intro hj
      rw [not_chain_of_conj hu ha h hj hp] at hchain
      cases hchain
    | false =>
      symm
      by_cases ht : p.tags ≤ stop.index
      · exact cutHolds_of_conj hc ht (.inl rfl)
      · apply cutHolds_of_no_disj
        intro hj
        have htrue := h.disj hj p (by omega)
        rw [hp, hchain] at htrue
        cases htrue

/-- With the untagged part and the chain as far as it is written, cutting off the levels behind it
changes nothing for all packets exactly if it is harmless. -/
theorem forall_eq_cut_iff (hc : Consecutive (stop.index + 1) cut) :
    (∀ p, (untagged p || chain p) = (untagged p || cutHolds p stop (chain p) cut)) ↔
      Harmless untagged (fun p ↦ untagged p || chain p) stop cut :=
  ⟨harmless_of_forall_eq hu ha hc, forall_eq_of_harmless hu ha hc⟩

end Cut

/-! ### Expressions -/

private theorem holds_congr_tags {f : Formula} (hf : f.depth = 0) (ht : p.truth = q.truth)
    (before : Nat) : f.holds p before = f.holds q before :=
  Formula.holds_congr ht fun k hk hlt ↦ by omega

private theorem clause_holds_congr {index : Nat} (ht : p.truth = q.truth) (hp : index ≤ p.tags)
    (hq : index ≤ q.tags) (clause : Clause) :
    clause.holds cs p index = clause.holds cs q index := by
  cases clause with
  | nothing | untagged | terms => rfl
  | tag => exact decide_eq_decide.mpr (iff_of_true hp hq)
  | noTag => exact decide_eq_decide.mpr (iff_of_false (by omega) (by omega))
  | tagAndTerms =>
    have hs : sectionHolds cs p index = sectionHolds cs q index := by
      rw [sectionHolds, sectionHolds]
      cases hf : sectionFormula? index cs with
      | none => rfl
      | some f => exact holds_congr_tags (depth_of_sectionFormula? hf) ht index
    rw [Clause.holds, Clause.holds, hs, decide_eq_true hp, decide_eq_true hq]

/-- Tags beyond the levels that are written do not matter. -/
theorem chainHolds_congr (ht : p.truth = q.truth)
    (h : ∀ entry ∈ entries, entry.1.index ≤ p.tags ∧ entry.1.index ≤ q.tags) :
    chainHolds cs p entries = chainHolds cs q entries := by
  have hfold (found : Option (Level × Bool)) :
      entries.foldl (chainStep cs p) found = entries.foldl (chainStep cs q) found := by
    induction entries generalizing found with
    | nil => rfl
    | cons entry rest ih =>
      obtain ⟨hp, hq⟩ := h entry List.mem_cons_self
      have hstep : chainStep cs p found entry = chainStep cs q found entry := by
        rw [chainStep, chainStep, clause_holds_congr ht hp hq]
      rw [List.foldl_cons, List.foldl_cons, hstep]
      exact ih (fun e he ↦ h e (List.mem_cons_of_mem entry he)) _
  rw [chainHolds, chainHolds, hfold]

private theorem untaggedHolds_congr (ht : p.truth = q.truth) :
    untaggedHolds cs p = untaggedHolds cs q := by
  rw [untaggedHolds, untaggedHolds]
  cases hf : untaggedFormula? cs with
  | none => rfl
  | some f => exact holds_congr_tags (depth_of_untaggedFormula? hf) ht 0

/-- Without stopping early the levels cut off follow what is written for all levels. -/
theorem unabridged_of_written_levels (hc : Consecutive 0 levels)
    (h : written true levels = .ok all) :
    writtenUpTo Piece.ends true levels =
      .ok (all ++ (openTail levels.tail).tail.map fun l ↦ (l, .tag)) := by
  cases levels with
  | nil =>
    cases h
    rfl
  | cons level below =>
    have hi : level.index = 0 := hc.1
    rw [written] at h
    obtain ⟨piece, hw, hrest⟩ := writtenUpTo_true_cons h
    rw [writtenUpTo_of_writes (.inr rfl) hw, List.tail_cons]
    rcases hrest with ⟨hlast, rfl⟩ | ⟨hlast, rest, hr, rfl⟩
    · rcases hw.of_untagged hi with
        ⟨-, -, rfl⟩ | ⟨-, rfl, rfl⟩ | ⟨-, -, -, rfl⟩ | ⟨-, -, hbelow, rfl⟩ | ⟨-, -, rfl⟩
      · cases hlast
      · rfl
      · cases hlast
      · rw [openTail_of_excluded hbelow]
        rfl
      · cases hlast
    · rw [if_neg (Piece.not_ends hlast), unabridged_of_written hc.2 hr]
      rfl

private theorem chainHolds_append_cut {front : List (Level × Clause)}
    (hall : entries = front ++ [(stop, .tag)]) :
    chainHolds cs p (entries ++ cut.map fun l ↦ (l, .tag)) =
      cutHolds p stop (chainHolds cs p entries) cut := by
  have hfound : entries.foldl (chainStep cs p) none = some (stop, chainHolds cs p entries) := by
    rw [chainHolds, hall, List.foldl_append, List.foldl_cons, List.foldl_nil]
    rfl
  rw [← found_cut cs, ← hfound, ← List.foldl_append]
  rfl

private theorem forall_letsIn_eq_cut_iff {piece : Piece} (hb : ∀ c ∈ cs, c.Built)
    (hlevels : Level.levels cs = level :: below) (hw : Writes true level below piece)
    (hr : written true below = .ok entries) (ho : openTail below = stop :: cut) :
    (∀ p, letsIn (assembleFormula? cs (boundary (Level.levels cs))
        ((level, piece.clause) :: entries)) p =
      letsIn (assembleFormula? cs (boundary (Level.levels cs))
        ((level, piece.clause) :: entries ++ cut.map fun l ↦ (l, .tag))) p) ↔
      Harmless (untaggedHolds cs) (letsIn (assembleFormula? cs (boundary (Level.levels cs))
        ((level, piece.clause) :: entries))) stop cut := by
  obtain ⟨-, hc⟩ := head_of_levels hlevels
  have hin := exists_included_of_openTail ho
  obtain ⟨⟨front, hfront⟩, hmax, hcut⟩ := written_of_openTail hc hr ho
  have hfull := unabridged_of_written hc hr
  rw [ho, List.tail_cons] at hfull
  have hshort : letsIn (assembleFormula? cs (boundary (Level.levels cs))
      ((level, piece.clause) :: entries)) =
        fun p ↦ untaggedHolds cs p || chainHolds cs p entries := by
    ext p
    exact letsIn_eq_or hb hlevels hw hin hr
  have hlong (p : Packet) : letsIn (assembleFormula? cs (boundary (Level.levels cs))
      ((level, piece.clause) :: entries ++ cut.map fun l ↦ (l, .tag))) p =
        (untaggedHolds cs p || cutHolds p stop (chainHolds cs p entries) cut) := by
    rw [← chainHolds_append_cut hfront]
    exact letsIn_eq_or hb hlevels hw hin hfull
  rw [hshort]
  simp only [hlong]
  refine forall_eq_cut_iff (fun p q ht ↦ untaggedHolds_congr ht) ?_ hcut
  intro p q ht hp hq
  apply chainHolds_congr ht
  intro entry hm
  exact ⟨Nat.le_trans (hmax entry hm) hp, Nat.le_trans (hmax entry hm) hq⟩

private theorem forall_letsIn_eq_iff (hb : ∀ c ∈ cs, c.Built)
    (h : written true (Level.levels cs) = .ok all) :
    (∀ p, letsIn (assembleFormula? cs (boundary (Level.levels cs)) all) p =
      letsIn (assembleFormula? cs (boundary (Level.levels cs))
        (all ++ (openTail (Level.levels cs).tail).tail.map fun l ↦ (l, .tag))) p) ↔
      ∀ stop cut, openTail (Level.levels cs).tail = stop :: cut →
        Harmless (untaggedHolds cs)
          (letsIn (assembleFormula? cs (boundary (Level.levels cs)) all)) stop cut := by
  cases ho : openTail (Level.levels cs).tail with
  | nil =>
    refine iff_of_true ?_ fun stop cut he ↦ nomatch he
    intro p
    rw [List.tail_nil, List.map_nil, List.append_nil]
  | cons stop cut =>
    rw [List.tail_cons]
    cases hl : Level.levels cs with
    | nil =>
      rw [hl] at ho
      cases ho
    | cons level below =>
      rw [hl, List.tail_cons] at ho
      rw [hl, written] at h
      obtain ⟨piece, hw, ⟨hlast, -⟩ | ⟨-, rest, hr, rfl⟩⟩ := writtenUpTo_true_cons h
      · -- the untagged level ends an expression only if no tagged level is let in
        have hi : level.index = 0 := by
          rw [(head_of_levels hl).1, Level.index_atDepth]
        rw [hw.last_of_untagged hi (exists_included_of_openTail ho)] at hlast
        cases hlast
      · have hiff := forall_letsIn_eq_cut_iff hb hl hw hr ho
        rw [hl] at hiff
        rw [hiff]
        constructor
        · intro hharmless stop cut he
          cases he
          exact hharmless
        · exact fun hharmless ↦ hharmless stop cut rfl

/-- Stopping at a level that asks for nothing changes nothing exactly if cutting off the levels
below it is harmless. -/
theorem early_stop_harmless_iff {cs : List Criterion} (hb : ∀ c ∈ cs, c.Built) {e : String}
    (h : emit true (Level.levels cs) = .ok e) :
    ∃ full f g, emitUnabridged true (Level.levels cs) = .ok full ∧ formula true cs = .ok f ∧
      formulaUnabridged true cs = .ok g ∧
      ((∀ c ∈ cs, c.Legible) → Formula.ofText? e = f ∧ Formula.ofText? full = g) ∧
      ((∀ p, letsIn f p = letsIn g p) ↔
        ∀ stop cut, openTail (Level.levels cs).tail = stop :: cut →
          Harmless (untaggedHolds cs) (letsIn f) stop cut) := by
  obtain ⟨all, hw, rfl⟩ := map_eq_ok_iff.mp h
  have hfull := unabridged_of_written_levels (consecutive_levels cs) hw
  let full := all ++ (openTail (Level.levels cs).tail).tail.map fun l ↦ (l, Clause.tag)
  let joined := boundary (Level.levels cs)
  refine ⟨assemble joined full, assembleFormula? cs joined all, assembleFormula? cs joined full,
    ?_, ?_, ?_, ?_, forall_letsIn_eq_iff hb hw⟩
  · exact map_eq_ok_iff.mpr ⟨full, hfull, rfl⟩
  · exact map_eq_ok_iff.mpr ⟨all, hw, rfl⟩
  · exact map_eq_ok_iff.mpr ⟨full, hfull, rfl⟩
  · intro hl
    exact ⟨ofText?_assemble hb hl hw joined, ofText?_assemble hb hl hfull joined⟩

/-- Two tagged sections that ask for nothing, with a decision on each. -/
def openSections (inner : Operator) : List Criterion :=
  Criterion.accepted .empty [(.disposition, 1, .anyOf, ""), (.disposition, 2, inner, "")]

/-- Stopping above an alternative is harmless. -/
theorem openSections_harmless :
    formulaUnabridged true (openSections .anyOf) = .ok (some (.disj .vlan .vlan)) ∧
      ∀ p, letsIn (some .vlan) p = letsIn (some (.disj .vlan .vlan)) p := by
  have hb : ∀ c ∈ openSections .anyOf, c.Built := fun _ hc ↦ .of_mem_accepted hc
  have he : emit true (Level.levels (openSections .anyOf)) = .ok "vlan" := rfl
  have hvlan : formula true (openSections .anyOf) = .ok (some .vlan) := rfl
  have hboth : formulaUnabridged true (openSections .anyOf) = .ok (some (.disj .vlan .vlan)) := rfl
  obtain ⟨full, f, g, -, hf, hg, -, hiff⟩ := early_stop_harmless_iff hb he
  rw [hvlan] at hf
  rw [hboth] at hg
  cases hf
  cases hg
  refine ⟨hboth, hiff.mpr ?_⟩
  intro stop cut ho
  cases ho
  constructor
  · intro hj
    exact absurd hj (by decide)
  · intro _ p hp
    exact decide_eq_true hp

/-- Stopping above a section that is to be taken together with its neighbours lets in a packet that
has too few tags. -/
theorem openSections_harmful :
    (∀ c ∈ openSections .allOf, c.Built) ∧
      compile true (openSections .allOf) = .ok "vlan" ∧
      emit true (Level.levels (openSections .allOf)) = .ok "vlan" ∧
      emitUnabridged true (Level.levels (openSections .allOf)) = .ok "vlan and vlan" ∧
      letsIn (Formula.ofText? "vlan") ⟨1, fun _ _ ↦ false⟩ = true ∧
      letsIn (Formula.ofText? "vlan and vlan") ⟨1, fun _ _ ↦ false⟩ = false :=
  ⟨fun _ hc ↦ .of_mem_accepted hc, rfl, rfl, rfl, rfl, rfl⟩

end CaptureFilter.Expression
