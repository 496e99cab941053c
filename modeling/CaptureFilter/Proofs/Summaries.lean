import CaptureFilter.Proofs.Fidelity
import Mathlib.Data.List.Induction

/-!
# Summaries of sections

An expression depends on its criteria only by a short summary of each section: whether it is
mentioned, whether it is left out, and else whether its last decision takes it together with its
neighbours and which filters are asked for, in order. So criteria of different sections may come in
any order, and nothing that is said of a section that is left out matters.
Spec guidance: `SPEC_FULL.md` §4.2 steps 2 and 3 (`_group_sections`, `_fill_sections`).
-/

namespace CaptureFilter

/-- Whether a criterion asks for something: it compares a field and has a filter text. -/
def Criterion.asks (c : Criterion) : Bool :=
  match c.kind with
  | .packet _ => c.filter ≠ ""
  | _ => false

namespace Expression

open Level

/-- The filters that criteria ask for, in order, each with whether it must hold besides what came
before. -/
def askedFilters (cs : List Criterion) : List (Bool × String) :=
  (cs.filter Criterion.asks).map fun c ↦ (c.operator.required, c.filter)

/-- The last decision that criteria make. -/
def lastDecision? (cs : List Criterion) : Option Operator :=
  (cs.filter (·.kind = .disposition)).getLast?.map (·.operator)

/-- What criteria say of a section, as far as an expression depends on it. -/
inductive Summary where
  /-- The section is not mentioned. -/
  | unmentioned
  /-- A decision leaves the section out. -/
  | leftOut
  /-- The section is let in: whether it is taken together with its neighbours, and the filters. -/
  | letIn (together : Bool) (asked : List (Bool × String))
  deriving DecidableEq, Repr

/-- The summary of a section. -/
def summary (index : Nat) (cs : List Criterion) : Summary :=
  let here := criteriaAt index cs
  if here.isEmpty then .unmentioned
  else if here.any Criterion.leavesOut then .leftOut
  else .letIn (lastDecision? here = some .allOf) (askedFilters here)

/-- A filter behind those joined before it, as a group. -/
def joinFilter (text : String) (asked : Bool × String) : String :=
  text ++ (if asked.1 then " and " else " or ") ++ group asked.2

/-- Filters joined in order, each as a group. -/
def joinFilters : List (Bool × String) → String
  | [] => ""
  | (_, filter) :: rest => rest.foldl joinFilter (group filter)

/-- The level that a summary stands for. -/
def Level.ofSummary (index : Nat) : Summary → Level
  | .unmentioned | .leftOut => { index, excluded := true }
  | .letIn together asked =>
    { index
      disposition := if together then some .allOf else none
      terms := asked.map fun (_, filter) ↦ group filter
      text := joinFilters asked }

/-! ### Filters joined -/

/-- Filters joined are empty only if there are none. -/
theorem joinFilters_eq_empty_iff {asked : List (Bool × String)} :
    joinFilters asked = "" ↔ asked = [] := by
  have hne (text : String) (ht : text ≠ "") (rest : List (Bool × String)) :
      rest.foldl joinFilter text ≠ "" := by
    induction rest generalizing text with
    | nil => exact ht
    | cons a rest ih => exact ih _ (by simp [joinFilter, ht])
  cases asked with
  | nil => simp [joinFilters]
  | cons a rest =>
    exact iff_of_false (hne _ (group_ne_empty a.2) rest) (List.cons_ne_nil a rest)

/-- A filter behind others is joined to what they make. -/
theorem joinFilters_concat {front : List (Bool × String)} (h : front ≠ []) (last : Bool × String) :
    joinFilters (front ++ [last]) = joinFilter (joinFilters front) last := by
  obtain ⟨⟨required, filter⟩, rest, rfl⟩ := List.exists_cons_of_ne_nil h
  rw [List.cons_append, joinFilters, joinFilters, List.foldl_append, List.foldl_cons,
    List.foldl_nil]

/-! ### Summaries of lists -/

/-- A decision is the last one unless another one follows. -/
theorem lastDecision?_cons (c : Criterion) (rest : List Criterion) :
    lastDecision? (c :: rest) =
      if c.kind = .disposition then (lastDecision? rest).or (some c.operator)
      else lastDecision? rest := by
  unfold lastDecision?
  by_cases hk : c.kind = .disposition
  · rw [if_pos hk, List.filter_cons_of_pos (by simpa using hk), List.getLast?_cons]
    cases (rest.filter (·.kind = .disposition)).getLast? <;> rfl
  · rw [if_neg hk, List.filter_cons_of_neg (by simpa using hk)]

/-- The filters asked for are those of the criteria in order. -/
theorem askedFilters_cons (c : Criterion) (rest : List Criterion) :
    askedFilters (c :: rest) =
      if c.asks then (c.operator.required, c.filter) :: askedFilters rest
      else askedFilters rest := by
  unfold askedFilters
  by_cases ha : c.asks = true
  · rw [if_pos ha, List.filter_cons_of_pos ha, List.map_cons]
  · rw [if_neg ha, List.filter_cons_of_neg ha]

/-- Only filters that say something are asked for. -/
theorem ne_empty_of_mem_askedFilters {cs : List Criterion} {asked : Bool × String}
    (h : asked ∈ askedFilters cs) : asked.2 ≠ "" := by
  obtain ⟨c, hc, rfl⟩ := List.mem_map.mp h
  have ha := (List.mem_filter.mp hc).2
  unfold Criterion.asks at ha
  split at ha
  · exact of_decide_eq_true ha
  · cases ha

namespace Level

variable {l : Level} {cs : List Criterion}

/-! ### What a level takes in -/

/-- A level that is left out holds nothing. -/
def Emptied (l : Level) : Prop := l.excluded = true → l.terms = [] ∧ l.text = ""

/-- Taking a criterion in leaves nothing in a level that is left out. -/
theorem emptied_absorb (h : l.Emptied) (c : Criterion) : (l.absorb c).Emptied := by
  intro he
  unfold absorb at he ⊢
  split
  · next hl => exact h hl
  · next hl =>
    rw [if_neg hl] at he
    split at he
    · dsimp only at he ⊢
      split at he
      · next ho =>
        rw [if_pos ho]
        exact ⟨rfl, rfl⟩
      · exact absurd he hl
    · rw [(add_keeps l c).2.1] at he
      exact absurd he hl

/-- Taking criteria in leaves nothing in a level that is left out. -/
theorem emptied_foldl_absorb (h : l.Emptied) (cs : List Criterion) :
    (cs.foldl absorb l).Emptied := by
  induction cs generalizing l with
  | nil => exact h
  | cons c rest ih => exact ih (emptied_absorb h c)

/-- Adds a filter that is asked for. -/
def addAsked (l : Level) (asked : Bool × String) : Level := l.addTerm asked.1 asked.2

/-- Without a criterion that leaves it out a level takes in the last decision and the filters asked
for. -/
theorem foldl_absorb_eq (he : l.excluded = false) (hk : ∀ c ∈ cs, c.kind ≠ .preset)
    (hc : ∀ c ∈ cs, c.leavesOut = false) :
    cs.foldl absorb l =
      (askedFilters cs).foldl addAsked
        { l with disposition := (lastDecision? cs).or l.disposition } := by
  induction cs generalizing l with
  | nil => rfl
  | cons c rest ih =>
    have hks : ∀ d ∈ rest, d.kind ≠ .preset := fun d hd ↦ hk d (List.mem_cons_of_mem c hd)
    have hcs : ∀ d ∈ rest, d.leavesOut = false := fun d hd ↦ hc d (List.mem_cons_of_mem c hd)
    rw [List.foldl_cons, absorb_of_keeps he (hc c List.mem_cons_self), lastDecision?_cons,
      askedFilters_cons]
    cases hkind : c.kind with
    | disposition =>
      have ha : ¬ c.asks = true := by simp [Criterion.asks, hkind]
      rw [if_pos rfl, if_pos rfl, if_neg ha, Option.or_assoc]
      exact ih he hks hcs
    | packet field =>
      -- a filter leaves the decisions as they are, so those that follow may be made first
      have he' : (l.add c).excluded = false := by rw [(add_keeps l c).2.1, he]
      rw [if_neg (by simp), if_neg (by simp), ih he' hks hcs, (add_keeps l c).2.2]
      by_cases hf : c.filter = ""
      · have ha : ¬ c.asks = true := by simp [Criterion.asks, hkind, hf]
        rw [if_neg ha, add, addTerm, if_pos (by simp [hf])]
      · have ha : c.asks = true := by simp [Criterion.asks, hkind, hf]
        have hn : ¬ c.filter.isEmpty = true := by simpa using hf
        rw [if_pos ha, List.foldl_cons, add, addTerm, if_neg hn, addAsked, addTerm, if_neg hn]
        rfl
    | preset => exact absurd hkind (hk c List.mem_cons_self)

/-- A level holds filters that are asked for: as terms, and joined in order. -/
structure Holds (l : Level) (asked : List (Bool × String)) : Prop where
  /-- The terms are the filters, each as a group. -/
  terms_eq : l.terms = asked.map fun (_, filter) ↦ group filter
  /-- The text is the terms, each behind the first one with its word in front. -/
  text_eq : l.text = joinFilters asked

/-- A filter added to a level that holds filters comes behind them. -/
theorem addAsked_eq {asked : List (Bool × String)} (h : l.Holds asked) {last : Bool × String}
    (hlast : last.2 ≠ "") :
    l.addAsked last =
      { l with
        terms := (asked ++ [last]).map fun (_, filter) ↦ group filter
        text := joinFilters (asked ++ [last]) } := by
  have hjoined : l.joined last.1 (group last.2) = joinFilters (asked ++ [last]) := by
    rw [joined, h.text_eq]
    by_cases hne : asked = []
    · subst hne
      rfl
    · have hsays : ¬ (joinFilters asked).isEmpty = true := by
        simpa [joinFilters_eq_empty_iff] using hne
      rw [if_neg hsays, joinFilters_concat hne, joinFilter]
  rw [addAsked, addTerm, if_neg (by simpa using hlast), hjoined, h.terms_eq, List.map_append]
  rfl

/-- Filters make the level of their summary. -/
theorem foldl_addAsked_nil {asked : List (Bool × String)} (hl : l.terms = []) (ht : l.text = "")
    (ha : ∀ a ∈ asked, a.2 ≠ "") :
    asked.foldl addAsked l =
      { l with
        terms := asked.map fun (_, filter) ↦ group filter
        text := joinFilters asked } := by
  induction asked using List.reverseRecOn with
  | nil => rw [List.foldl_nil, List.map_nil, joinFilters, ← hl, ← ht]
  | append_singleton front last ih =>
    rw [List.foldl_append, ih fun a h ↦ ha a (List.mem_append_left [last] h), List.foldl_cons,
      List.foldl_nil]
    exact addAsked_eq ⟨rfl, rfl⟩ (ha last (List.mem_append_right front List.mem_cons_self))

/-- The level of a section that is let in holds its last decision and its filters. -/
theorem atDepth_of_not_leftOut {cs : List Criterion} {index : Nat} (hin : ¬ LeftOut cs index) :
    atDepth cs index =
      { index
        disposition := lastDecision? (criteriaAt index cs)
        terms := (askedFilters (criteriaAt index cs)).map fun (_, filter) ↦ group filter
        text := joinFilters (askedFilters (criteriaAt index cs)) } := by
  obtain ⟨hm, hc⟩ := not_leftOut_iff.mp hin
  have hk : ∀ c ∈ criteriaAt index cs, c.kind ≠ .preset := by
    intro c hc
    obtain ⟨-, depth, hplace, -⟩ := mem_criteriaAt_iff.mp hc
    exact c.kind_ne_preset (by simp [hplace])
  rw [atDepth, if_neg (by simpa using hm), ofCriteria, foldl_absorb_eq rfl hk hc,
    foldl_addAsked_nil rfl rfl fun _ ↦ ne_empty_of_mem_askedFilters, Option.or_none]

/-- The level of a section that is left out is empty. -/
theorem atDepth_of_leftOut {cs : List Criterion} {index : Nat} (hout : LeftOut cs index) :
    (atDepth cs index).terms = [] ∧ (atDepth cs index).text = "" := by
  have hempty : (atDepth cs index).Emptied := by
    unfold atDepth
    split
    · exact fun _ ↦ ⟨rfl, rfl⟩
    · exact emptied_foldl_absorb (by simp [Emptied]) _
  exact hempty ((excluded_atDepth_iff cs index).mpr hout)

/-! ### What matters of a level -/

/-- A level as far as expressions depend on it: of its decisions only whether it is taken together
with its neighbours. -/
def essence (l : Level) : Level :=
  let together := !l.excluded && l.disposition = some .allOf
  { l with disposition := if together then some .allOf else none }

/-- The summary of a section tells whether it is mentioned. -/
theorem summary_eq_unmentioned_iff {index : Nat} {cs : List Criterion} :
    summary index cs = .unmentioned ↔ criteriaAt index cs = [] := by
  unfold summary
  dsimp only
  split
  · next h => simpa using h
  · next h => split <;> simpa using h

/-- The summary of a section that is let in. -/
theorem summary_of_not_leftOut {index : Nat} {cs : List Criterion} (hin : ¬ LeftOut cs index) :
    summary index cs =
      .letIn (lastDecision? (criteriaAt index cs) = some .allOf)
        (askedFilters (criteriaAt index cs)) := by
  obtain ⟨hm, hc⟩ := not_leftOut_iff.mp hin
  rw [summary, if_neg (by simpa using hm), if_neg (by simpa using hc)]

/-- The summary of a section that is left out stands for the same level whether or not a decision
leaves it out. -/
theorem ofSummary_of_leftOut {index : Nat} {cs : List Criterion} (hout : LeftOut cs index) :
    ofSummary index (summary index cs) = { index, excluded := true } := by
  unfold summary
  dsimp only
  split
  · rfl
  · next hm =>
    have hany : (criteriaAt index cs).any Criterion.leavesOut = true := by
      simpa [LeftOut, Criterion.leavesOut] using hout.resolve_left (by simpa using hm)
    rw [if_pos hany, ofSummary]

/-- The level of a depth matters by the summary of its section. -/
theorem essence_atDepth (cs : List Criterion) (index : Nat) :
    (atDepth cs index).essence = ofSummary index (summary index cs) := by
  by_cases hout : LeftOut cs index
  · have hempty := atDepth_of_leftOut hout
    have he := (excluded_atDepth_iff cs index).mpr hout
    rw [ofSummary_of_leftOut hout, essence, index_atDepth, he, hempty.1, hempty.2,
      if_neg (by simp)]
  · rw [atDepth_of_not_leftOut hout, summary_of_not_leftOut hout, essence, ofSummary]
    simp

/-- Criteria whose sections have the same summaries make levels that matter alike. -/
theorem map_essence_levels {cs ds : List Criterion}
    (h : ∀ index : Nat, index < 10 → summary index cs = summary index ds) :
    (levels cs).map essence = (levels ds).map essence := by
  have hmentioned : mentioned cs = mentioned ds := by
    apply List.filter_congr
    intro index hi
    have hs := h index (List.mem_range.mp hi)
    have hiff : criteriaAt index cs = [] ↔ criteriaAt index ds = [] := by
      rw [← summary_eq_unmentioned_iff, ← summary_eq_unmentioned_iff, hs]
    rw [Bool.eq_iff_iff]
    simp [hiff]
  unfold levels
  rw [hmentioned]
  split
  · rfl
  · next deepest hd =>
    have hlt : deepest < 10 := lt_of_mentioned (mem_mentioned_iff.mp (List.mem_of_getLast? hd))
    rw [List.map_map, List.map_map]
    apply List.map_congr_left
    intro index hi
    have hle : index < 10 := by
      rw [List.mem_range] at hi
      omega
    rw [Function.comp_apply, Function.comp_apply, essence_atDepth, essence_atDepth, h index hle]

/-! ### Emission -/

/-- A level is joined to the one before it by what matters of both. -/
theorem joint_essence (previous current : Level) :
    joint previous.essence current.essence = joint previous current := by
  unfold joint essence
  cases hp : previous.excluded with
  | true => simp
  | false =>
    cases hc : current.excluded with
    | true => simp
    | false => simp

/-- What is written for a level depends on what matters of it and of those below. -/
theorem piece_essence (vlan : Bool) (level : Level) (below : List Level) :
    piece vlan level.essence (below.map essence) = piece vlan level below := by
  unfold piece
  rw [List.any_map, List.all_map, List.isEmpty_map]
  rfl

/-- The levels written are those of what matters, with the same clauses. -/
theorem writtenUpTo_map_essence (stops : Piece → Bool) (vlan : Bool) (levels : List Level) :
    writtenUpTo stops vlan (levels.map essence) =
      (writtenUpTo stops vlan levels).map (·.map (Prod.map essence id)) := by
  induction levels with
  | nil => rfl
  | cons level below ih =>
    rw [List.map_cons, writtenUpTo, writtenUpTo, piece_essence, ih]
    show (if 0 < level.index && !vlan then _ else _) = _
    split
    · rfl
    · cases piece vlan level below with
      | error fault => rfl
      | ok piece =>
        simp only [bind, Except.bind]
        split
        · rfl
        · cases writtenUpTo stops vlan below with
          | error fault => rfl
          | ok rest => rfl

end Level

/-- A chain goes on by what matters of its levels. -/
theorem chainAfter_essence (previous : Level) (entries : List (Level × String)) :
    chainAfter previous.essence (entries.map (Prod.map essence id)) =
      chainAfter previous entries := by
  induction entries generalizing previous with
  | nil => rfl
  | cons entry rest ih =>
    obtain ⟨level, text⟩ := entry
    rw [List.map_cons, Prod.map_apply, chainAfter, chainAfter, joint_essence, ih]
    rfl

/-- A chain depends on what matters of its levels. -/
theorem chain_essence (entries : List (Level × String)) :
    chain (entries.map (Prod.map essence id)) = chain entries := by
  match entries with
  | [] => rfl
  | [_] => rfl
  | (level, text) :: next :: rest =>
    exact congrArg (operand text ++ ·) (chainAfter_essence level (next :: rest))

/-- An expression depends on what matters of its levels. -/
theorem assemble_essence (boundary : Joint) (all : List (Level × Clause)) :
    assemble boundary (all.map (Prod.map essence id)) = assemble boundary all := by
  have htexts : (all.map (Prod.map essence id)).map entryText =
      (all.map entryText).map (Prod.map essence id) := by
    rw [List.map_map, List.map_map]
    apply List.map_congr_left
    rintro ⟨level, clause⟩ _
    cases clause <;> rfl
  rw [assemble_eq, assemble_eq, htexts]
  generalize all.map entryText = texts
  have hfilter (p : Nat → Bool) :
      (texts.map (Prod.map essence id)).filter (p ·.1.index) =
        (texts.filter (p ·.1.index)).map (Prod.map essence id) := List.filter_map
  rw [hfilter (0 < ·), hfilter (· = 0), chain_essence, List.map_map]
  rfl

/-- Emission depends on what matters of levels. -/
theorem emit_map_essence (vlan : Bool) (levels : List Level) :
    emit vlan (levels.map essence) = emit vlan levels := by
  have hboundary : boundary (levels.map essence) = boundary levels := by
    unfold boundary
    rw [List.any_map]
    rfl
  rw [emit, emit, written, writtenUpTo_map_essence, hboundary]
  cases writtenUpTo Piece.last vlan levels with
  | error fault => rfl
  | ok all => exact congrArg Except.ok (assemble_essence (boundary levels) all)

/-! ### Compilation -/

/-- Criteria whose sections have the same summaries compile alike. -/
theorem compile_congr {vlan : Bool} {cs ds : List Criterion} (hc : ∀ c ∈ cs, c.isPreset = false)
    (hd : ∀ d ∈ ds, d.isPreset = false)
    (h : ∀ index : Nat, index < 10 → summary index cs = summary index ds) :
    compile vlan cs = compile vlan ds := by
  rw [compile_of_no_preset hc, compile_of_no_preset hd, ← emit_map_essence, map_essence_levels h,
    emit_map_essence]

private theorem mem_of_mem_without {front back : List Criterion} {c d : Criterion}
    (h : d ∈ front ++ back) : d ∈ front ++ c :: back :=
  ((List.sublist_cons_self c back).append_left front).subset h

/-- What is said of a section besides that it is left out does not change its summary. -/
theorem summary_of_leavesOut {front back : List Criterion} {c d : Criterion}
    (hd : d ∈ front ++ back) (hout : d.leavesOut = true) (hplace : d.place = c.place)
    (index : Nat) : summary index (front ++ c :: back) = summary index (front ++ back) := by
  have hleft {cs : List Criterion} (hm : d ∈ criteriaAt index cs) :
      summary index cs = .leftOut := by
    rw [summary, if_neg (by simpa using List.ne_nil_of_mem hm),
      if_pos (List.any_eq_true.mpr ⟨d, hm, hout⟩)]
  by_cases hindex : d ∈ criteriaAt index (front ++ back)
  · have hmore : d ∈ criteriaAt index (front ++ c :: back) := by
      obtain ⟨hmem, hdepth⟩ := mem_criteriaAt_iff.mp hindex
      refine mem_criteriaAt_iff.mpr ⟨?_, hdepth⟩
      simp only [List.mem_append, List.mem_cons] at hmem ⊢
      exact hmem.imp_right .inr
    rw [hleft hindex, hleft hmore]
  · -- the section is another one
    have hnil : criteriaAt index [c] = [] := by
      apply List.eq_nil_iff_forall_not_mem.mpr
      intro other ho
      obtain ⟨hmem, depth, hdepth⟩ := mem_criteriaAt_iff.mp ho
      rw [List.mem_singleton.mp hmem, ← hplace] at hdepth
      exact hindex (mem_criteriaAt_iff.mpr ⟨hd, depth, hdepth⟩)
    have hsame : criteriaAt index (front ++ c :: back) = criteriaAt index (front ++ back) := by
      rw [← List.singleton_append, criteriaAt_append, criteriaAt_append, hnil, List.nil_append,
        criteriaAt_append]
    rw [summary, hsame, ← summary]

/-- The expression of criteria, or what is wrong with them, depends on the summaries of their
sections alone, and is the same without a criterion of a section that another one leaves out. -/
theorem compile_depends_on_summaries {cs ds : List Criterion}
    (hc : ∀ c ∈ cs, c.isPreset = false) (hd : ∀ d ∈ ds, d.isPreset = false)
    (h : ∀ index : Nat, index < 10 → summary index cs = summary index ds) (vlan : Bool) :
    compile vlan cs = compile vlan ds ∧
      ∀ front c back, cs = front ++ c :: back →
        (∃ d ∈ front ++ back, d.leavesOut = true ∧ d.place = c.place) →
        compile vlan (front ++ back) = compile vlan ds := by
  have hcongr : compile vlan cs = compile vlan ds := compile_congr hc hd h
  refine ⟨hcongr, ?_⟩
  rintro front c back rfl ⟨d, hm, hout, hplace⟩
  have hrest : ∀ c ∈ front ++ back, c.isPreset = false :=
    fun other ho ↦ hc other (mem_of_mem_without ho)
  rw [← hcongr]
  exact compile_congr hrest hc fun index _ ↦ (summary_of_leavesOut hm hout hplace index).symm

/-- Three sections mixed: the decision on one comes behind its filters, and one is left out after a
port has been asked for in it. -/
def mixedSections : List Criterion :=
  Criterion.accepted .empty
    [(.packet .port, 1, .anyOf, "80"), (.packet .port, 2, .anyOf, "9"),
      (.packet .port, 0, .noneOf, "22"), (.disposition, 1, .anyOf, ""),
      (.packet .vlan, 1, .orAnyOf, "7"), (.disposition, 2, .none, ""),
      (.disposition, 1, .allOf, "")]

/-- The same sections one after the other, with a blank input besides. -/
def sectionsInOrder : List Criterion :=
  Criterion.accepted .empty
    [(.packet .port, 0, .noneOf, "22"), (.disposition, 1, .allOf, ""),
      (.packet .port, 1, .anyOf, "80"), (.packet .mac, 1, .allOf, " "),
      (.packet .vlan, 1, .orAnyOf, "7"), (.disposition, 2, .none, "")]

/-- The order of sections does not matter, nor does the port of the one that is left out. -/
theorem mixedSections_compile_in_order :
    (∀ index : Nat, index < 10 → summary index mixedSections = summary index sectionsInOrder) ∧
      compile true mixedSections = compile true sectionsInOrder ∧
      compile true (mixedSections.eraseIdx 1) = compile true sectionsInOrder := by
  have h : ∀ index : Nat, index < 10 →
      summary index mixedSections = summary index sectionsInOrder := by decide
  obtain ⟨hmixed, hdrop⟩ := compile_depends_on_summaries (by decide) (by decide) h true
  have hport : mixedSections =
      mixedSections.take 1 ++ mixedSections.get ⟨1, by decide⟩ :: mixedSections.drop 2 := rfl
  exact ⟨h, hmixed, hdrop _ _ _ hport (by decide)⟩

end Expression

end CaptureFilter
