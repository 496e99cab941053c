/-!
# Matching parentheses

The parentheses that a text opens less those that it closes. They match if no beginning of the text
closes more than it opens, and the whole closes all that it opens. Texts put together match if their
parts do.
Spec guidance: `SPEC_FULL.md` §4.2 step 5 (`_is_grouped`).
-/

namespace CaptureFilter.Expression

/-- What a character adds to the number of open parentheses. -/
def parenthesis (c : Char) : Int := if c = '(' then 1 else if c = ')' then -1 else 0

/-- The number of parentheses that a text leaves open. -/
def openParentheses : List Char → Int
  | [] => 0
  | c :: rest => parenthesis c + openParentheses rest

/-- An empty text opens nothing. -/
@[simp] theorem openParentheses_nil : openParentheses [] = 0 := rfl

/-- The first character counts besides the rest. -/
theorem openParentheses_cons (c : Char) (s : List Char) :
    openParentheses (c :: s) = parenthesis c + openParentheses s := rfl

/-- Texts behind each other leave open what each of them does. -/
theorem openParentheses_append (s t : List Char) :
    openParentheses (s ++ t) = openParentheses s + openParentheses t := by
  induction s with
  | nil => rw [List.nil_append, openParentheses_nil, Int.zero_add]
  | cons c rest ih =>
    rw [List.cons_append, openParentheses_cons, ih, openParentheses_cons, Int.add_assoc]

/-- A text leaves open how many more parentheses it opens than it closes. -/
theorem openParentheses_eq_count (s : List Char) :
    openParentheses s = s.count '(' - s.count ')' := by
  induction s with
  | nil => rfl
  | cons c rest ih =>
    rw [openParentheses_cons, ih, parenthesis]
    by_cases ho : c = '('
    · subst ho
      rw [if_pos rfl, List.count_cons_self, List.count_cons_of_ne (by decide)]
      omega
    · by_cases hc : c = ')'
      · subst hc
        rw [if_neg ho, if_pos rfl, List.count_cons_self, List.count_cons_of_ne (by decide)]
        omega
      · rw [if_neg ho, if_neg hc, List.count_cons_of_ne ho, List.count_cons_of_ne hc, Int.zero_add]

/-- A text without parentheses leaves none open. -/
theorem openParentheses_eq_zero {s : List Char} (h : ∀ c ∈ s, c ≠ '(' ∧ c ≠ ')') :
    openParentheses s = 0 := by
  induction s with
  | nil => rfl
  | cons c rest ih =>
    have hc : c ≠ '(' ∧ c ≠ ')' := h c List.mem_cons_self
    rw [openParentheses_cons, ih fun d hd ↦ h d (List.mem_cons_of_mem c hd), parenthesis,
      if_neg hc.1, if_neg hc.2]
    rfl

/-- A text in parentheses, as characters. -/
theorem toList_parenthesised (s : String) :
    ("(" ++ s ++ ")").toList = '(' :: (s.toList ++ [')']) := by
  simp [String.toList_append]

/-- A text in parentheses leaves open what it does without them. -/
theorem openParentheses_parenthesised (s : String) :
    openParentheses ("(" ++ s ++ ")").toList = openParentheses s.toList := by
  have ho : parenthesis '(' = 1 := by decide
  have hc : parenthesis ')' = -1 := by decide
  rw [toList_parenthesised, openParentheses_cons, openParentheses_append, openParentheses_cons,
    openParentheses_nil, ho, hc]
  omega

/-- The parentheses of a text match: no beginning closes more than it opens, and the whole closes
all that it opens. -/
structure Balanced (s : List Char) : Prop where
  /-- No beginning closes more than it opens. -/
  opens_first : ∀ front, front <+: s → 0 ≤ openParentheses front
  /-- All that is opened is closed. -/
  closes_all : openParentheses s = 0

/-- Parentheses match if no beginning has more closing than opening ones, and the whole has as many
of the ones as of the others. -/
theorem balanced_iff_count {s : List Char} :
    Balanced s ↔
      (∀ front, front <+: s → front.count ')' ≤ front.count '(') ∧ s.count '(' = s.count ')' := by
  have hopen (t : List Char) : 0 ≤ openParentheses t ↔ t.count ')' ≤ t.count '(' := by
    rw [openParentheses_eq_count]
    omega
  constructor
  · rintro ⟨hfront, hs⟩
    rw [openParentheses_eq_count] at hs
    exact ⟨fun front hf ↦ (hopen front).mp (hfront front hf), by omega⟩
  · rintro ⟨hfront, hs⟩
    refine ⟨fun front hf ↦ (hopen front).mpr (hfront front hf), ?_⟩
    rw [openParentheses_eq_count]
    omega

/-! ### Texts behind each other -/

/-- The least number of parentheses that a beginning of a text leaves open. -/
def leastOpen : List Char → Int
  | [] => 0
  | c :: rest => min 0 (parenthesis c + leastOpen rest)

variable {s t u v : List Char}

/-- The empty beginning leaves nothing open. -/
theorem leastOpen_nonpos (s : List Char) : leastOpen s ≤ 0 := by
  cases s with
  | nil => exact Int.le_refl 0
  | cons c rest => exact Int.min_le_left 0 _

/-- What each beginning leaves open is bounded from below by the least. -/
theorem le_leastOpen_iff {n : Int} :
    n ≤ leastOpen s ↔ ∀ front, front <+: s → n ≤ openParentheses front := by
  induction s generalizing n with
  | nil =>
    constructor
    · intro h front hf
      rw [List.prefix_nil.mp hf]
      exact h
    · exact fun h ↦ h [] (List.prefix_refl [])
  | cons c rest ih =>
    rw [leastOpen, Int.le_min]
    constructor
    · rintro ⟨h0, h⟩ front hf
      rcases List.prefix_cons_iff.mp hf with rfl | ⟨deeper, rfl, hd⟩
      · exact h0
      · have hrest : n - parenthesis c ≤ leastOpen rest := by omega
        have hdeeper := ih.mp hrest deeper hd
        rw [openParentheses_cons]
        omega
    · intro h
      refine ⟨h [] List.nil_prefix, ?_⟩
      have hrest : n - parenthesis c ≤ leastOpen rest := by
        apply ih.mpr
        intro front hf
        have hfront := h (c :: front) (List.prefix_cons_iff.mpr (.inr ⟨front, rfl, hf⟩))
        rw [openParentheses_cons] at hfront
        omega
      omega

/-- A text's beginnings are those of its first part, and those that reach into its second. -/
theorem leastOpen_append (s t : List Char) :
    leastOpen (s ++ t) = min (leastOpen s) (openParentheses s + leastOpen t) := by
  induction s with
  | nil =>
    have ht := leastOpen_nonpos t
    rw [List.nil_append, leastOpen, openParentheses_nil]
    omega
  | cons c rest ih =>
    rw [List.cons_append, leastOpen, ih, leastOpen, openParentheses_cons]
    omega

/-- Parentheses match if no beginning and not the whole leaves a number open. -/
theorem balanced_iff : Balanced s ↔ leastOpen s = 0 ∧ openParentheses s = 0 := by
  have hle := leastOpen_nonpos s
  constructor
  · rintro ⟨hfront, hs⟩
    have h := le_leastOpen_iff.mpr hfront
    exact ⟨by omega, hs⟩
  · rintro ⟨hl, hs⟩
    exact ⟨le_leastOpen_iff.mp (Int.le_of_eq hl.symm), hs⟩

/-- Counting shows whether a text is balanced. -/
instance (s : List Char) : Decidable (Balanced s) := decidable_of_iff _ balanced_iff.symm

/-- Two texts leave parentheses open alike, whatever stands around them. -/
def NestAlike (s t : List Char) : Prop :=
  leastOpen s = leastOpen t ∧ openParentheses s = openParentheses t

namespace NestAlike

/-- A text nests as itself. -/
theorem refl (s : List Char) : NestAlike s s := ⟨rfl, rfl⟩

/-- A text nests as what another one does that it nests as. -/
theorem trans (h : NestAlike s t) (h' : NestAlike t u) : NestAlike s u :=
  ⟨h.1.trans h'.1, h.2.trans h'.2⟩

/-- Texts that nest alike both match or neither does. -/
theorem balanced_iff (h : NestAlike s t) : Balanced s ↔ Balanced t := by
  rw [Expression.balanced_iff, Expression.balanced_iff, h.1, h.2]

/-- Texts behind each other nest as their parts do. -/
theorem append (h : NestAlike s t) (h' : NestAlike u v) : NestAlike (s ++ u) (t ++ v) := by
  constructor
  · rw [leastOpen_append, leastOpen_append, h.1, h.2, h'.1]
  · rw [openParentheses_append, openParentheses_append, h.2, h'.2]

end NestAlike

/-- Parentheses match if a text nests as the empty one does. -/
theorem nestAlike_nil_iff : NestAlike s [] ↔ Balanced s := balanced_iff.symm

/-- The parentheses of an empty text match. -/
theorem balanced_nil : Balanced [] := balanced_iff.mpr ⟨rfl, rfl⟩

namespace Balanced

/-- Texts behind each other match if each of them does. -/
theorem append (hs : Balanced s) (ht : Balanced t) : Balanced (s ++ t) :=
  nestAlike_nil_iff.mp ((nestAlike_nil_iff.mpr hs).append (nestAlike_nil_iff.mpr ht))

/-- A text in front whose parentheses match changes nothing. -/
theorem nestAlike_append (hs : Balanced s) (t : List Char) : NestAlike (s ++ t) t :=
  (nestAlike_nil_iff.mpr hs).append (.refl t)

/-- A text without parentheses matches. -/
theorem of_forall (h : ∀ c ∈ s, c ≠ '(' ∧ c ≠ ')') : Balanced s where
  opens_first _ hf :=
    Int.le_of_eq (openParentheses_eq_zero fun c hc ↦ h c (hf.subset hc)).symm
  closes_all := openParentheses_eq_zero h

/-- A text in parentheses matches if it does without them. -/
theorem parenthesised {s : String} (h : Balanced s.toList) :
    Balanced ("(" ++ s ++ ")").toList := by
  have hs := Expression.balanced_iff.mp h
  have hl : leastOpen ("(" ++ s ++ ")").toList = 0 := by
    simp only [String.toList_append, leastOpen_append, openParentheses_append, hs.1, hs.2]
    decide
  refine Expression.balanced_iff.mpr ⟨hl, ?_⟩
  rw [openParentheses_parenthesised]
  exact hs.2

end Balanced

/-- Joined texts nest as what each of them repeats, if what stands between them matches. -/
theorem nestAlike_intercalate {α : Type} {sep : String} (hsep : Balanced sep.toList) {xs : List α}
    {text : α → String} {part : α → List Char}
    (h : ∀ x ∈ xs, NestAlike (text x).toList (part x)) :
    NestAlike (sep.intercalate (xs.map text)).toList (xs.flatMap part) := by
  induction xs with
  | nil => exact .refl []
  | cons x rest ih =>
    have hx := h x List.mem_cons_self
    have hrest := ih fun y hy ↦ h y (List.mem_cons_of_mem x hy)
    rw [List.map_cons, List.flatMap_cons]
    cases rest with
    | nil =>
      rw [List.map_nil, String.intercalate_singleton, List.flatMap_nil, List.append_nil]
      exact hx
    | cons y others =>
      rw [List.map_cons, String.intercalate_cons_cons, String.toList_append, String.toList_append]
      rw [List.map_cons] at hrest
      rw [List.append_assoc]
      exact hx.append ((hsep.nestAlike_append _).trans hrest)

/-- Joined texts match if each of them does, and what stands between them. -/
theorem balanced_intercalate {sep : String} (hsep : Balanced sep.toList) {texts : List String}
    (h : ∀ t ∈ texts, Balanced t.toList) : Balanced (sep.intercalate texts).toList := by
  have hjoined : NestAlike (sep.intercalate (texts.map id)).toList (texts.flatMap fun _ ↦ []) :=
    nestAlike_intercalate hsep fun t ht ↦ nestAlike_nil_iff.mpr (h t ht)
  rw [List.map_id, List.flatMap_eq_nil_iff.mpr fun _ _ ↦ rfl] at hjoined
  exact nestAlike_nil_iff.mp hjoined

end CaptureFilter.Expression
