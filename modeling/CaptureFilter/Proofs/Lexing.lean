import CaptureFilter.Expression.Formula
import CaptureFilter.Expression.Lexeme

/-!
# The tokens of joined texts

The tokens of a text that is put together from parts: a word on its own is a comparison, words
behind each other make one, and a joining word, a negation or a pair of parentheses keeps the tokens
of the parts around it as they are.
Spec guidance: `SPEC_FULL.md` §1 (filter expression syntax).
-/

namespace CaptureFilter.Expression

/-- Whether a character neither ends a word nor is a lexeme of its own. -/
def isWordChar (c : Char) : Bool := c != ' ' && c != '(' && c != ')'

/-- Whether a text is one word that is part of a comparison. -/
def isWord (s : List Char) : Bool := !s.isEmpty && s.all isWordChar && (keyword? s).isNone

/-- Whether a character may stand in a word but in none of the words that join and negate. -/
def isValueChar (c : Char) : Bool := isWordChar c && c != 'n' && c != 'o'

/-- A character of a value may stand in a word. -/
theorem isWordChar_of_isValueChar {c : Char} (h : isValueChar c = true) : isWordChar c = true := by
  rw [isValueChar, Bool.and_eq_true, Bool.and_eq_true] at h
  exact h.1.1

private theorem keyword?_eq_none {s : List Char} (hn : 'n' ∉ s) (ho : 'o' ∉ s) :
    keyword? s = none := by
  have hnot : s ≠ "not".toList := by rintro rfl; exact hn (by decide)
  have hand : s ≠ "and".toList := by rintro rfl; exact hn (by decide)
  have hor : s ≠ "or".toList := by rintro rfl; exact ho (by decide)
  rw [keyword?, if_neg hnot, if_neg hand, if_neg hor]

/-- A text of value characters is a word. -/
theorem isWord_of_forall {s : List Char} (hs : s ≠ []) (h : ∀ c ∈ s, isValueChar c = true) :
    isWord s = true := by
  have hword : s.all isWordChar = true :=
    List.all_eq_true.mpr fun c hc ↦ isWordChar_of_isValueChar (h c hc)
  have hn : 'n' ∉ s := fun hm ↦ absurd (h 'n' hm) (by decide)
  have ho : 'o' ∉ s := fun hm ↦ absurd (h 'o' hm) (by decide)
  simp [isWord, hs, hword, keyword?_eq_none hn ho]

/-- A text with a character of no keyword is a word. -/
theorem isWord_of_mem {s : List Char} {c : Char} (hc : c ∈ s) (hk : c ∉ "notandor".toList)
    (h : ∀ c ∈ s, isWordChar c = true) : isWord s = true := by
  have hnot : s ≠ "not".toList := by
    rintro rfl
    exact hk (List.mem_append_left "andor".toList hc)
  have hand : s ≠ "and".toList := by
    rintro rfl
    exact hk (List.mem_append_right "not".toList (List.mem_append_left "or".toList hc))
  have hor : s ≠ "or".toList := by
    rintro rfl
    exact hk (List.mem_append_right "notand".toList hc)
  have hkey : keyword? s = none := by rw [keyword?, if_neg hnot, if_neg hand, if_neg hor]
  have hall : s.all isWordChar = true := List.all_eq_true.mpr h
  simp [isWord, List.ne_nil_of_mem hc, hall, hkey]

/-! ### Lexemes -/

private theorem lexemesFrom_of_word {s : List Char} (word : List Char)
    (h : s.all isWordChar = true) : lexemesFrom word s = endWord (word ++ s) := by
  induction s generalizing word with
  | nil => rw [lexemesFrom, List.append_nil]
  | cons c rest ih =>
    rw [List.all_cons, Bool.and_eq_true] at h
    have hc : c ≠ ' ' ∧ c ≠ '(' ∧ c ≠ ')' := by simpa [isWordChar, and_assoc] using h.1
    rw [lexemesFrom, if_neg hc.1, if_neg hc.2.1, if_neg hc.2.2, ih _ h.2, List.append_assoc]
    rfl

/-- The lexemes of a word in front of a blank. -/
theorem lexemes_word_append {w : List Char} (h : w.all isWordChar = true) (hw : w ≠ [])
    (s : List Char) : lexemes (w ++ ' ' :: s) = .word w :: lexemes s := by
  rw [lexemes, lexemesFrom_append_blank, lexemesFrom_of_word [] h, List.nil_append, endWord,
    if_neg (by simpa using hw)]
  rfl

/-- The lexemes of a text in parentheses. -/
theorem lexemes_parenthesised (s : List Char) :
    lexemes ('(' :: (s ++ [')'])) = .opened :: (lexemes s ++ [.closed]) := by
  have ho : lexemes ('(' :: (s ++ [')'])) = .opened :: lexemes (s ++ [')']) := by
    simp [lexemes, lexemesFrom, endWord]
  rw [ho, lexemes, lexemesFrom_append_closed]
  rfl

/-! ### Tokens -/

/-- A keyword is a token of its own. -/
theorem addWord_of_keyword {word : List Char} {token : Token} (h : keyword? word = some token)
    (others : List Token) : addWord word others = token :: others := by
  simp [addWord, h]

private theorem addWord_nil {word : List Char} (h : keyword? word = none) :
    addWord word [] = [.comparison word] := by
  simp [addWord, h]

private theorem addWord_comparison {word : List Char} (h : keyword? word = none) (s : List Char)
    (rest : List Token) :
    addWord word (.comparison s :: rest) = .comparison (word ++ ' ' :: s) :: rest := by
  simp [addWord, h]

/-- Lexemes whose tokens do not begin with a comparison join no comparison before them. -/
theorem tokensOf_append {later : List Lexeme} (earlier : List Lexeme)
    (h : ∀ s rest, tokensOf later ≠ .comparison s :: rest) :
    tokensOf (earlier ++ later) = tokensOf earlier ++ tokensOf later := by
  induction earlier with
  | nil => rfl
  | cons lexeme rest ih =>
    cases lexeme with
    | opened => rw [List.cons_append, tokensOf, ih, tokensOf, List.cons_append]
    | closed => rw [List.cons_append, tokensOf, ih, tokensOf, List.cons_append]
    | word s =>
      rw [List.cons_append, tokensOf, ih, tokensOf]
      cases hk : keyword? s with
      | some token => simp [addWord, hk]
      | none =>
        cases hr : tokensOf rest with
        | cons token others => cases token <;> simp [addWord, hk]
        | nil =>
          -- only here do the two sides meet
          cases hl : tokensOf later with
          | nil => simp [addWord, hk]
          | cons token others =>
            cases token with
            | comparison s' => exact absurd hl (h s' others)
            | _ => simp [addWord, hk]

private theorem isWord_parts {s : List Char} (h : isWord s = true) :
    s ≠ [] ∧ s.all isWordChar = true ∧ keyword? s = none := by
  rw [isWord, Bool.and_eq_true, Bool.and_eq_true] at h
  exact ⟨by simpa using h.1.1, h.1.2, Option.isNone_iff_eq_none.mp h.2⟩

/-- A word is a comparison. -/
theorem tokens_of_isWord {s : List Char} (h : isWord s = true) : tokens s = [.comparison s] := by
  obtain ⟨hne, hall, hk⟩ := isWord_parts h
  rw [tokens, lexemes, lexemesFrom_of_word [] hall, List.nil_append, endWord,
    if_neg (by simpa using hne), tokensOf, tokensOf, addWord_nil hk]

/-- A word in front of a comparison makes a longer one. -/
theorem tokens_word_append {w s t : List Char} {rest : List Token} (hw : isWord w = true)
    (ht : tokens s = .comparison t :: rest) :
    tokens (w ++ ' ' :: s) = .comparison (w ++ ' ' :: t) :: rest := by
  obtain ⟨hne, hall, hk⟩ := isWord_parts hw
  rw [tokens] at ht ⊢
  rw [lexemes_word_append hall hne, tokensOf, ht, addWord_comparison hk]

/-- Words between blanks are one comparison. -/
theorem tokens_words {words : List (List Char)} (hne : words ≠ [])
    (h : ∀ w ∈ words, isWord w = true) :
    tokens ([' '].intercalate words) = [.comparison ([' '].intercalate words)] := by
  induction words with
  | nil => exact absurd rfl hne
  | cons w rest ih =>
    have hw : isWord w = true := h w List.mem_cons_self
    cases rest with
    | nil =>
      rw [List.intercalate_singleton]
      exact tokens_of_isWord hw
    | cons next others =>
      have hr := ih (List.cons_ne_nil next others) fun u hu ↦ h u (List.mem_cons_of_mem w hu)
      rw [List.intercalate_cons_cons, List.append_assoc]
      exact tokens_word_append hw hr

/-- A word holds no parenthesis. -/
theorem not_parenthesis_of_isWord {s : List Char} (h : isWord s = true) :
    ∀ c ∈ s, c ≠ '(' ∧ c ≠ ')' := by
  intro c hc
  have hw : isWordChar c = true := List.all_eq_true.mp (isWord_parts h).2.1 c hc
  constructor
  · rintro rfl
    exact absurd hw (by decide)
  · rintro rfl
    exact absurd hw (by decide)

/-- The token of a joint. -/
def Joint.token : Joint → Token
  | .conj => .conjunction
  | .disj => .disjunction

private theorem tokens_keyword_between {w : List Char} {token : Token} (s t : List Char)
    (hall : w.all isWordChar = true) (hne : w ≠ []) (hk : keyword? w = some token)
    (hc : ∀ u, token ≠ .comparison u) :
    tokens (s ++ ' ' :: (w ++ ' ' :: t)) = tokens s ++ token :: tokens t := by
  have hw : tokensOf (.word w :: lexemes t) = token :: tokens t := by
    rw [tokensOf, addWord_of_keyword hk, tokens]
  have hstart : ∀ u rest, tokensOf (.word w :: lexemes t) ≠ .comparison u :: rest := by
    intro u rest he
    rw [hw] at he
    exact hc u (List.cons.inj he).1
  rw [tokens, lexemes, lexemesFrom_append_blank, lexemes_word_append hall hne,
    tokensOf_append _ hstart, hw]
  rfl

/-- The tokens of two texts joined. -/
theorem tokens_joined (joint : Joint) (s t : String) :
    tokens (s ++ joint.word ++ t).toList = tokens s.toList ++ joint.token :: tokens t.toList := by
  rw [String.toList_append, String.toList_append, List.append_assoc]
  cases joint with
  | conj =>
    exact tokens_keyword_between (w := "and".toList) s.toList t.toList (by decide) (by decide)
      (by decide) (by simp [Joint.token])
  | disj =>
    exact tokens_keyword_between (w := "or".toList) s.toList t.toList (by decide) (by decide)
      (by decide) (by simp [Joint.token])

/-- The tokens of a negated text. -/
theorem tokens_not (s : String) : tokens ("not " ++ s).toList = .negation :: tokens s.toList := by
  have hs : ("not " ++ s).toList = "not".toList ++ ' ' :: s.toList := by
    rw [String.toList_append]
    rfl
  rw [hs, tokens, lexemes_word_append (by decide) (by decide), tokensOf,
    addWord_of_keyword (show keyword? "not".toList = some .negation by decide)]
  rfl

/-- The tokens of a text in parentheses. -/
theorem tokens_parenthesised (s : String) :
    tokens ("(" ++ s ++ ")").toList = .opened :: (tokens s.toList ++ [.closed]) := by
  have hs : ("(" ++ s ++ ")").toList = '(' :: (s.toList ++ [')']) := by
    simp [String.toList_append]
  rw [hs, tokens, lexemes_parenthesised, tokensOf, tokensOf_append _ (by simp [tokensOf])]
  rfl

end CaptureFilter.Expression
