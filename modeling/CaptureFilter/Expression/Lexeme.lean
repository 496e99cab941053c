/-!
# Lexemes of expressions

Blanks and parentheses end a word. Words that are not `not`, `and` or `or` make one comparison as
far as they follow each other.
Spec guidance: `SPEC_FULL.md` §1 (filter expression syntax).
-/

namespace CaptureFilter.Expression

/-- A part of an expression's text. -/
inductive Lexeme where
  /-- An opening parenthesis. -/
  | opened
  /-- A closing parenthesis. -/
  | closed
  /-- A word. -/
  | word (s : List Char)
  deriving DecidableEq, Repr

/-- The lexeme that a word makes when it ends. -/
def endWord (word : List Char) : List Lexeme := if word.isEmpty then [] else [.word word]

/-- The lexemes of the text that follows the beginning of a word. -/
def lexemesFrom (word : List Char) : List Char → List Lexeme
  | [] => endWord word
  | c :: rest =>
    if c = ' ' then endWord word ++ lexemesFrom [] rest
    else if c = '(' then endWord word ++ .opened :: lexemesFrom [] rest
    else if c = ')' then endWord word ++ .closed :: lexemesFrom [] rest
    else lexemesFrom (word ++ [c]) rest

/-- The lexemes of a text. -/
def lexemes (s : List Char) : List Lexeme := lexemesFrom [] s

/-- A part of an expression: a parenthesis, a word that joins, or a comparison. -/
inductive Token where
  /-- An opening parenthesis. -/
  | opened
  /-- A closing parenthesis. -/
  | closed
  /-- The word `not`. -/
  | negation
  /-- The word `and`. -/
  | conjunction
  /-- The word `or`. -/
  | disjunction
  /-- A comparison. -/
  | comparison (s : List Char)
  deriving DecidableEq, Repr

/-- The token that a word is on its own, if it is no part of a comparison. -/
def keyword? (word : List Char) : Option Token :=
  if word = "not".toList then some .negation
  else if word = "and".toList then some .conjunction
  else if word = "or".toList then some .disjunction
  else none

/-- The tokens that a word in front of others makes. -/
def addWord (word : List Char) (others : List Token) : List Token :=
  match keyword? word, others with
  | some token, _ => token :: others
  | none, .comparison s :: rest => .comparison (word ++ ' ' :: s) :: rest
  | none, _ => .comparison word :: others

/-- The tokens of lexemes. -/
def tokensOf : List Lexeme → List Token
  | [] => []
  | .opened :: rest => .opened :: tokensOf rest
  | .closed :: rest => .closed :: tokensOf rest
  | .word s :: rest => addWord s (tokensOf rest)

/-- The tokens of a text. -/
def tokens (s : List Char) : List Token := tokensOf (lexemes s)

/-- A blank keeps the lexemes on its two sides apart. -/
theorem lexemesFrom_append_blank (word s t : List Char) :
    lexemesFrom word (s ++ ' ' :: t) = lexemesFrom word s ++ lexemes t := by
  induction s generalizing word with
  | nil => simp [lexemesFrom, lexemes]
  | cons c rest ih =>
    simp only [List.cons_append, lexemesFrom, ih]
    repeat' split
    all_goals simp [List.append_assoc]

/-- A closing parenthesis keeps the lexemes on its two sides apart. -/
theorem lexemesFrom_append_closed (word s t : List Char) :
    lexemesFrom word (s ++ ')' :: t) = lexemesFrom word s ++ .closed :: lexemes t := by
  induction s generalizing word with
  | nil => simp [lexemesFrom, lexemes]
  | cons c rest ih =>
    simp only [List.cons_append, lexemesFrom, ih]
    repeat' split
    all_goals simp [List.append_assoc]

end CaptureFilter.Expression
