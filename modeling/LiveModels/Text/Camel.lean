import LiveModels.Text.Character
import LiveModels.Text.Casing
import LiveModels.Text.Lines

/-!
# Upper camel case

The words of a text and their spelling in upper camel case. A word ends at a character that is not
alphanumeric, between a small letter and a capital, and before the last of several capitals that a
small letter follows.
-/

namespace LiveModels.Text

/-- The letter case of the last cased character of the word being read; `start` if it has none. -/
inductive WordCase
  | start
  | small
  | capital
  deriving DecidableEq

/-- The case of a word after reading `c`. -/
def WordCase.after (before : WordCase) (c : Char) : WordCase :=
  if isLowercase c then .small else if isUppercase c then .capital else before

/-- The words of a run of alphanumeric characters; `word` holds, in reverse, the characters of the
word being read, and `before` is its case. -/
def wordsFrom : List Char → WordCase → List Char → List (List Char)
  | [], _, [] => []
  | word, _, [] => [word.reverse]
  | word, _, [c] => [(c :: word).reverse]
  | word, before, c :: next :: rest =>
    let here := before.after c
    if here = .small ∧ isUppercase next then
      (c :: word).reverse :: wordsFrom [] .start (next :: rest)
    else if before = .capital ∧ isUppercase c ∧ isLowercase next then
      word.reverse :: wordsFrom [c] .start (next :: rest)
    else
      wordsFrom (c :: word) here (next :: rest)

/-- The runs of alphanumeric characters of a text, with empty ones where separators meet. -/
def alphanumericRuns (s : List Char) : List (List Char) :=
  pieces ' ' (s.map fun c => if isAlphanumeric c then c else ' ')

/-- The words of a text. -/
def words (s : List Char) : List (List Char) :=
  (alphanumericRuns s).flatMap (wordsFrom [] .start)

/-- The lower-case form of the end of a word: a capital sigma at its end is final. -/
def lowerWordTail : List Char → List Char
  | [] => []
  | ['Σ'] => ['ς']
  | c :: rest => lowerCharacter c ++ lowerWordTail rest

/-- A word with a capital first character and small others. -/
def capitalize : List Char → List Char
  | [] => []
  | c :: rest => upperCharacter c ++ lowerWordTail rest

/-- The words of a text, capitalized and written without a separator. -/
def upperCamel (s : String) : String :=
  String.ofList ((words s.toList).flatMap capitalize)

end LiveModels.Text
