/-!
# Lines

Cutting a text at a separating character, and the lines of a text.
-/

namespace LiveModels.Text

/-- The pieces between the occurrences of `sep`; there is one more piece than there are
occurrences. -/
def pieces (sep : Char) : List Char → List (List Char)
  | [] => [[]]
  | c :: rest =>
    if c = sep then [] :: pieces sep rest
    else match pieces sep rest with
      | [] => [[c]]
      | piece :: others => (c :: piece) :: others

/-- The pieces joined with `sep` between them. -/
def join (sep : List Char) : List (List Char) → List Char
  | [] => []
  | [piece] => piece
  | piece :: next :: others => piece ++ sep ++ join sep (next :: others)

/-- A line without the carriage return before its line feed. -/
def chomp (line : List Char) : List Char :=
  if line.getLast? = some '\r' then line.dropLast else line

/-- The lines of a text. A line feed ends a line, together with one carriage return before it;
what follows the last line feed is a line if it is not empty. -/
def lines (s : List Char) : List (List Char) :=
  let all := pieces '\n' s
  let last := all.getLast?.getD []
  all.dropLast.map chomp ++ (if last.isEmpty then [] else [last])

theorem pieces_ne_nil (sep : Char) (s : List Char) :
  pieces sep s ≠ []
  := by
  cases s with
  | nil => simp [pieces]
  | cons c rest =>
    simp only [pieces]
    split
    · simp
    · split <;> simp

@[simp]
theorem pieces_nil (sep : Char) :
  pieces sep [] = [[]]
  := rfl

@[simp]
theorem pieces_cons_sep (sep : Char) (s : List Char) :
  pieces sep (sep :: s) = [] :: pieces sep s
  := by
  simp [pieces]

/-- Joining the pieces with the separator gives back the text. -/
theorem join_pieces (sep : Char) (s : List Char) :
  join [sep] (pieces sep s) = s
  := by
  induction s with
  | nil => rfl
  | cons c rest ih =>
    obtain ⟨piece, others, h⟩ : ∃ piece others, pieces sep rest = piece :: others :=
      List.exists_cons_of_ne_nil (pieces_ne_nil sep rest)
    by_cases hc : c = sep
    · subst hc
      rw [pieces_cons_sep, h]
      rw [h] at ih
      simp [join, ih]
    · rw [h] at ih
      simp only [pieces, hc, if_false, h]
      cases others with
      | nil => simpa [join] using ih
      | cons next others => simpa [join] using ih

end LiveModels.Text
