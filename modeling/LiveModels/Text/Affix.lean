import LiveModels.Text.Blank

/-!
# Words at the beginning of a text

Readers of fixed words and of white space. A reader gives what follows, or nothing if the text
begins otherwise.
-/

namespace LiveModels.Text

/-- The text after a word, if it begins with the word. -/
def afterWord? : List Char → List Char → Option (List Char)
  | [], s => some s
  | w :: word, c :: s => if w = c then afterWord? word s else none
  | _ :: _, [] => none

/-- The text after white space, if it begins with at least one such character. -/
def afterBlank? : List Char → Option (List Char)
  | c :: s => if isBlank c then some (trimStart s) else none
  | [] => none

theorem afterWord?_append (word s : List Char) :
  afterWord? word (word ++ s) = some s
  := by
  induction word with
  | nil => rfl
  | cons w word ih => simp [afterWord?, ih]

theorem eq_append_of_afterWord? {word s rest : List Char} (h : afterWord? word s = some rest) :
  s = word ++ rest
  := by
  induction word generalizing s with
  | nil => simpa [afterWord?] using h
  | cons w word ih =>
    cases s with
    | nil => simp [afterWord?] at h
    | cons c s =>
      simp only [afterWord?] at h
      split at h
      · rename_i hw
        rw [ih h, hw, List.cons_append]
      · simp at h

/-- Reading a word leaves the text shorter by the word. -/
theorem length_of_afterWord? {word s rest : List Char} (h : afterWord? word s = some rest) :
  s.length = word.length + rest.length
  := by
  rw [eq_append_of_afterWord? h, List.length_append]

theorem length_trimStart_le (s : List Char) :
  (trimStart s).length ≤ s.length
  := (List.dropWhile_sublist isBlank).length_le

theorem length_of_afterBlank? {s rest : List Char} (h : afterBlank? s = some rest) :
  rest.length < s.length
  := by
  cases s with
  | nil => simp [afterBlank?] at h
  | cons c s =>
    simp only [afterBlank?] at h
    split at h
    · simp only [Option.some.injEq] at h
      have := length_trimStart_le s
      rw [← h, List.length_cons]
      omega
    · simp at h

end LiveModels.Text
