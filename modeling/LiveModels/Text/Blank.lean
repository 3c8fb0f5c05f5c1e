/-!
# White space

The characters that separate words, and texts without the white space around them.
-/

namespace LiveModels.Text

/-- Whether a character is white space: the controls from tab to carriage return, the space, the
next-line control, and the separators of the general punctuation. -/
def isBlank (c : Char) : Bool :=
  let n := c.toNat
  (decide (0x9 ≤ n) && decide (n ≤ 0xd)) || n == 0x20 || n == 0x85 || n == 0xa0 || n == 0x1680
    || (decide (0x2000 ≤ n) && decide (n ≤ 0x200a)) || n == 0x2028 || n == 0x2029 || n == 0x202f
    || n == 0x205f || n == 0x3000

/-- The text from its first character that is not white space. -/
def trimStart (s : List Char) : List Char :=
  s.dropWhile isBlank

/-- The text up to its last character that is not white space. -/
def trimEnd (s : List Char) : List Char :=
  (s.reverse.dropWhile isBlank).reverse

/-- The text without the white space around it. -/
def trim (s : List Char) : List Char :=
  trimEnd (trimStart s)

/-- The text without the white space around it. -/
def trimmed (s : String) : String :=
  String.ofList (trim s.toList)

@[simp]
theorem trimStart_nil :
  trimStart [] = []
  := rfl

@[simp]
theorem trim_nil :
  trim [] = []
  := rfl

theorem trimStart_cons_of_not_blank {c : Char} (h : isBlank c = false) (s : List Char) :
  trimStart (c :: s) = c :: s
  := by
  simp [trimStart, h]

theorem length_trim_le (s : List Char) :
  (trim s).length ≤ s.length
  := by
  have h₁ := (List.dropWhile_sublist isBlank (l := (trimStart s).reverse)).length_le
  have h₂ := (List.dropWhile_sublist isBlank (l := s)).length_le
  simp only [trim, trimEnd, trimStart, List.length_reverse] at h₁ ⊢
  omega

@[simp]
theorem trimmed_toList (s : String) :
  (trimmed s).toList = trim s.toList
  := by
  simp [trimmed]

end LiveModels.Text
