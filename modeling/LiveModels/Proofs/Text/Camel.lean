import LiveModels.Proofs.Text.Casing
import LiveModels.Proofs.Text.Lines
import LiveModels.Text.Camel

/-!
# Words in upper camel case

The words of a text are its alphanumeric characters, in their order and with nothing lost. Hence a
text has a form in upper camel case exactly if it has an alphanumeric character of some script, and
an ASCII letter or digit of the text gives one of this form.
-/

namespace LiveModels.Text

/-- No character of a run gets lost when it is cut into words. -/
theorem flatten_wordsFrom (word : List Char) (before : WordCase) (s : List Char) :
  (wordsFrom word before s).flatten = word.reverse ++ s
  := by
  fun_induction wordsFrom word before s
  case case1 => rfl
  case case2 => simp
  case case3 => simp
  case case4 ih => simp [ih]
  case case5 ih => simp [ih]
  case case6 ih => simp [ih]

/-- The pieces of a text are its characters but for the separator. -/
theorem flatten_pieces (sep : Char) (s : List Char) :
  (pieces sep s).flatten = s.filter (· ≠ sep)
  := by
  induction s with
  | nil => rfl
  | cons c rest ih =>
    obtain ⟨piece, others, h⟩ := List.exists_cons_of_ne_nil (pieces_ne_nil sep rest)
    rw [h] at ih
    by_cases hc : c = sep
    · rw [hc, pieces_cons_sep, List.filter_cons_of_neg (by simp), ← ih, h]
      rfl
    · rw [List.filter_cons_of_pos (by simpa using hc), ← ih]
      simp [pieces, hc, h]

theorem isAlphanumeric_space :
  isAlphanumeric ' ' = false
  := by decide

/-- The runs of a text are its alphanumeric characters. -/
theorem flatten_alphanumericRuns (s : List Char) :
  (alphanumericRuns s).flatten = s.filter isAlphanumeric
  := by
  rw [alphanumericRuns, flatten_pieces]
  induction s with
  | nil => rfl
  | cons c rest ih =>
    by_cases hc : isAlphanumeric c = true
    · have hne : c ≠ ' ' := by
        rintro rfl
        rw [isAlphanumeric_space] at hc
        cases hc
      simp only [List.map_cons, hc, if_true]
      rw [List.filter_cons_of_pos (by simpa using hne), ih, List.filter_cons_of_pos hc]
    · simp only [List.map_cons, hc]
      rw [List.filter_cons_of_neg (by simp), ih, List.filter_cons_of_neg hc]

/-- The words of a text are its alphanumeric characters. -/
theorem flatten_words (s : List Char) :
  (words s).flatten = s.filter isAlphanumeric
  := by
  have hruns : ∀ runs : List (List Char),
      (runs.flatMap (wordsFrom [] .start)).flatten = runs.flatten := by
    intro runs
    induction runs with
    | nil => rfl
    | cons run runs ih =>
      rw [List.flatMap_cons, List.flatten_append, ih, flatten_wordsFrom]
      rfl
  rw [words, hruns, flatten_alphanumericRuns]

/-! ### Texts without words -/

/-- Whether no character of a text is a letter or digit of any script. -/
def IsWordless (s : String) : Prop :=
  ∀ c ∈ s.toList, isAlphanumeric c = false

instance (s : String) : Decidable (IsWordless s) :=
  List.decidableBAll _ s.toList

theorem upperExpansions_ne_nil :
  ∀ e ∈ Table.upperExpansions, e.2 ≠ []
  := by
  decide

theorem upperCharacter_ne_nil (c : Char) :
  upperCharacter c ≠ []
  := by
  unfold upperCharacter
  split
  · simp
  · unfold mapCase
    dsimp only
    split
    case h_1 image hfind =>
      have himage := upperExpansions_ne_nil _ (List.mem_of_find?_eq_some hfind)
      simpa using himage
    case h_2 =>
      split <;> simp

theorem capitalize_eq_nil_iff (word : List Char) :
  capitalize word = [] ↔ word = []
  := by
  cases word with
  | nil => simp [capitalize]
  | cons c rest => simp [capitalize, upperCharacter_ne_nil c]

/-- A text has no form in upper camel case exactly if it has no letter or digit of any script. -/
theorem upperCamel_eq_empty_iff (s : String) :
  upperCamel s = "" ↔ IsWordless s
  := by
  calc upperCamel s = ""
      ↔ (words s.toList).flatMap capitalize = [] := by
        rw [upperCamel, ← String.toList_inj, String.toList_ofList, String.toList_empty]
    _ ↔ ∀ word ∈ words s.toList, word = [] := by
        simp only [List.flatMap_eq_nil_iff, capitalize_eq_nil_iff]
    _ ↔ (words s.toList).flatten = [] := by
        rw [List.flatten_eq_nil_iff]
    _ ↔ IsWordless s := by
        rw [flatten_words, List.filter_eq_nil_iff]
        simp only [IsWordless, Bool.not_eq_true]

/-! ### ASCII letters and digits -/

/-- Whether a text holds an ASCII letter or digit. -/
def HoldsAscii (s : String) : Prop :=
  ∃ c ∈ s.toList, isAsciiAlphanumeric c = true

instance (s : String) : Decidable (HoldsAscii s) :=
  List.decidableBEx _ s.toList

theorem toNat_lt_of_isAsciiAlphanumeric {c : Char} (h : isAsciiAlphanumeric c = true) :
  c.toNat < 0x80
  := by
  have hupper : c.isUpper = decide (c.val ≥ 'A'.val ∧ c.val ≤ 'Z'.val) := rfl
  have hlower : c.isLower = (decide (c.val ≥ 'a'.val) && decide (c.val ≤ 'z'.val)) := rfl
  have halpha : c.isAlpha = (c.isUpper || c.isLower) := rfl
  simp only [isAsciiAlphanumeric, Char.isAlphanum, halpha, hupper, hlower, Char.isDigit,
    Bool.or_eq_true, Bool.and_eq_true, decide_eq_true_eq] at h
  rcases h with (⟨-, hhigh⟩ | ⟨-, hhigh⟩) | ⟨-, hhigh⟩
  · exact Nat.lt_of_le_of_lt hhigh (by decide)
  · exact Nat.lt_of_le_of_lt hhigh (by decide)
  · exact Nat.lt_of_le_of_lt hhigh (by decide)

theorem isAlphanumeric_of_isAsciiAlphanumeric {c : Char} (h : isAsciiAlphanumeric c = true) :
  isAlphanumeric c = true
  := by
  rw [isAlphanumeric, if_pos (toNat_lt_of_isAsciiAlphanumeric h)]
  apply h

/-- An ASCII letter or digit stays one in either letter case. -/
theorem isAsciiAlphanumeric_changed {c : Char} (h : isAsciiAlphanumeric c = true) :
  isAsciiAlphanumeric c.toUpper = true ∧ isAsciiAlphanumeric c.toLower = true
  := by
  have hascii := toNat_lt_of_isAsciiAlphanumeric h
  revert h
  apply forall_ascii (p := fun c => isAsciiAlphanumeric c = true →
    isAsciiAlphanumeric c.toUpper = true ∧ isAsciiAlphanumeric c.toLower = true) _ hascii
  decide

theorem exists_mem_lowerWordTail {word : List Char} {c : Char} (hmem : c ∈ word)
    (hc : isAsciiAlphanumeric c = true) :
  ∃ d ∈ lowerWordTail word, isAsciiAlphanumeric d = true
  := by
  fun_induction lowerWordTail word
  case case1 => cases hmem
  case case2 =>
    rw [List.mem_singleton.mp hmem] at hc
    revert hc
    decide
  case case3 k rest hrest ih =>
    rcases List.mem_cons.mp hmem with rfl | hmem
    · use c.toLower
      rw [lowerCharacter, if_pos (toNat_lt_of_isAsciiAlphanumeric hc)]
      use List.mem_cons_self
      apply (isAsciiAlphanumeric_changed hc).2
    · obtain ⟨d, hd, hascii⟩ := ih hmem
      use d, List.mem_append_right _ hd

theorem exists_mem_capitalize {word : List Char} {c : Char} (hmem : c ∈ word)
    (hc : isAsciiAlphanumeric c = true) :
  ∃ d ∈ capitalize word, isAsciiAlphanumeric d = true
  := by
  cases word with
  | nil => cases hmem
  | cons k rest =>
    rcases List.mem_cons.mp hmem with rfl | hmem
    · use c.toUpper
      rw [capitalize, upperCharacter, if_pos (toNat_lt_of_isAsciiAlphanumeric hc)]
      use List.mem_cons_self
      apply (isAsciiAlphanumeric_changed hc).1
    · obtain ⟨d, hd, hascii⟩ := exists_mem_lowerWordTail hmem hc
      use d, List.mem_append_right _ hd

/-- A text with an ASCII letter or digit has one in upper camel case as well. -/
theorem HoldsAscii.upperCamel {s : String} (h : HoldsAscii s) :
  HoldsAscii (upperCamel s)
  := by
  obtain ⟨c, hmem, hc⟩ := h
  have hkept : c ∈ (words s.toList).flatten := by
    rw [flatten_words]
    apply List.mem_filter.mpr ⟨hmem, isAlphanumeric_of_isAsciiAlphanumeric hc⟩
  obtain ⟨word, hword, hin⟩ := List.mem_flatten.mp hkept
  obtain ⟨d, hd, hascii⟩ := exists_mem_capitalize hin hc
  use d
  rw [Text.upperCamel, String.toList_ofList]
  use List.mem_flatMap.mpr ⟨word, hword, hd⟩

/-! ### Underscores

An underscore ends a word, and it is not the upper-case or lower-case form of another character.
-/

/-- Whether a table of case mappings sends no character beyond ASCII to the underscore. -/
def SparesUnderscore (shifts : List Table.Shift) (expansions : List (Nat × List Nat)) : Prop :=
  (∀ r ∈ shifts, ¬ (max r.first 0x80 ≤ 0x5f - r.offset ∧ 0x5f - r.offset ≤ r.last))
  ∧ ∀ e ∈ expansions, '_' ∉ e.2.map Char.ofNat

theorem sparesUnderscore_upper :
  SparesUnderscore Table.upperShifts Table.upperExpansions
  := by
  unfold SparesUnderscore
  decide +kernel

theorem sparesUnderscore_lower :
  SparesUnderscore Table.lowerShifts Table.lowerExpansions
  := by
  unfold SparesUnderscore
  decide +kernel

theorem toNat_eq_of_ofNat_eq_underscore {n : Nat} (h : '_' = Char.ofNat n) :
  n = 0x5f
  := by
  have hcode : (0x5f : Nat) = (Char.ofNat n).toNat := congrArg Char.toNat h
  by_cases hvalid : n.isValidChar
  · rw [Char.ofNat, dif_pos hvalid] at hcode
    exact hcode.symm
  · rw [Char.ofNat, dif_neg hvalid] at hcode
    cases hcode

theorem underscore_not_mem_mapCase {shifts : List Table.Shift} {expansions : List (Nat × List Nat)}
    (h : SparesUnderscore shifts expansions) {c : Char} (hc : 0x80 ≤ c.toNat) :
  '_' ∉ mapCase shifts expansions c
  := by
  unfold mapCase
  dsimp only
  split
  case h_1 code image hfind =>
    apply h.2 _ (List.mem_of_find?_eq_some hfind)
  case h_2 =>
    split
    case h_1 r hfind =>
      intro hmem
      have hcode := toNat_eq_of_ofNat_eq_underscore (List.mem_singleton.mp hmem)
      have hin := List.find?_some hfind
      simp only [Bool.and_eq_true, decide_eq_true_eq] at hin
      apply h.1 r (List.mem_of_find?_eq_some hfind)
      omega
    case h_2 =>
      intro hmem
      rw [← List.mem_singleton.mp hmem] at hc
      revert hc
      decide

/-- The upper-case and lower-case forms of a character that stands in a word have no underscore. -/
theorem underscore_not_mem_changed {c : Char} (h : isAlphanumeric c = true) :
  '_' ∉ upperCharacter c ∧ '_' ∉ lowerCharacter c
  := by
  by_cases hc : c.toNat < 0x80
  · have hascii : isAsciiAlphanumeric c = true := by
      rw [isAlphanumeric, if_pos hc] at h
      apply h
    have hnot : isAsciiAlphanumeric '_' = false := by decide
    obtain ⟨hupper, hlower⟩ := isAsciiAlphanumeric_changed hascii
    rw [upperCharacter, if_pos hc, lowerCharacter, if_pos hc]
    constructor
    · intro hmem
      rw [← List.mem_singleton.mp hmem, hnot] at hupper
      cases hupper
    · intro hmem
      rw [← List.mem_singleton.mp hmem, hnot] at hlower
      cases hlower
  · rw [upperCharacter, if_neg hc, lowerCharacter, if_neg hc]
    have hbeyond : 0x80 ≤ c.toNat := Nat.le_of_not_lt hc
    constructor
    · apply underscore_not_mem_mapCase sparesUnderscore_upper hbeyond
    · apply underscore_not_mem_mapCase sparesUnderscore_lower hbeyond

theorem underscore_not_mem_lowerWordTail {word : List Char}
    (h : ∀ c ∈ word, isAlphanumeric c = true) :
  '_' ∉ lowerWordTail word
  := by
  fun_induction lowerWordTail word
  case case1 => apply List.not_mem_nil
  case case2 => decide
  case case3 c rest hrest ih =>
    obtain ⟨hc, hrest⟩ := List.forall_mem_cons.mp h
    rw [List.mem_append, not_or]
    use (underscore_not_mem_changed hc).2, ih hrest

theorem underscore_not_mem_capitalize {word : List Char}
    (h : ∀ c ∈ word, isAlphanumeric c = true) :
  '_' ∉ capitalize word
  := by
  cases word with
  | nil => apply List.not_mem_nil
  | cons c rest =>
    obtain ⟨hc, hrest⟩ := List.forall_mem_cons.mp h
    rw [capitalize, List.mem_append, not_or]
    use (underscore_not_mem_changed hc).1, underscore_not_mem_lowerWordTail hrest

/-- There is no underscore in upper camel case. -/
theorem underscore_not_mem_upperCamel (s : String) :
  '_' ∉ (upperCamel s).toList
  := by
  rw [upperCamel, String.toList_ofList]
  intro hmem
  obtain ⟨word, hword, hin⟩ := List.mem_flatMap.mp hmem
  apply underscore_not_mem_capitalize _ hin
  intro c hc
  have hkept : c ∈ (words s.toList).flatten := List.mem_flatten.mpr ⟨word, hword, hc⟩
  rw [flatten_words] at hkept
  apply (List.mem_filter.mp hkept).2

end LiveModels.Text
