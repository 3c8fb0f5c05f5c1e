import LiveModels.Text.Blank
import LiveModels.Text.Character

/-!
# White space

Which characters are not white space, and which texts stay as they are when the white space around
them is taken away.
-/

namespace LiveModels.Text

theorem isBlank_of_isLowerHex {c : Char} (h : isLowerHex c = true) :
  isBlank c = false
  := by
  have hrange : 0x30 ≤ c.toNat ∧ c.toNat ≤ 0x66 := by
    simp only [isLowerHex, Char.isDigit, Bool.or_eq_true, Bool.and_eq_true, decide_eq_true_eq] at h
    rcases h with ⟨hlow, hhigh⟩ | ⟨hlow, hhigh⟩
    · exact ⟨hlow, Nat.le_trans hhigh (by decide)⟩
    · exact ⟨Nat.le_trans (by decide) hlow, hhigh⟩
  simp only [isBlank, Bool.or_eq_false_iff, Bool.and_eq_false_iff, decide_eq_false_iff_not,
    beq_eq_false_iff_ne]
  omega

/-- The code points of white space, in ascending order. -/
def blanks : List Nat := [
  0x9, 0xa, 0xb, 0xc, 0xd, 0x20, 0x85, 0xa0, 0x1680, 0x2000, 0x2001, 0x2002, 0x2003, 0x2004, 0x2005,
  0x2006, 0x2007, 0x2008, 0x2009, 0x200a, 0x2028, 0x2029, 0x202f, 0x205f, 0x3000]

theorem mem_blanks {c : Char} (h : isBlank c = true) :
  c.toNat ∈ blanks
  := by
  simp only [isBlank, Bool.or_eq_true, Bool.and_eq_true, decide_eq_true_eq, beq_iff_eq] at h
  simp only [blanks, List.mem_cons, List.not_mem_nil, or_false]
  omega

theorem isBlank_of_isWordCharacter {c : Char} (h : isWordCharacter c = true) :
  isBlank c = false
  := by
  -- The table of word characters is looked up for each of the few blanks.
  have hblanks : ∀ n ∈ blanks, isWordCharacter (Char.ofNat n) = false := by decide +kernel
  rw [← Bool.not_eq_true]
  intro hblank
  have hfalse := hblanks _ (mem_blanks hblank)
  rw [Char.ofNat_toNat, h] at hfalse
  cases hfalse

/-! ### Trimmed texts -/

theorem isBlank_of_head?_trimStart {s : List Char} {c : Char} (h : (trimStart s).head? = some c) :
  isBlank c = false
  := by
  have hhead := List.head?_dropWhile_not isBlank s
  rw [trimStart] at h
  rwa [h] at hhead

theorem isBlank_of_getLast?_trim {s : List Char} {c : Char} (h : (trim s).getLast? = some c) :
  isBlank c = false
  := by
  rw [trim, trimEnd, List.getLast?_reverse] at h
  have hhead := List.head?_dropWhile_not isBlank (trimStart s).reverse
  rwa [h] at hhead

theorem isPrefix_trimEnd (s : List Char) :
  trimEnd s <+: s
  := by
  rw [← List.reverse_suffix, trimEnd, List.reverse_reverse]
  apply List.dropWhile_suffix

theorem isBlank_of_head?_trim {s : List Char} {c : Char} (h : (trim s).head? = some c) :
  isBlank c = false
  := by
  apply isBlank_of_head?_trimStart (s := s)
  obtain ⟨rest, hrest⟩ := isPrefix_trimEnd (trimStart s)
  rw [trim] at h
  rw [← hrest, List.head?_append, h]
  rfl

/-- A text is trimmed if neither its first character nor its last one is white space. -/
theorem trim_eq_self {s : List Char} (hhead : ∀ c, s.head? = some c → isBlank c = false)
    (hlast : ∀ c, s.getLast? = some c → isBlank c = false) :
  trim s = s
  := by
  have hdrop : ∀ {s : List Char}, (∀ c, s.head? = some c → isBlank c = false) →
      s.dropWhile isBlank = s := by
    intro s hs
    cases s with
    | nil => rfl
    | cons c rest => simp [hs c rfl]
  have hreverse : ∀ c, s.reverse.head? = some c → isBlank c = false := by
    rw [List.head?_reverse]
    apply hlast
  rw [trim, trimEnd, trimStart, hdrop hhead, hdrop hreverse, List.reverse_reverse]

theorem trim_trim (s : List Char) :
  trim (trim s) = trim s
  := trim_eq_self (fun _ => isBlank_of_head?_trim) fun _ => isBlank_of_getLast?_trim

/-- A text without white space is its own trimmed text. -/
theorem trimmed_eq_self {text : String} (h : ∀ c ∈ text.toList, isBlank c = false) :
  trimmed text = text
  := by
  rw [trimmed, trim_eq_self, String.ofList_toList]
  · intro c hc
    apply h c (List.mem_of_head? hc)
  · intro c hc
    apply h c (List.mem_of_getLast? hc)

end LiveModels.Text
