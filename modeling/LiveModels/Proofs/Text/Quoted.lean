import LiveModels.Proofs.Text.Affix
import LiveModels.Proofs.Text.Number
import LiveModels.Text.Quoted

/-!
# Escaped text

A text is read back from the text that it is escaped to. Escaping brings in no word but such as
escapes are made of, and no line feed.
-/

namespace LiveModels.Text

/-- A character is written as itself, as a letter after a backslash, or as its code in braces. -/
theorem escapeCharacter_cases (c : Char) :
  (escapeCharacter c = [c] ∧ c ≠ '\n') ∨
    (∃ k ∈ ['0', 't', 'r', 'n', '"', '\\'], escapeCharacter c = ['\\', k]) ∨
    ∃ digits, (∀ d ∈ digits, isLowerHex d = true) ∧
      escapeCharacter c = '\\' :: ('u' :: '{' :: digits ++ ['}'])
  := by
  unfold escapeCharacter
  split
  case h_7 =>
    split
    · exact .inl ⟨rfl, by assumption⟩
    · exact .inr (.inr ⟨hexDigits c.toNat, fun d hd => isLowerHex_of_mem_hexDigits hd, by simp⟩)
  all_goals exact .inr (.inl ⟨_, by simp, rfl⟩)

/-- A text that has been escaped is on one line. -/
theorem not_mem_escape (s : List Char) :
  '\n' ∉ escape s
  := by
  intro hmem
  obtain ⟨c, -, hc⟩ := List.mem_flatMap.mp hmem
  rcases escapeCharacter_cases c with ⟨heq, hne⟩ | ⟨k, hk, heq⟩ | ⟨digits, hdigits, heq⟩
  · rw [heq, List.mem_singleton] at hc
    apply hne hc.symm
  · rw [heq] at hc
    obtain rfl : '\n' = k := by simpa using hc
    revert hk
    decide
  · rw [heq] at hc
    have hdigit := hdigits '\n' (by simpa using hc)
    revert hdigit
    decide

/-- Whether a word cannot come from escapes: it has none of the marks around them, begins with no
letter of an escape and does not stand between the braces of a code. -/
structure IsUnescaped (word : List Char) : Prop where
  no_backslash : '\\' ∉ word
  no_brace : '}' ∉ word
  head : ∀ k ∈ ['0', 't', 'r', 'n', '"', '\\'], ∀ s, word ≠ k :: s
  no_code : ∃ k ∈ word, k ∉ ['u', '{'] ∧ isLowerHex k = false

variable {word : List Char}

theorem IsUnescaped.ne_nil (h : IsUnescaped word) :
  word ≠ []
  := by
  obtain ⟨k, hk, -⟩ := h.no_code
  apply List.ne_nil_of_mem hk

theorem prefix_of_prefix_escape (h : '\\' ∉ word) {s : List Char} (hs : word <+: escape s) :
  word <+: s
  := by
  induction word generalizing s with
  | nil => apply List.nil_prefix
  | cons k word ih =>
    cases s with
    | nil => apply hs
    | cons c s =>
      simp only [List.mem_cons, not_or] at h
      rw [escape, List.flatMap_cons, ← escape] at hs
      rcases escapeCharacter_cases c with ⟨heq, -⟩ | ⟨x, -, heq⟩ | ⟨digits, -, heq⟩
      · rw [heq, List.singleton_append, List.cons_prefix_cons] at hs
        rw [List.cons_prefix_cons]
        use hs.1
        apply ih h.2 hs.2
      · rw [heq, List.cons_append, List.cons_prefix_cons] at hs
        exact absurd hs.1.symm h.1
      · rw [heq, List.cons_append, List.cons_prefix_cons] at hs
        exact absurd hs.1.symm h.1

/-- A word that occurs in an escaped text occurs in the text. -/
theorem IsUnescaped.infix_of_escape (h : IsUnescaped word) {s : List Char}
    (hs : word <:+: escape s) :
  word <:+: s
  := by
  induction s with
  | nil => apply hs
  | cons c s ih =>
    have hback : ∀ x, word <:+: '\\' :: x → word <:+: x := by
      intro x hx
      rcases (infix_append_cons_iff h.no_backslash h.ne_nil (s := [])).mp hx with hnil | hx
      · exact absurd (List.infix_nil.mp hnil) h.ne_nil
      · apply hx
    have hstep : word <+: escape (c :: s) ∨ word <:+: escape s := by
      rw [escape, List.flatMap_cons, ← escape] at hs ⊢
      rcases escapeCharacter_cases c with ⟨heq, -⟩ | ⟨x, hx, heq⟩ | ⟨digits, hdigits, heq⟩
      · rw [heq] at hs ⊢
        apply List.infix_cons_iff.mp hs
      · rw [heq] at hs
        rcases List.infix_cons_iff.mp (hback _ hs) with ⟨y, hy⟩ | hs
        · cases word with
          | nil => exact absurd rfl h.ne_nil
          | cons k word =>
            obtain ⟨rfl, -⟩ := List.cons_eq_cons.mp hy
            exact absurd rfl (h.head k hx word)
        · apply Or.inr hs
      · rw [heq, List.cons_append] at hs
        have hs := hback _ hs
        rw [List.append_assoc, List.singleton_append] at hs
        rcases (infix_append_cons_iff h.no_brace h.ne_nil).mp hs with hs | hs
        · obtain ⟨k, hk, hletter, hcode⟩ := h.no_code
          have hmem := hs.subset hk
          simp only [List.mem_cons] at hmem hletter
          rcases hmem with rfl | rfl | hmem
          · exact absurd (Or.inl rfl) hletter
          · exact absurd (Or.inr (Or.inl rfl)) hletter
          · rw [hdigits k hmem] at hcode
            cases hcode
        · apply Or.inr hs
    rcases hstep with hprefix | hin
    · apply (prefix_of_prefix_escape h.no_backslash hprefix).isInfix
    · apply List.infix_cons (ih hin)

/-! ### Reading back -/

/-- A character is read back from its code. -/
theorem characterOfHex?_hexDigits (c : Char) :
  characterOfHex? (hexDigits c.toNat) = some c
  := by
  have hsize : c.toNat ≤ 0xffffffff := by
    have hvalid := c.valid
    simp only [UInt32.isValidChar, Nat.isValidChar] at hvalid
    simp only [Char.toNat]
    omega
  have hplus : ∀ digits, hexDigits c.toNat ≠ '+' :: digits := by
    intro digits heq
    have hdigit := isLowerHex_of_mem_hexDigits (n := c.toNat) (c := '+') (by simp [heq])
    cases hdigit
  have hvalid : c.toNat.isValidChar := c.valid
  unfold characterOfHex?
  split
  case h_1 hnil => exact absurd hnil (hexDigits_ne_nil _)
  case h_2 hdigits => exact absurd hdigits (hplus _)
  case h_3 hdigits => exact absurd hdigits (hplus _)
  case h_4 => simp only [hexFrom_hexDigits hsize, hvalid, if_true, Char.ofNat_toNat]

/-- A character is read back from its escape, whatever follows. -/
theorem unescape_escapeCharacter (c : Char) (s : List Char) :
  unescape (escapeCharacter c ++ s) = c :: unescape s
  := by
  unfold escapeCharacter
  split
  case h_7 hzero htab hreturn hfeed hquote hslash =>
    split
    · rw [List.singleton_append, unescape]
      all_goals simp_all
    · have hbrace : ∀ d ∈ hexDigits c.toNat, (d != '}') = true := by
        intro d hd
        have hdigit := isLowerHex_of_mem_hexDigits hd
        rw [bne_iff_ne]
        rintro rfl
        cases hdigit
      have hdigits : (hexDigits c.toNat ++ '}' :: s).takeWhile (· != '}') = hexDigits c.toNat := by
        rw [List.takeWhile_append_of_pos hbrace, List.takeWhile_cons_of_neg (by simp),
          List.append_nil]
      simp only [List.cons_append, List.nil_append, List.append_assoc]
      rw [unescape, List.drop_succ_cons, List.drop_zero, hdigits, characterOfHex?_hexDigits,
        List.drop_length_add_append]
      rfl
  all_goals simp [unescape]

/-- A text is read back from the text that it is escaped to. -/
theorem unescape_escape (s : List Char) :
  unescape (escape s) = s
  := by
  induction s with
  | nil => simp [escape, unescape]
  | cons c s ih => rw [escape, List.flatMap_cons, ← escape, unescape_escapeCharacter, ih]

end LiveModels.Text
