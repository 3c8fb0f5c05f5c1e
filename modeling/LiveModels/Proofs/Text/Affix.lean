import LiveModels.Text.Affix
import Mathlib.Data.List.Infix

/-!
# Readers that stop

A reader of a word or of white space that comes to a character which it does not read goes no
further, so it does with a longer text what it does with the text up to this character.
-/

namespace LiveModels.Text

variable {k : Char} {word s rest : List Char}

theorem afterWord?_stop (hk : k ∉ word) (s rest : List Char) :
  afterWord? word (s ++ k :: rest) = (afterWord? word s).map (· ++ k :: rest)
  := by
  induction word generalizing s with
  | nil => rfl
  | cons w word ih =>
    simp only [List.mem_cons, not_or] at hk
    cases s with
    | nil => simp [afterWord?, Ne.symm hk.1]
    | cons c s =>
      simp only [List.cons_append, afterWord?]
      split
      · apply ih hk.2
      · rfl

theorem trimStart_stop (hk : isBlank k = false) (s rest : List Char) :
  trimStart (s ++ k :: rest) = trimStart s ++ k :: rest
  := by
  induction s with
  | nil => simp [trimStart, hk]
  | cons c s ih =>
    simp only [trimStart] at ih ⊢
    by_cases hc : isBlank c = true
    · simp [hc, ih]
    · simp [hc]

theorem afterBlank?_stop (hk : isBlank k = false) (s rest : List Char) :
  afterBlank? (s ++ k :: rest) = (afterBlank? s).map (· ++ k :: rest)
  := by
  cases s with
  | nil => simp [afterBlank?, hk]
  | cons c s =>
    simp only [List.cons_append, afterBlank?, trimStart_stop hk]
    split <;> rfl

theorem takeWhile_stop {p : Char → Bool} (hk : p k = false) (s rest : List Char) :
  (s ++ k :: rest).takeWhile p = s.takeWhile p
  := by
  induction s with
  | nil => simp [hk]
  | cons c s ih => simp [List.takeWhile_cons, ih]

theorem dropWhile_stop {p : Char → Bool} (hk : p k = false) (s rest : List Char) :
  (s ++ k :: rest).dropWhile p = s.dropWhile p ++ k :: rest
  := by
  induction s with
  | nil => simp [hk]
  | cons c s ih =>
    simp only [List.cons_append, List.dropWhile_cons, ih]
    split <;> rfl

/-! ### What is left over -/

theorem suffix_of_afterWord? (h : afterWord? word s = some rest) :
  rest <:+ s
  := ⟨word, (eq_append_of_afterWord? h).symm⟩

theorem trimStart_suffix (s : List Char) :
  trimStart s <:+ s
  := List.dropWhile_suffix _

theorem suffix_of_afterBlank? (h : afterBlank? s = some rest) :
  rest <:+ s
  := by
  cases s with
  | nil => cases h
  | cons c s =>
    simp only [afterBlank?] at h
    split at h
    · cases h
      apply (trimStart_suffix s).trans (List.suffix_cons c s)
    · cases h

/-- A word that does not occur in a text is read nowhere in it. -/
theorem afterWord?_eq_none (h : ¬ word <:+: s) :
  afterWord? word s = none
  := by
  rw [Option.eq_none_iff_forall_ne_some]
  intro rest hrest
  apply h
  rw [eq_append_of_afterWord? hrest]
  apply (List.prefix_append word rest).isInfix

/-- A word that occurs around a character which it does not contain occurs before it or after it. -/
theorem infix_append_cons_iff (hk : k ∉ word) (hne : word ≠ []) :
  word <:+: s ++ k :: rest ↔ word <:+: s ∨ word <:+: rest
  := by
  constructor
  · rintro ⟨x, y, h⟩
    rw [List.append_assoc] at h
    rcases List.append_eq_append_iff.mp h with ⟨z, hs, hz⟩ | ⟨z, hx, hz⟩
    · apply Or.inl
      rcases List.append_eq_append_iff.mp hz with ⟨v, hz, -⟩ | ⟨v, hword, hv⟩
      · rw [hs, hz]
        exact ⟨x, v, by simp⟩
      · cases v with
        | nil =>
          rw [List.append_nil] at hword
          rw [hs, hword]
          apply (List.suffix_append x z).isInfix
        | cons c v =>
          obtain ⟨rfl, -⟩ := List.cons_eq_cons.mp hv
          exact absurd (by simp [hword]) hk
    · cases z with
      | nil =>
        cases word with
        | nil => exact absurd rfl hne
        | cons c word =>
          obtain ⟨rfl, -⟩ := List.cons_eq_cons.mp hz
          exact absurd List.mem_cons_self hk
      | cons c z =>
        obtain ⟨rfl, rfl⟩ := List.cons_eq_cons.mp hz
        apply Or.inr
        exact ⟨z, y, by simp⟩
  · rintro (h | h)
    · apply h.trans (List.prefix_append s _).isInfix
    · apply h.trans
      apply ((List.suffix_cons k rest).trans (List.suffix_append s _)).isInfix

end LiveModels.Text
