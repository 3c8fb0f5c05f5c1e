import LiveModels.Text.Casing

/-!
# Letter case of ASCII and of all letters

Texts that agree up to the case of their ASCII letters have the same lower-case form, whatever else
stands in them. The converse holds for texts in which only ASCII letters have a lower-case form
other than themselves.
-/

namespace LiveModels.Text

/-! ### Characters -/

/-- What holds of every code point of ASCII holds of every character of ASCII. -/
theorem forall_ascii {p : Char → Prop} (h : ∀ n < 0x80, p (Char.ofNat n)) {c : Char}
    (hc : c.toNat < 0x80) :
  p c
  := by
  have hp := h c.toNat hc
  rwa [Char.ofNat_toNat] at hp

/-- Beyond ASCII nothing is a capital of ASCII. -/
theorem toLower_eq_self {c : Char} (h : 0x80 ≤ c.toNat) :
  c.toLower = c
  := by
  apply dif_neg
  rintro ⟨-, hhigh⟩
  have hcode : c.toNat ≤ 'Z'.toNat := hhigh
  exact absurd (Nat.le_trans h hcode) (by decide)

/-- Whether two characters are the same wherever they stand, once a text has been brought into lower
case. -/
structure LowersAlike (c d : Char) : Prop where
  lower : lowerCharacter c = lowerCharacter d
  cased : isCased c = isCased d
  ignorable : isCaseIgnorable c = isCaseIgnorable d
  sigma : c = 'Σ' ↔ d = 'Σ'

/-- A capital of ASCII and its small letter differ in nothing but their case. -/
theorem lowersAlike_toLower (c : Char) :
  LowersAlike c.toLower c
  := by
  by_cases hc : c.toNat < 0x80
  · constructor
    · apply forall_ascii (p := fun c => lowerCharacter c.toLower = lowerCharacter c) _ hc
      decide +kernel
    · apply forall_ascii (p := fun c => isCased c.toLower = isCased c) _ hc
      decide +kernel
    · apply forall_ascii (p := fun c => isCaseIgnorable c.toLower = isCaseIgnorable c) _ hc
      decide +kernel
    · apply forall_ascii (p := fun c => c.toLower = 'Σ' ↔ c = 'Σ') _ hc
      decide +kernel
  · rw [toLower_eq_self (Nat.le_of_not_lt hc)]
    exact ⟨rfl, rfl, rfl, Iff.rfl⟩

/-! ### Texts that agree up to ASCII letter case -/

theorem startsCased_map_toLower (s : List Char) :
  startsCased (s.map Char.toLower) = startsCased s
  := by
  induction s with
  | nil => rfl
  | cons c rest ih =>
    have hc := lowersAlike_toLower c
    unfold startsCased at ih ⊢
    rw [List.map_cons, List.dropWhile_cons, List.dropWhile_cons, hc.ignorable]
    by_cases hignorable : isCaseIgnorable c = true
    · rw [if_pos hignorable, if_pos hignorable, ih]
    · rw [if_neg hignorable, if_neg hignorable]
      exact hc.cased

theorem lowerFrom_map_toLower (afterCased : Bool) (s : List Char) :
  lowerFrom afterCased (s.map Char.toLower) = lowerFrom afterCased s
  := by
  induction s generalizing afterCased with
  | nil => rfl
  | cons c rest ih =>
    have hc := lowersAlike_toLower c
    rw [List.map_cons, lowerFrom, lowerFrom, ih, startsCased_map_toLower, hc.ignorable, hc.cased,
      hc.lower]
    simp only [hc.sigma]

theorem lower_lowerAscii (s : String) :
  lower (lowerAscii s) = lower s
  := by
  rw [lower, lower, lowerAscii, String.toList_ofList, lowerFrom_map_toLower]

/-- Texts that agree up to the case of ASCII letters agree up to letter case. -/
theorem lower_eq_of_lowerAscii_eq {s t : String} (h : lowerAscii s = lowerAscii t) :
  lower s = lower t
  := by
  rw [← lower_lowerAscii, h, lower_lowerAscii]

/-! ### Texts without other capitals -/

/-- Whether every character of a text beyond ASCII is its own lower-case form. -/
def IsSmallBeyondAscii (s : String) : Prop :=
  ∀ c ∈ s.toList, 0x80 ≤ c.toNat → lowerCharacter c = [c]

instance (s : String) : Decidable (IsSmallBeyondAscii s) :=
  List.decidableBAll _ s.toList

theorem lowerFrom_eq {s : List Char} (h : ∀ c ∈ s, 0x80 ≤ c.toNat → lowerCharacter c = [c])
    (afterCased : Bool) :
  lowerFrom afterCased s = s.map Char.toLower
  := by
  induction s generalizing afterCased with
  | nil => rfl
  | cons c rest ih =>
    have hsigma : c ≠ 'Σ' := by
      rintro rfl
      have hself := h 'Σ' List.mem_cons_self (by decide)
      revert hself
      decide +kernel
    have hc : lowerCharacter c = [c.toLower] := by
      by_cases hascii : c.toNat < 0x80
      · rw [lowerCharacter, if_pos hascii]
      · have hbeyond := Nat.le_of_not_lt hascii
        rw [h c List.mem_cons_self hbeyond, toLower_eq_self hbeyond]
    rw [lowerFrom, if_neg hsigma, hc, ih fun d hd => h d (List.mem_cons_of_mem _ hd)]
    rfl

theorem IsSmallBeyondAscii.lower_eq {s : String} (h : IsSmallBeyondAscii s) :
  lower s = lowerAscii s
  := by
  rw [lower, lowerAscii, lowerFrom_eq h]

/-- A long s is a small letter, but the sign of the kelvin has a small letter of ASCII. -/
example : IsSmallBeyondAscii "\u017f" ∧ lower "\u212a" = "k" ∧ lowerAscii "\u212a" ≠ "k" := by
  decide +kernel

end LiveModels.Text
