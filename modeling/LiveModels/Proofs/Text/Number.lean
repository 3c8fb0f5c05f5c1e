import LiveModels.Text.Number
import Mathlib.Tactic.IntervalCases

/-!
# Digits

What the decimal and hexadecimal digits of numbers consist of, and that a number is read back from
its decimal digits.
-/

namespace LiveModels.Text

/-- The decimal digit of a value below ten. -/
theorem digitValue?_ofNat {d : Nat} (h : d < 10) :
  digitValue? (Char.ofNat ('0'.toNat + d)) = some d
  := by
  interval_cases d <;> rfl

theorem isDigit_ofNat {d : Nat} (h : d < 10) :
  (Char.ofNat ('0'.toNat + d)).isDigit = true
  := by
  interval_cases d <;> rfl

/-! ### Decimal digits -/

theorem natDigits_ne_nil (n : Nat) :
  natDigits n ≠ []
  := by
  rw [natDigits]
  split <;> simp

theorem isDigit_of_mem_natDigits {n : Nat} {c : Char} (h : c ∈ natDigits n) :
  c.isDigit = true
  := by
  fun_induction natDigits n with
  | case1 n hn =>
    rw [List.mem_singleton.mp h]
    apply isDigit_ofNat hn
  | case2 n hn ih =>
    rcases List.mem_append.mp h with hfront | hlast
    · apply ih hfront
    · rw [List.mem_singleton.mp hlast]
      apply isDigit_ofNat (Nat.mod_lt _ (by omega))

/-- A number below a power of ten has no more digits than the power has zeros. -/
theorem length_natDigits_le {n k : Nat} (hk : 0 < k) (h : n < 10 ^ k) :
  (natDigits n).length ≤ k
  := by
  fun_induction natDigits n generalizing k with
  | case1 n hn => exact hk
  | case2 n hn ih =>
    obtain ⟨k, rfl⟩ : ∃ m, k = m + 1 := ⟨k - 1, by omega⟩
    have hpos : 0 < k := by
      rcases Nat.eq_zero_or_pos k with rfl | hpos
      · omega
      · apply hpos
    have hlength := ih hpos (by omega)
    simpa using hlength

/-- Reading goes on after digits that have been read. -/
theorem digitsFrom_append {most value next : Nat} {front : List Char}
    (h : digitsFrom most value front = .ok next) (last : List Char) :
  digitsFrom most value (front ++ last) = digitsFrom most next last
  := by
  induction front generalizing value with
  | nil =>
    cases h
    rfl
  | cons c rest ih =>
    simp only [List.cons_append, digitsFrom] at h ⊢
    cases hd : digitValue? c with
    | none => simp [hd] at h
    | some d =>
      simp only [hd] at h ⊢
      split at h
      case isTrue hmost =>
        simp only [hmost, if_true]
        apply ih h
      · cases h

/-- A number is read back from its decimal digits. -/
theorem digitsFrom_natDigits {most n : Nat} (h : n ≤ most) :
  digitsFrom most 0 (natDigits n) = .ok n
  := by
  fun_induction natDigits n with
  | case1 n hn =>
    rw [digitsFrom, digitValue?_ofNat hn]
    simp [h, digitsFrom]
  | case2 n hn ih =>
    have hmod : n % 10 < 10 := Nat.mod_lt _ (by omega)
    have hsum : n / 10 * 10 + n % 10 = n := by omega
    rw [digitsFrom_append (ih (by omega)), digitsFrom, digitValue?_ofNat hmod]
    simp [hsum, h, digitsFrom]

/-- A word is read back from its decimal digits. -/
theorem parseWord?_natDigits (w : UInt64) :
  parseWord? (natDigits w.toNat) = some w
  := by
  have hword : w.toNat ≤ largestWord := by
    have := w.toNat_lt
    simp only [largestWord]
    omega
  have hparse : parseUnsigned largestWord (natDigits w.toNat) = .ok w.toNat := by
    rw [← digitsFrom_natDigits hword, parseUnsigned.eq_def]
    split
    case h_1 hnil =>
      exact absurd hnil (natDigits_ne_nil _)
    case h_2 hplus =>
      have hdigit := isDigit_of_mem_natDigits (n := w.toNat) (c := '+') (by simp [hplus])
      cases hdigit
    case h_3 digits _ hplus =>
      have hdigit := isDigit_of_mem_natDigits (n := w.toNat) (c := '+') (by simp [hplus])
      cases hdigit
    · rfl
  simp [parseWord?, hparse]

/-- Numbers with the same decimal digits are the same. -/
theorem natDigits_inj {m n : Nat} :
  natDigits m = natDigits n ↔ m = n
  := by
  constructor
  · intro h
    have hm := digitsFrom_natDigits (Nat.le_max_left m n)
    rw [h, digitsFrom_natDigits (Nat.le_max_right m n)] at hm
    apply (Except.ok.inj hm).symm
  · apply congrArg

/-! ### Decimal digits with a sign -/

theorem intDigits_ne_nil (n : Int) :
  intDigits n ≠ []
  := by
  rw [intDigits]
  split
  · simp
  · apply natDigits_ne_nil

theorem eq_or_isDigit_of_mem_intDigits {n : Int} {c : Char} (h : c ∈ intDigits n) :
  c = '-' ∨ c.isDigit = true
  := by
  rw [intDigits] at h
  split at h
  · rcases List.mem_cons.mp h with hminus | hdigit
    · apply Or.inl hminus
    · apply Or.inr (isDigit_of_mem_natDigits hdigit)
  · apply Or.inr (isDigit_of_mem_natDigits h)

/-- Integers with the same decimal digits are the same. -/
theorem intDigits_inj {m n : Int} :
  intDigits m = intDigits n ↔ m = n
  := by
  have hminus : ∀ k, '-' ∉ natDigits k := by
    intro k hk
    have hdigit := isDigit_of_mem_natDigits hk
    cases hdigit
  constructor
  · intro h
    rw [intDigits, intDigits] at h
    split at h <;> split at h
    · have habs := natDigits_inj.mp (List.cons.inj h).2
      omega
    · exact absurd (h ▸ List.mem_cons_self) (hminus n.natAbs)
    · exact absurd (h ▸ List.mem_cons_self) (hminus m.natAbs)
    · have habs := natDigits_inj.mp h
      omega
  · apply congrArg

/-! ### Hexadecimal digits -/

theorem isLowerHex_hexDigit {n : Nat} (h : n < 16) :
  isLowerHex (hexDigit n) = true
  := by
  interval_cases n <;> rfl

theorem isLowerHex_of_mem_hexFixed {width n : Nat} {c : Char} (h : c ∈ hexFixed width n) :
  isLowerHex c = true
  := by
  induction width generalizing n with
  | zero => simp [hexFixed] at h
  | succ width ih =>
    rw [hexFixed, List.mem_append] at h
    rcases h with hfront | hlast
    · apply ih hfront
    · rw [List.mem_singleton.mp hlast]
      apply isLowerHex_hexDigit (Nat.mod_lt _ (by omega))

theorem isLowerHex_of_mem_hexDigits {n : Nat} {c : Char} (h : c ∈ hexDigits n) :
  isLowerHex c = true
  := by
  fun_induction hexDigits n with
  | case1 n hn =>
    rw [List.mem_singleton.mp h]
    apply isLowerHex_hexDigit hn
  | case2 n hn ih =>
    rcases List.mem_append.mp h with hfront | hlast
    · apply ih hfront
    · rw [List.mem_singleton.mp hlast]
      apply isLowerHex_hexDigit (Nat.mod_lt n (by decide))

theorem length_hexFixed (width n : Nat) :
  (hexFixed width n).length = width
  := by
  induction width generalizing n with
  | zero => rfl
  | succ width ih => simp [hexFixed, ih]

theorem hexValue?_hexDigit {n : Nat} (h : n < 16) :
  hexValue? (hexDigit n) = some n
  := by
  interval_cases n <;> rfl

/-- Reading goes on after digits that have been read. -/
theorem hexFrom_append {most value next : Nat} {front : List Char}
    (h : hexFrom most value front = some next) (last : List Char) :
  hexFrom most value (front ++ last) = hexFrom most next last
  := by
  induction front generalizing value with
  | nil =>
    cases h
    rfl
  | cons c rest ih =>
    simp only [List.cons_append, hexFrom] at h ⊢
    cases hd : hexValue? c with
    | none => simp [hd] at h
    | some d =>
      simp only [hd] at h ⊢
      split at h
      case isTrue hmost =>
        simp only [hmost, if_true]
        apply ih h
      · cases h

/-- A number is read back from its hexadecimal digits. -/
theorem hexFrom_hexDigits {most n : Nat} (h : n ≤ most) :
  hexFrom most 0 (hexDigits n) = some n
  := by
  fun_induction hexDigits n with
  | case1 n hn =>
    rw [hexFrom, hexValue?_hexDigit hn]
    simp [h, hexFrom]
  | case2 n hn ih =>
    have hmod : n % 16 < 16 := Nat.mod_lt _ (by omega)
    have hsum : n / 16 * 16 + n % 16 = n := by omega
    rw [hexFrom_append (ih (by omega)), hexFrom, hexValue?_hexDigit hmod]
    simp [hsum, h, hexFrom]

theorem hexDigits_ne_nil (n : Nat) :
  hexDigits n ≠ []
  := by
  rw [hexDigits]
  split <;> simp

/-- Numbers that fit into a width have the same digits of this width only if they are the same. -/
theorem eq_of_hexFixed_eq {width m n : Nat} (hm : m < 16 ^ width) (hn : n < 16 ^ width)
    (h : hexFixed width m = hexFixed width n) :
  m = n
  := by
  induction width generalizing m n with
  | zero => omega
  | succ width ih =>
    obtain ⟨hfront, hlast⟩ := List.append_inj' h rfl
    have hhigh : m / 16 = n / 16 := by
      apply ih _ _ hfront
      all_goals
        rw [Nat.pow_succ] at hm hn
        omega
    have hlow : m % 16 = n % 16 := by
      apply Option.some.inj
      rw [← hexValue?_hexDigit (Nat.mod_lt m (by decide)), (List.cons.inj hlast).1,
        hexValue?_hexDigit (Nat.mod_lt n (by decide))]
    omega

end LiveModels.Text
