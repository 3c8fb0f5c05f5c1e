import LiveModels.Digest.Combiner
import LiveModels.Proofs.Text.Number

/-!
# Changes that a hash shows

Folding a word into a hash multiplies the hash by 33 before the word is combined with it. Since 33
is odd, it has an inverse modulo `2 ^ 32`, and the hash before can be found again from the hash
after. So what has made two hashes different stays visible, whatever follows it: two sequences of
tokens of which a single word differs never have the same hash.
-/

namespace LiveModels.Combiner

/-! ### One word -/

/-- The shift and the sum are a multiplication. -/
theorem fold_eq (hash word : UInt32) :
  fold hash word = 33 * hash ^^^ word
  := by
  have hmul : (hash <<< 5) + hash = 33 * hash := by
    apply UInt32.toNat_inj.mp
    have hbits : 5 % 32 = 5 := rfl
    simp only [UInt32.toNat_add, UInt32.toNat_shiftLeft, UInt32.toNat_mul, UInt32.reduceToNat,
      Nat.shiftLeft_eq, hbits]
    omega
  rw [fold, hmul]

/-- The inverse of 33 modulo `2 ^ 32`. -/
def inverse : UInt32 := 1041204193

theorem inverse_mul (hash : UInt32) :
  inverse * (33 * hash) = hash
  := by
  have hone : inverse * 33 = 1 := by decide
  rw [← UInt32.mul_assoc, hone, UInt32.one_mul]

/-- Different hashes stay different when the same word is folded into them. -/
theorem fold_left_inj {hash hash' word : UInt32} :
  fold hash word = fold hash' word ↔ hash = hash'
  := by
  rw [fold_eq, fold_eq, UInt32.xor_left_inj]
  constructor
  · intro h
    rw [← inverse_mul hash, h, inverse_mul]
  · rintro rfl
    rfl

/-- Different words folded into one hash make it different. -/
theorem fold_right_inj {hash word word' : UInt32} :
  fold hash word = fold hash word' ↔ word = word'
  := by
  rw [fold_eq, fold_eq, UInt32.xor_right_inj]

/-! ### Sequences of tokens -/

/-- Two hashes are the same after a sequence of tokens if and only if they are before it. -/
theorem foldl_add_inj {hash hash' : UInt32} (tokens : List Token) :
  tokens.foldl add hash = tokens.foldl add hash' ↔ hash = hash'
  := by
  induction tokens generalizing hash hash' with
  | nil => rfl
  | cons token rest ih => rw [List.foldl_cons, List.foldl_cons, ih, add, add, fold_left_inj]

/-- Only the words of tokens count. -/
theorem foldl_add_eq {tokens tokens' : List Token}
    (h : tokens.map Token.word = tokens'.map Token.word) (hash : UInt32) :
  tokens.foldl add hash = tokens'.foldl add hash
  := by
  have hfold : ∀ ts : List Token, ts.foldl add hash = (ts.map Token.word).foldl fold hash := by
    intro ts
    rw [List.foldl_map]
    rfl
  rw [hfold, hfold, h]

/-- Whether two sequences have as many tokens, and the words of these differ at one place only. -/
structure DiffersOnce (tokens tokens' : List Token) : Prop where
  length : tokens.length = tokens'.length
  once : ∃! i : Nat, tokens[i]?.map Token.word ≠ tokens'[i]?.map Token.word

/-- Of two sequences that differ at their beginning, what follows has the same words; two that do
not differ there differ once in what follows. -/
theorem DiffersOnce.of_cons {token token' : Token} {rest rest' : List Token}
    (h : DiffersOnce (token :: rest) (token' :: rest')) :
  token.word ≠ token'.word ∧ rest.map Token.word = rest'.map Token.word ∨
    token.word = token'.word ∧ DiffersOnce rest rest'
  := by
  obtain ⟨i, hi, hunique⟩ := h.once
  have hlength : rest.length = rest'.length := Nat.succ.inj h.length
  cases i with
  | zero =>
    apply Or.inl
    constructor
    · simpa using hi
    · apply List.ext_getElem?
      intro j
      rw [List.getElem?_map, List.getElem?_map]
      by_contra hj
      cases hunique (j + 1) hj
  | succ i =>
    apply Or.inr
    refine ⟨?_, hlength, i, hi, ?_⟩
    · by_contra hword
      have hzero : (token :: rest)[0]?.map Token.word ≠ (token' :: rest')[0]?.map Token.word := by
        simpa using hword
      cases hunique 0 hzero
    · intro j hj
      apply Nat.succ.inj (hunique (j + 1) hj)

/-- Sequences that differ once give different hashes, whatever has been folded before them. -/
theorem DiffersOnce.foldl_add_ne {tokens tokens' : List Token} (h : DiffersOnce tokens tokens')
    (hash : UInt32) :
  tokens.foldl add hash ≠ tokens'.foldl add hash
  := by
  induction tokens generalizing tokens' hash with
  | nil =>
    obtain ⟨i, hi, -⟩ := h.once
    rw [List.eq_nil_of_length_eq_zero h.length.symm] at hi
    exact absurd rfl hi
  | cons token rest ih =>
    obtain ⟨token', rest', rfl⟩ := List.exists_cons_of_length_eq_add_one h.length.symm
    rw [List.foldl_cons, List.foldl_cons]
    rcases h.of_cons with ⟨hword, hrest⟩ | ⟨hword, hrest⟩
    · rw [foldl_add_eq hrest, ne_eq, foldl_add_inj, add, add, fold_right_inj]
      exact hword
    · rw [add, hword]
      apply ih hrest

/-! ### Texts -/

theorem length_text (hash : UInt32) :
  (text hash).toList.length = 8
  := by
  rw [text, String.toList_ofList]
  apply Text.length_hexFixed

theorem text_ne_empty (hash : UInt32) :
  text hash ≠ ""
  := by
  intro hempty
  have hlength := length_text hash
  rw [hempty] at hlength
  cases hlength

theorem isLowerHex_of_mem_text (hash : UInt32) :
  ∀ d ∈ (text hash).toList, Text.isLowerHex d = true
  := by
  intro d hd
  rw [text, String.toList_ofList] at hd
  apply Text.isLowerHex_of_mem_hexFixed hd

/-- Hashes with the same text are the same. -/
theorem text_inj {hash hash' : UInt32} :
  text hash = text hash' ↔ hash = hash'
  := by
  constructor
  · intro h
    have hfits : ∀ w : UInt32, w.toNat < 16 ^ 8 := UInt32.toNat_lt
    apply UInt32.toNat_inj.mp
    apply Text.eq_of_hexFixed_eq (hfits hash) (hfits hash')
    apply String.ofList_injective h
  · apply congrArg

/-- A single change shows in the text of the hash. Whatever tokens follow, they neither make
different hashes the same nor the same hashes different, and different hashes have different
texts. -/
theorem change_shows :
  (∀ tokens tokens', DiffersOnce tokens tokens' → text (run tokens) ≠ text (run tokens')) ∧
    (∀ (tokens : List Token) (hash hash' : UInt32),
      tokens.foldl add hash = tokens.foldl add hash' ↔ hash = hash') ∧
    Function.Injective text
  := by
  refine ⟨?_, ?_, ?_⟩
  · intro tokens tokens' h
    rw [ne_eq, text_inj]
    apply h.foldl_add_ne
  · intro tokens hash hash'
    apply foldl_add_inj
  · intro hash hash' h
    apply text_inj.mp h

/-- Zero and the least integer differ in one bit only, and so do not have the same hash before other
tokens. -/
theorem sign_shows :
  DiffersOnce [.int 0, .text "page", .int 7] [.int (-2147483648), .text "page", .int 7] ∧
    text (run [.int 0, .text "page", .int 7]) ≠
      text (run [.int (-2147483648), .text "page", .int 7])
  := by
  have honce : DiffersOnce [.int 0, .text "page", .int 7]
      [.int (-2147483648), .text "page", .int 7] := by
    refine ⟨rfl, 0, by decide, ?_⟩
    intro i hi
    match i with
    | 0 => rfl
    | 1 => exact absurd rfl hi
    | 2 => exact absurd rfl hi
    | i + 3 => exact absurd rfl hi
  exact ⟨honce, change_shows.1 _ _ honce⟩

end LiveModels.Combiner
