import LiveModels.Json.Printer
import LiveModels.Json.Reader
import LiveModels.Proofs.Text.Number

/-!
# Reading back what was written

A value of truth values, texts, integers of 64 bits, and arrays and objects of such values is read
back from its text. It does not matter which separators stand between the tokens of the text: what
is read is what the text spells, and both the text without separators and the text with every item
and member on a line of its own spell the value.
-/

namespace LiveModels.Json

open LiveModels.Text

/-! ### Strings -/

/-- A control character is read back from its code unit. -/
theorem hexFrom_hexFixed {n : Nat} (h : n < 0x20) :
  hexFrom 0xffff 0 (hexFixed 4 n) = some n
  := by
  interval_cases n <;> rfl

theorem readEscape_hexFixed {c : Char} (h : c.toNat < 0x20) (rest : List Char) :
  readEscape ('u' :: (hexFixed 4 c.toNat ++ rest)) = some (.character c, rest)
  := by
  have hunit : readUnit (hexFixed 4 c.toNat ++ rest) = some (c.toNat, rest) := by
    have hvalue := hexFrom_hexFixed h
    have hlength := length_hexFixed 4 c.toNat
    match hdigits : hexFixed 4 c.toNat, hlength with
    | [w, x, y, z], _ =>
      rw [hdigits] at hvalue
      simp [readUnit, hvalue]
  have hlow : ¬ (0xdc00 ≤ c.toNat ∧ c.toNat < 0xe000) := by omega
  have hhigh : ¬ (0xd800 ≤ c.toNat ∧ c.toNat < 0xdc00) := by omega
  simp [readEscape, hunit, hlow, hhigh, Char.ofNat_toNat]

/-- What an escape stands for is read back from inside quotes. -/
theorem readString_escape {c : Char} {after rest : List Char}
    (h : readEscape after = some (.character c, rest)) :
  readString ('\\' :: after) =
    (readString rest).map fun r => ((Unit16.character c).prepend r.1, r.2)
  := by
  rw [readString]
  split
  case h_1 hnone =>
    rw [hnone] at h
    cases h
  case h_2 u rest' hsome =>
    rw [hsome] at h
    cases h
    cases readString rest with
    | none => rfl
    | some r => rfl

/-- A character that is written as itself is read back from inside quotes. -/
theorem readString_cons {c : Char} (hquote : c ≠ '"') (hbackslash : c ≠ '\\')
    (hshown : ¬ c.toNat < 0x20) (rest : List Char) :
  readString (c :: rest) =
    (readString rest).map fun r => ((Unit16.character c).prepend r.1, r.2)
  := by
  rw [readString.eq_4 _ _ (by simpa using hquote) (by simpa using hbackslash), if_neg hshown]
  cases readString rest with
  | none => rfl
  | some r => rfl

/-- One character is read back from inside quotes. -/
theorem readString_escapeCharacter (c : Char) (rest : List Char) :
  readString (escapeCharacter c ++ rest) =
    (readString rest).map fun r => ((Unit16.character c).prepend r.1, r.2)
  := by
  unfold escapeCharacter
  split
  case h_8 hquote hbackslash _ _ _ _ _ =>
    split
    case isTrue hcontrol =>
      apply readString_escape
      apply readEscape_hexFixed hcontrol
    case isFalse hshown =>
      apply readString_cons hquote hbackslash hshown
  all_goals
    apply readString_escape
    rfl

/-- A text is read back from inside quotes. -/
theorem readString_flatMap (s rest : List Char) :
  readString (s.flatMap escapeCharacter ++ '"' :: rest) = some (some s, rest)
  := by
  induction s with
  | nil => simp [readString]
  | cons c s ih =>
    rw [List.flatMap_cons, List.append_assoc, readString_escapeCharacter, ih]
    rfl

/-! ### Separators -/

/-- Whether a text consists of separators. -/
def IsGap (s : List Char) : Prop :=
  ∀ c ∈ s, isSeparator c = true

theorem isGap_nil :
  IsGap []
  := by simp [IsGap]

theorem isGap_space :
  IsGap [' ']
  := by simp [IsGap, isSeparator]

theorem isGap_margin (level : Nat) :
  IsGap (margin level)
  := by
  intro c hc
  simp only [margin, List.mem_cons, List.mem_replicate] at hc
  rcases hc with rfl | ⟨-, rfl⟩ <;> rfl

theorem IsGap.skipSeparators {gap : List Char} (h : IsGap gap) (rest : List Char) :
  skipSeparators (gap ++ rest) = Json.skipSeparators rest
  := List.dropWhile_append_of_pos h

theorem skipSeparators_cons {c : Char} (h : isSeparator c = false) (rest : List Char) :
  skipSeparators (c :: rest) = c :: rest
  := by
  simp [skipSeparators, h]

/-- Whether a character can stand after a value: a separator, a comma or a closing bracket. -/
def ends (c : Char) : Bool :=
  isSeparator c || c == ',' || c == ']' || c == '}'

/-- Whether a text begins like what follows a value, or not at all. -/
def Follows (rest : List Char) : Prop :=
  ∀ c ∈ rest.head?, ends c = true

theorem follows_nil :
  Follows []
  := by simp [Follows]

theorem follows_cons {c : Char} (h : ends c = true) (rest : List Char) :
  Follows (c :: rest)
  := by simpa [Follows] using h

theorem IsGap.follows {gap rest : List Char} (h : IsGap gap) (hrest : Follows rest) :
  Follows (gap ++ rest)
  := by
  cases gap with
  | nil => exact hrest
  | cons c gap => exact follows_cons (by simp [ends, h c List.mem_cons_self]) _

/-- What follows a value does not go on with it. -/
theorem Follows.ne {c : Char} {rest : List Char} (h : Follows (c :: rest)) :
  c.isDigit = false ∧ c ≠ '.' ∧ c ≠ 'e' ∧ c ≠ 'E'
  := by
  have hends : ends c = true := h c rfl
  simp only [ends, isSeparator, Bool.or_eq_true, beq_iff_eq] at hends
  rcases hends with (((((rfl | rfl) | rfl) | rfl) | rfl) | rfl) | rfl <;> decide

theorem Follows.isDigit {rest : List Char} (h : Follows rest) :
  ∀ c ∈ rest.head?, c.isDigit = false
  := by
  cases rest with
  | nil => simp
  | cons c more => simpa using h.ne.1

/-! ### Numbers -/

/-- The digits of a number end where something else begins. -/
theorem takeWhile_natDigits (n : Nat) {rest : List Char} (h : Follows rest) :
  (natDigits n ++ rest).takeWhile Char.isDigit = natDigits n ∧
    (natDigits n ++ rest).dropWhile Char.isDigit = rest
  := by
  have hdigits : ∀ c ∈ natDigits n, c.isDigit = true := fun c => isDigit_of_mem_natDigits
  constructor
  · rw [List.takeWhile_append_of_pos hdigits]
    cases rest with
    | nil => simp
    | cons c more => simp [h.isDigit c rfl]
  · rw [List.dropWhile_append_of_pos hdigits]
    cases rest with
    | nil => rfl
    | cons c more => simp [h.isDigit c rfl]

theorem decimalValue_append (front : List Char) (c : Char) :
  decimalValue (front ++ [c]) = decimalValue front * 10 + (c.toNat - '0'.toNat)
  := by
  simp [decimalValue]

theorem toNat_digit {d : Nat} (h : d < 10) :
  (Char.ofNat ('0'.toNat + d)).toNat - '0'.toNat = d
  := by
  interval_cases d <;> rfl

/-- The value of the digits of a number is the number. -/
theorem decimalValue_natDigits (n : Nat) :
  decimalValue (natDigits n) = n
  := by
  fun_induction natDigits n with
  | case1 n hn =>
    have hvalue := decimalValue_append [] (Char.ofNat ('0'.toNat + n))
    rw [toNat_digit hn] at hvalue
    simpa [decimalValue] using hvalue
  | case2 n hn ih =>
    rw [decimalValue_append, ih, toNat_digit (Nat.mod_lt _ (by omega))]
    omega

/-- Only zero begins with the digit zero. -/
theorem head?_natDigits (n : Nat) :
  (natDigits n).head? = some '0' → (natDigits n).length = 1
  := by
  fun_induction natDigits n with
  | case1 n hn => simp
  | case2 n hn ih =>
    intro hhead
    have hfront : (natDigits (n / 10)).head? = some '0' := by
      obtain ⟨c, rest, hdigits⟩ := List.exists_cons_of_ne_nil (natDigits_ne_nil (n / 10))
      rw [hdigits] at hhead ⊢
      simpa using hhead
    have hlength := ih hfront
    obtain ⟨c, hdigits⟩ := List.length_eq_one_iff.mp hlength
    have hzero : n / 10 = 0 := by
      rw [← decimalValue_natDigits (n / 10), hdigits]
      rw [hdigits] at hfront
      obtain rfl := Option.some.inj hfront
      rfl
    omega

/-- Digits with a sign or none are read as an integer. -/
theorem readNumeral_natDigits (negative : Bool) (n : Nat) {rest : List Char} (h : Follows rest) :
  readNumeral ((if negative then ['-'] else []) ++ natDigits n ++ rest) =
    some (⟨negative, natDigits n, [], none⟩, rest)
  := by
  obtain ⟨htake, hdrop⟩ := takeWhile_natDigits n h
  have hfraction : readFraction rest = some ([], rest) := by
    unfold readFraction
    split
    case h_1 more => exact absurd rfl h.ne.2.1
    · rfl
  have hexponent : readExponent rest = some (none, rest) := by
    unfold readExponent
    simp only
    split
    case h_7 => rfl
    all_goals first
      | exact absurd rfl h.ne.2.2.1
      | exact absurd rfl h.ne.2.2.2
  have hzero : ¬ ((natDigits n).isEmpty = true ∨
      ((natDigits n).head? = some '0' ∧ 1 < (natDigits n).length)) := by
    rintro (hempty | ⟨hhead, hlength⟩)
    · apply natDigits_ne_nil n
      simpa using hempty
    · have := head?_natDigits n hhead
      omega
  have hsign : ∀ more, natDigits n ++ rest ≠ '-' :: more := by
    intro more heq
    obtain ⟨c, digits, hdigits⟩ := List.exists_cons_of_ne_nil (natDigits_ne_nil n)
    rw [hdigits] at heq
    cases heq
    cases isDigit_of_mem_natDigits (n := n) (c := '-') (by simp [hdigits])
  cases negative with
  | true =>
    unfold readNumeral
    simp only [if_true, List.cons_append, List.nil_append, htake, hdrop, if_neg hzero, hfraction,
      hexponent]
  | false =>
    change readNumeral (natDigits n ++ rest) = _
    unfold readNumeral
    split
    case h_1 negative body heq =>
      split at heq
      case h_1 more hmore => exact absurd hmore (hsign more)
      case h_2 =>
        cases heq
        simp only [htake, hdrop, if_neg hzero, hfraction, hexponent]

/-- The text of an integer begins with a digit or with a sign. -/
theorem exists_intDigits_cons (n : Int) :
  ∃ c more, intDigits n = c :: more ∧ (c = '-' ∨ c.isDigit = true)
  := by
  obtain ⟨c, more, hdigits⟩ := List.exists_cons_of_ne_nil (intDigits_ne_nil n)
  use c, more, hdigits
  apply eq_or_isDigit_of_mem_intDigits (n := n)
  simp [hdigits]

/-- No digit and no sign separates values, and none begins or ends a structure. -/
theorem ne_of_isDigit {c : Char} (h : c = '-' ∨ c.isDigit = true) :
  isSeparator c = false ∧ c ≠ '[' ∧ c ≠ '{' ∧ c ≠ ']' ∧ c ≠ '}'
  := by
  refine ⟨?_, ?_, ?_, ?_, ?_⟩
  · by_contra hseparator
    simp only [isSeparator, Bool.not_eq_false, Bool.or_eq_true, beq_iff_eq] at hseparator
    rcases hseparator with ((rfl | rfl) | rfl) | rfl <;> rcases h with h | h <;> cases h
  all_goals
    rintro rfl
    rcases h with h | h <;> cases h

/-- An integer of 64 bits, signed or unsigned, is read back from its digits. -/
theorem readScalar_intDigits {n : Int} (hleast : -0x8000000000000000 ≤ n) (hmost : n ≤ largestWord)
    {rest : List Char} (h : Follows rest) :
  readScalar (intDigits n ++ rest) = (int n, rest)
  := by
  have hdigits : intDigits n = (if decide (n < 0) then ['-'] else []) ++ natDigits n.natAbs := by
    rw [intDigits]
    by_cases hn : n < 0 <;> simp [hn]
  have hnumeral := readNumeral_natDigits (decide (n < 0)) n.natAbs h
  rw [← hdigits] at hnumeral
  have hvalue : Numeral.value ⟨decide (n < 0), natDigits n.natAbs, [], none⟩ = int n := by
    simp only [Numeral.value, decimalValue_natDigits, List.isEmpty_nil, Option.isNone_none,
      and_self, if_true, decide_eq_true_eq]
    by_cases hn : n < 0
    · rw [if_pos hn, if_neg (by omega)]
      congr 1
      omega
    · rw [if_neg hn, if_pos (by omega)]
      congr 1
      omega
  obtain ⟨c, more, hcons, hc⟩ := exists_intDigits_cons n
  rw [hcons, List.cons_append] at hnumeral ⊢
  rw [readScalar.eq_def]
  split
  case h_5 => simp only [hnumeral, hvalue]
  all_goals
    rename_i heq
    cases heq
    rcases hc with hc | hc <;> cases hc

/-! ### Texts of values -/

/-- A part of a JSON text: a value, the items of an array, or the members of an object. -/
inductive Phrase
  | value (j : Json)
  | items (items : List Json)
  | members (members : List (String × Json))

/-- Whether a text spells a part of JSON: as it is written, but with any separators around values
and around the keys of members. -/
inductive Spells : Phrase → List Char → Prop
  | null : Spells (.value .null) "null".toList
  | trueValue : Spells (.value (.bool true)) "true".toList
  | falseValue : Spells (.value (.bool false)) "false".toList
  | integer {n : Int} (hleast : -0x8000000000000000 ≤ n) (hmost : n ≤ largestWord) :
    Spells (.value (int n)) (intDigits n)
  | string (text : String) : Spells (.value (.string text)) (printString text)
  | emptyArray : Spells (.value (.array [])) ['[', ']']
  | array {items : List Json} {s : List Char} (h : Spells (.items items) s) :
    Spells (.value (.array items)) ('[' :: (s ++ [']']))
  | emptyObject : Spells (.value (.object [])) ['{', '}']
  | object {members : List (String × Json)} {s : List Char} (h : Spells (.members members) s) :
    Spells (.value (.object members)) ('{' :: (s ++ ['}']))
  | pad {j : Json} {a s b : List Char} (ha : IsGap a) (h : Spells (.value j) s) (hb : IsGap b) :
    Spells (.value j) (a ++ s ++ b)
  | lastItem {j : Json} {s : List Char} (h : Spells (.value j) s) : Spells (.items [j]) s
  | item {j : Json} {items : List Json} {s rest : List Char} (h : Spells (.value j) s)
      (hrest : Spells (.items items) rest) :
    Spells (.items (j :: items)) (s ++ ',' :: rest)
  | lastMember (key : String) {j : Json} {a b s : List Char} (ha : IsGap a) (hb : IsGap b)
      (h : Spells (.value j) s) :
    Spells (.members [(key, j)]) (a ++ printString key ++ b ++ ':' :: s)
  | member (key : String) {j : Json} {members : List (String × Json)} {a b s rest : List Char}
      (ha : IsGap a) (hb : IsGap b) (h : Spells (.value j) s)
      (hrest : Spells (.members members) rest) :
    Spells (.members ((key, j) :: members)) (a ++ printString key ++ b ++ ':' :: s ++ ',' :: rest)

/-! ### Reading -/

/-- What begins like no array and no object is a scalar. -/
theorem readValue_scalar {c : Char} (fuel : Nat) (hseparator : isSeparator c = false)
    (harray : c ≠ '[') (hobject : c ≠ '{') (rest : List Char) :
  readValue (fuel + 1) (c :: rest) = readScalar (c :: rest)
  := by
  rw [readValue, skipSeparators_cons hseparator]
  split
  case h_1 heq => cases heq
  case h_2 heq =>
    cases heq
    exact absurd rfl harray
  case h_3 heq =>
    cases heq
    exact absurd rfl hobject
  case h_4 => rfl

theorem readValue_array (fuel : Nat) {s : List Char} (h : (skipSeparators s).head? ≠ some ']') :
  readValue (fuel + 1) ('[' :: s) =
    (.array (readItems fuel s).1, (readItems fuel s).2)
  := by
  rw [readValue, skipSeparators_cons rfl]
  simp only
  split
  case h_1 heq =>
    rw [heq] at h
    exact absurd rfl h
  case h_2 => rfl

theorem readValue_object (fuel : Nat) {s : List Char} (h : (skipSeparators s).head? ≠ some '}') :
  readValue (fuel + 1) ('{' :: s) =
    (.object (readMembers fuel s).1, (readMembers fuel s).2)
  := by
  rw [readValue, skipSeparators_cons rfl]
  simp only
  split
  case h_1 heq =>
    rw [heq] at h
    exact absurd rfl h
  case h_2 => rfl

theorem printString_append (text : String) (rest : List Char) :
  printString text ++ rest = '"' :: (text.toList.flatMap escapeCharacter ++ '"' :: rest)
  := by
  simp [printString]

/-- A text is read back as a scalar. -/
theorem readScalar_printString (text : String) (rest : List Char) :
  readScalar (printString text ++ rest) = (.string text, rest)
  := by
  rw [printString_append]
  simp [readScalar, readString_flatMap]

/-- Whether a part of JSON is read back from a text, whatever follows it. Of what follows a value,
separators may have been skipped. -/
def IsReadFrom : Phrase → List Char → Prop
  | .value j, s => ∀ fuel, s.length ≤ fuel → ∀ rest, Follows rest →
    ∃ left, readValue fuel (s ++ rest) = (j, left) ∧ skipSeparators left = skipSeparators rest
  | .items items, s => ∀ fuel, s.length < fuel → ∀ rest,
    readItems fuel (s ++ ']' :: rest) = (items, rest)
  | .members members, s => ∀ fuel, s.length < fuel → ∀ rest,
    readMembers fuel (s ++ '}' :: rest) = (members, rest)

/-- The text of a value begins, after separators, with none of the closing brackets. -/
theorem Spells.exists_cons {part : Phrase} {s : List Char} (h : Spells part s) {j : Json}
    (hpart : part = .value j) (rest : List Char) :
  ∃ c more, skipSeparators (s ++ rest) = c :: more ∧ c ≠ ']' ∧ c ≠ '}'
  := by
  induction h generalizing j rest with
  | null => exact ⟨'n', _, rfl, by decide, by decide⟩
  | trueValue => exact ⟨'t', _, rfl, by decide, by decide⟩
  | falseValue => exact ⟨'f', _, rfl, by decide, by decide⟩
  | @integer n =>
    obtain ⟨c, more, hdigits, hc⟩ := exists_intDigits_cons n
    obtain ⟨hseparator, -, -, harray, hobject⟩ := ne_of_isDigit hc
    use c, more ++ rest
    rw [hdigits, List.cons_append, skipSeparators_cons hseparator]
    exact ⟨rfl, harray, hobject⟩
  | string text => exact ⟨'"', _, rfl, by decide, by decide⟩
  | emptyArray => exact ⟨'[', _, rfl, by decide, by decide⟩
  | array => exact ⟨'[', _, rfl, by decide, by decide⟩
  | emptyObject => exact ⟨'{', _, rfl, by decide, by decide⟩
  | object => exact ⟨'{', _, rfl, by decide, by decide⟩
  | pad ha h hb ih =>
    rw [List.append_assoc, List.append_assoc, ha.skipSeparators]
    apply ih rfl
  | lastItem => cases hpart
  | item => cases hpart
  | lastMember => cases hpart
  | member => cases hpart

/-- The text of items does not begin with the end of an array. -/
theorem Spells.head?_items {items : List Json} {s : List Char} (h : Spells (.items items) s)
    (rest : List Char) :
  (skipSeparators (s ++ rest)).head? ≠ some ']'
  := by
  cases h with
  | lastItem h =>
    obtain ⟨c, more, hcons, hc, -⟩ := h.exists_cons rfl rest
    simpa [hcons] using hc
  | @item j items s others h hrest =>
    obtain ⟨c, more, hcons, hc, -⟩ := h.exists_cons rfl (',' :: others ++ rest)
    rw [List.append_assoc, hcons]
    simpa using hc

/-- The text of members does not begin with the end of an object. -/
theorem Spells.head?_members {members : List (String × Json)} {s : List Char}
    (h : Spells (.members members) s) (rest : List Char) :
  (skipSeparators (s ++ rest)).head? ≠ some '}'
  := by
  cases h with
  | lastMember key ha hb h =>
    simp only [List.append_assoc]
    rw [ha.skipSeparators, printString_append, skipSeparators_cons rfl]
    simp
  | member key ha hb h hrest =>
    simp only [List.append_assoc]
    rw [ha.skipSeparators, printString_append, skipSeparators_cons rfl]
    simp

/-- Separators before a value are skipped. -/
theorem IsGap.readValue {gap : List Char} (h : IsGap gap) (fuel : Nat) (rest : List Char) :
  readValue fuel (gap ++ rest) = Json.readValue fuel rest
  := by
  cases fuel with
  | zero => rfl
  | succ fuel => rw [Json.readValue, Json.readValue, h.skipSeparators]

/-- A member that a brace follows is the last one that is read. -/
theorem readMembers_last {fuel : Nat} {key : String} {value : Json} {a b rest left last : List Char}
    (ha : IsGap a) (hb : IsGap b) (hread : readValue fuel rest = (value, left))
    (hleft : skipSeparators left = '}' :: last) :
  readMembers (fuel + 1) (a ++ printString key ++ b ++ ':' :: rest) = ([(key, value)], last)
  := by
  rw [List.append_assoc, List.append_assoc, readMembers, ha.skipSeparators, printString_append,
    skipSeparators_cons (show isSeparator '"' = false from rfl)]
  simp only [readString_flatMap, hb.skipSeparators,
    skipSeparators_cons (show isSeparator ':' = false from rfl), hread, hleft, member,
    String.ofList_toList]

/-- A member that a comma follows is read before the others. -/
theorem readMembers_more {fuel : Nat} {key : String} {value : Json} {a b rest left more : List Char}
    (ha : IsGap a) (hb : IsGap b) (hread : readValue fuel rest = (value, left))
    (hleft : skipSeparators left = ',' :: more) :
  readMembers (fuel + 1) (a ++ printString key ++ b ++ ':' :: rest) =
    ((key, value) :: (readMembers fuel more).1, (readMembers fuel more).2)
  := by
  rw [List.append_assoc, List.append_assoc, readMembers, ha.skipSeparators, printString_append,
    skipSeparators_cons (show isSeparator '"' = false from rfl)]
  simp only [readString_flatMap, hb.skipSeparators,
    skipSeparators_cons (show isSeparator ':' = false from rfl), hread, hleft, member,
    String.ofList_toList]

theorem isReadFrom_scalar {j : Json} {s : List Char} {c : Char} {more : List Char}
    (hcons : s = c :: more) (hseparator : isSeparator c = false) (harray : c ≠ '[')
    (hobject : c ≠ '{') (hread : ∀ rest, Follows rest → readScalar (s ++ rest) = (j, rest)) :
  IsReadFrom (.value j) s
  := by
  intro fuel hfuel rest hrest
  subst hcons
  obtain ⟨fuel, rfl⟩ : ∃ n, fuel = n + 1 := ⟨fuel - 1, by
    rw [List.length_cons] at hfuel
    omega⟩
  use rest
  rw [← hread rest hrest]
  exact ⟨readValue_scalar fuel hseparator harray hobject (more ++ rest), rfl⟩

/-- What a text spells is read from it. -/
theorem Spells.isReadFrom {part : Phrase} {s : List Char} (h : Spells part s) :
  IsReadFrom part s
  := by
  induction h with
  | null => exact isReadFrom_scalar rfl rfl (by decide) (by decide) fun rest _ => rfl
  | trueValue => exact isReadFrom_scalar rfl rfl (by decide) (by decide) fun rest _ => rfl
  | falseValue => exact isReadFrom_scalar rfl rfl (by decide) (by decide) fun rest _ => rfl
  | @integer n hleast hmost =>
    obtain ⟨c, more, hdigits, hc⟩ := exists_intDigits_cons n
    obtain ⟨hseparator, harray, hobject, -⟩ := ne_of_isDigit hc
    apply isReadFrom_scalar hdigits hseparator harray hobject
    intro rest hrest
    apply readScalar_intDigits hleast hmost hrest
  | string text =>
    apply isReadFrom_scalar rfl rfl (by decide) (by decide)
    intro rest _
    apply readScalar_printString
  | emptyArray =>
    intro fuel hfuel rest _
    obtain ⟨fuel, rfl⟩ : ∃ n, fuel = n + 1 := ⟨fuel - 1, by simp at hfuel; omega⟩
    exact ⟨rest, by simp [readValue, skipSeparators, isSeparator]⟩
  | @array items s h ih =>
    intro fuel hfuel rest _
    rw [List.length_cons, List.length_append, List.length_singleton] at hfuel
    obtain ⟨fuel, rfl⟩ : ∃ n, fuel = n + 1 := ⟨fuel - 1, by omega⟩
    use rest
    rw [List.cons_append, List.append_assoc, List.singleton_append,
      readValue_array fuel (h.head?_items _), ih fuel (by omega)]
    exact ⟨rfl, rfl⟩
  | emptyObject =>
    intro fuel hfuel rest _
    obtain ⟨fuel, rfl⟩ : ∃ n, fuel = n + 1 := ⟨fuel - 1, by simp at hfuel; omega⟩
    exact ⟨rest, by simp [readValue, skipSeparators, isSeparator]⟩
  | @object members s h ih =>
    intro fuel hfuel rest _
    rw [List.length_cons, List.length_append, List.length_singleton] at hfuel
    obtain ⟨fuel, rfl⟩ : ∃ n, fuel = n + 1 := ⟨fuel - 1, by omega⟩
    use rest
    rw [List.cons_append, List.append_assoc, List.singleton_append,
      readValue_object fuel (h.head?_members _), ih fuel (by omega)]
    exact ⟨rfl, rfl⟩
  | @pad j a s b ha h hb ih =>
    intro fuel hfuel rest hrest
    rw [List.length_append, List.length_append] at hfuel
    obtain ⟨left, hread, hleft⟩ := ih fuel (by omega) (b ++ rest) (hb.follows hrest)
    use left
    rw [List.append_assoc, List.append_assoc, ha.readValue, hleft, hb.skipSeparators]
    exact ⟨hread, rfl⟩
  | @lastItem j s h ih =>
    intro fuel hfuel rest
    obtain ⟨fuel, rfl⟩ : ∃ n, fuel = n + 1 := ⟨fuel - 1, by omega⟩
    obtain ⟨left, hread, hleft⟩ := ih fuel (by omega) (']' :: rest) (follows_cons rfl rest)
    rw [skipSeparators_cons rfl] at hleft
    simp only [readItems, hread, hleft]
  | @item j items s others h hrest ih ihrest =>
    intro fuel hfuel rest
    rw [List.length_append, List.length_cons] at hfuel
    obtain ⟨fuel, rfl⟩ : ∃ n, fuel = n + 1 := ⟨fuel - 1, by omega⟩
    obtain ⟨left, hread, hleft⟩ := ih fuel (by omega) (',' :: (others ++ ']' :: rest))
      (follows_cons rfl _)
    rw [skipSeparators_cons rfl] at hleft
    rw [List.append_assoc, List.cons_append]
    simp only [readItems, hread, hleft, ihrest fuel (by omega)]
  | @lastMember key j a b s ha hb h ih =>
    intro fuel hfuel rest
    simp only [List.length_append, List.length_cons] at hfuel
    obtain ⟨fuel, rfl⟩ : ∃ n, fuel = n + 1 := ⟨fuel - 1, by omega⟩
    obtain ⟨left, hread, hleft⟩ := ih fuel (by omega) ('}' :: rest) (follows_cons rfl rest)
    rw [skipSeparators_cons rfl] at hleft
    rw [List.append_assoc _ (':' :: s), List.cons_append]
    apply readMembers_last ha hb hread hleft
  | @member key j members a b s others ha hb h hrest ih ihrest =>
    intro fuel hfuel rest
    simp only [List.length_append, List.length_cons] at hfuel
    obtain ⟨fuel, rfl⟩ : ∃ n, fuel = n + 1 := ⟨fuel - 1, by omega⟩
    obtain ⟨left, hread, hleft⟩ := ih fuel (by omega) (',' :: (others ++ '}' :: rest))
      (follows_cons rfl _)
    have hsplit : a ++ printString key ++ b ++ ':' :: s ++ ',' :: others ++ '}' :: rest =
        a ++ printString key ++ b ++ ':' :: (s ++ ',' :: (others ++ '}' :: rest)) := by
      simp only [List.append_assoc, List.cons_append]
    rw [skipSeparators_cons rfl] at hleft
    rw [hsplit, readMembers_more ha hb hread hleft, ihrest fuel (by omega)]

/-- A text that spells a value denotes it. -/
theorem Spells.read_eq {j : Json} {s : List Char} (h : Spells (.value j) s) :
  read s = (j, true)
  := by
  obtain ⟨left, hread, hleft⟩ := h.isReadFrom (s.length + 1) (Nat.le_succ _) [] follows_nil
  rw [List.append_nil] at hread
  rw [read, hread]
  simp only [hleft]
  rfl

/-! ### Writing -/

mutual

/-- Whether a value consists of truth values, texts, and integers of 64 bits, signed or unsigned. -/
def IsPlain : Json → Prop
  | .null | .bool _ | .string _ => True
  | .number (.integer n) => -0x8000000000000000 ≤ n ∧ n ≤ largestWord
  | .array items => ItemsPlain items
  | .object members => MembersPlain members
  | .number (.decimal _ _) | .invalid | .unnamed _ | .broken => False

/-- Whether all items of an array are plain. -/
def ItemsPlain : List Json → Prop
  | [] => True
  | j :: rest => IsPlain j ∧ ItemsPlain rest

/-- Whether all members of an object are plain. -/
def MembersPlain : List (String × Json) → Prop
  | [] => True
  | (_, j) :: rest => IsPlain j ∧ MembersPlain rest

end

theorem itemsPlain_iff {items : List Json} :
  ItemsPlain items ↔ ∀ j ∈ items, j.IsPlain
  := by
  induction items with
  | nil => simp [ItemsPlain]
  | cons j rest ih => simp [ItemsPlain, ih]

mutual

/-- A plain value is spelled by its text without separators. -/
theorem spells_print (j : Json) (h : j.IsPlain) :
  Spells (.value j) j.print
  := by
  match j, h with
  | .null, _ => exact .null
  | .bool true, _ => exact .trueValue
  | .bool false, _ => exact .falseValue
  | .number (.integer n), h => exact .integer h.1 h.2
  | .string text, _ => exact .string text
  | .array [], _ => exact .emptyArray
  | .array (j :: items), h => exact .array (spells_printItems (j :: items) (by simp) h)
  | .object [], _ => exact .emptyObject
  | .object (m :: members), h => exact .object (spells_printMembers (m :: members) (by simp) h)

theorem spells_printItems (items : List Json) (hne : items ≠ []) (h : ItemsPlain items) :
  Spells (.items items) (printItems items)
  := by
  match items, hne, h with
  | [j], _, h => exact .lastItem (spells_print j h.1)
  | j :: next :: others, _, h =>
    exact .item (spells_print j h.1) (spells_printItems (next :: others) (by simp) h.2)

theorem spells_printMembers (members : List (String × Json)) (hne : members ≠ [])
    (h : MembersPlain members) :
  Spells (.members members) (printMembers members)
  := by
  match members, hne, h with
  | [(key, j)], _, h =>
    have hmember := Spells.lastMember key isGap_nil isGap_nil (spells_print j h.1)
    simpa [printMembers] using hmember
  | (key, j) :: next :: others, _, h =>
    have hmembers := spells_printMembers (next :: others) (by simp) h.2
    have hmember := Spells.member key isGap_nil isGap_nil (spells_print j h.1) hmembers
    simpa [printMembers] using hmember

end

mutual

/-- A plain value is spelled by its text with an item or a member on each line. -/
theorem spells_layOut (j : Json) (h : j.IsPlain) (level : Nat) :
  Spells (.value j) (layOut level j)
  := by
  match j, h with
  | .null, _ => exact .null
  | .bool true, _ =>
    rw [layOut]
    exact .trueValue
  | .bool false, _ =>
    rw [layOut]
    exact .falseValue
  | .number (.integer n), h => exact .integer h.1 h.2
  | .string text, _ => exact .string text
  | .array [], _ => exact .emptyArray
  | .array (j :: items), h =>
    have hitems := spells_layOutItems (j :: items) (by simp) h (level + 1) (isGap_margin level)
    simpa [layOut] using hitems.array
  | .object [], _ => exact .emptyObject
  | .object (m :: members), h =>
    have hmembers := spells_layOutMembers (m :: members) (by simp) h (level + 1)
      (isGap_margin level)
    simpa [layOut] using hmembers.object

theorem spells_layOutItems (items : List Json) (hne : items ≠ []) (h : ItemsPlain items)
    (level : Nat) {gap : List Char} (hgap : IsGap gap) :
  Spells (.items items) (layOutItems level items ++ gap)
  := by
  match items, hne, h with
  | [j], _, h => exact .lastItem (.pad (isGap_margin level) (spells_layOut j h.1 level) hgap)
  | j :: next :: others, _, h =>
    have hitem := Spells.pad (isGap_margin level) (spells_layOut j h.1 level) isGap_nil
    have hitems := spells_layOutItems (next :: others) (by simp) h.2 level hgap
    simpa [layOutItems] using hitem.item hitems

theorem spells_layOutMembers (members : List (String × Json)) (hne : members ≠ [])
    (h : MembersPlain members) (level : Nat) {gap : List Char} (hgap : IsGap gap) :
  Spells (.members members) (layOutMembers level members ++ gap)
  := by
  match members, hne, h with
  | [(key, j)], _, h =>
    have hvalue := Spells.pad isGap_space (spells_layOut j h.1 level) hgap
    have hmember := Spells.lastMember key (isGap_margin level) isGap_nil hvalue
    simpa [layOutMembers] using hmember
  | (key, j) :: next :: others, _, h =>
    have hvalue := Spells.pad isGap_space (spells_layOut j h.1 level) isGap_nil
    have hmembers := spells_layOutMembers (next :: others) (by simp) h.2 level hgap
    have hmember := Spells.member key (isGap_margin level) isGap_nil hvalue hmembers
    simpa [layOutMembers] using hmember

end

/-- A plain value is what its text denotes, with or without separators. -/
theorem read_compact {j : Json} (h : j.IsPlain) :
  read j.compact.toList = (j, true)
  := by
  rw [compact, String.toList_ofList]
  apply (spells_print j h).read_eq

theorem read_pretty {j : Json} (h : j.IsPlain) :
  read j.pretty.toList = (j, true)
  := by
  rw [pretty, String.toList_ofList]
  apply (spells_layOut j h 0).read_eq

end LiveModels.Json
