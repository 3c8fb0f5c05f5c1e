import LiveModels.Proofs.Text.Affix
import LiveModels.Proofs.Text.Number
import LiveModels.Source.Declaration

/-!
# Scanning part by part

A text can be scanned for declarations and for compile errors part by part, if nothing that begins
in one part goes on into the next. This is so for a part that mentions neither an attribute nor a
compile error, and for one that ends with the declaration of a model whose alias mentions neither,
whatever stands before the declaration: a quoted text that has been opened there ends with the quote
before the alias at the latest.
-/

namespace LiveModels

open Text

/-! ### Texts without mentions -/

/-- The word with which every declaration begins. -/
def attributeWord : List Char :=
  "#[model".toList

/-- The word with which every compile error begins. -/
def errorWord : List Char :=
  "compile_error!(".toList

/-- Whether a text mentions neither an attribute nor a compile error. -/
structure IsMute (s : List Char) : Prop where
  no_attribute : ¬ attributeWord <:+: s
  no_error : ¬ errorWord <:+: s

theorem IsMute.mono {s t : List Char} (h : IsMute t) (hst : s <:+: t) :
  IsMute s
  := ⟨fun h' => h.no_attribute (h'.trans hst), fun h' => h.no_error (h'.trans hst)⟩

/-- Whether a text asks for a compile error. -/
def hasError (s : List Char) : Bool :=
  (findCompileError? s).isSome

theorem hasError_cons (c : Char) (s : List Char) :
  hasError (c :: s) = ((readCompileError? (c :: s)).isSome || hasError s)
  := by
  rw [hasError, findCompileError?]
  split
  case h_1 message hmessage => simp [hmessage]
  case h_2 hnone => simp [hnone, hasError]

namespace Declaration

variable {s s' rest : List Char} {d : Declaration} {k : Char}

theorem scan_nil :
  scan [] = []
  := by
  rw [scan]

theorem scan_of_none {c : Char} (h : read? (c :: s) = none) :
  scan (c :: s) = scan s
  := by
  rw [scan]
  split
  case h_1 d after hread =>
    rw [h] at hread
    cases hread
  · rfl

theorem scan_of_some {c : Char} (h : read? (c :: s) = some (d, rest)) :
  scan (c :: s) = d :: scan rest
  := by
  rw [scan]
  split
  case h_1 d' after hread =>
    rw [h] at hread
    cases hread
    rfl
  case h_2 hread =>
    rw [h] at hread
    cases hread

/-! ### The parts of a declaration -/

/-- Reads what follows the annotation: the end of the attribute, and the name of the structure. -/
def readName? (s : List Char) : Option (String × List Char) := do
  let s ← afterWord? [']'] s
  let s ← afterWord? "pub".toList (trimStart s)
  let s ← afterBlank? s
  let s ← afterWord? "struct".toList s
  let s ← afterBlank? s
  let name := s.takeWhile isWordCharacter
  if name.isEmpty then none
  return (String.ofList name, s.dropWhile isWordCharacter)

/-- Reads an alias up to the quote before it. -/
def openAlias? (s : List Char) : Option (List Char) := do
  let s ← afterWord? "alias".toList (trimStart s)
  let s ← afterWord? ['='] (trimStart s)
  afterWord? ['"'] (trimStart s)

/-- Reads the rest of an alias after the quoted text. -/
def closeAlias? (literal : List Char × List Char) : Option (List Char × List Char) :=
  if literal.1.isEmpty then none
  else (afterWord? [')'] (trimStart literal.2)).map fun s => (literal.1, s)

/-- Reads what follows the annotation of a declaration with an alias. -/
def finish? (given : Option (List Char) × List Char) : Option (Declaration × List Char) :=
  (readName? given.2).map fun r =>
    (⟨r.1, given.1.map fun body => String.ofList (unescape body)⟩, r.2)

theorem readAlias?_eq (s : List Char) :
  readAlias? s = ((openAlias? s).bind readLiteral?).bind closeAlias?
  := by
  unfold readAlias? openAlias?
  simp only [Option.bind_eq_bind, Option.bind_assoc]
  apply Option.bind_congr
  intro s₁ _
  apply Option.bind_congr
  intro s₂ _
  apply Option.bind_congr
  intro s₃ _
  apply Option.bind_congr
  rintro ⟨body, s₄⟩ _
  simp only [closeAlias?]
  split
  · rfl
  · cases afterWord? [')'] (trimStart s₄) <;> rfl

theorem read?_eq (s : List Char) :
  read? s = ((afterWord? attributeWord s).bind readAnnotation?).bind finish?
  := by
  unfold read? attributeWord
  simp only [Option.bind_eq_bind, Option.bind_assoc]
  apply Option.bind_congr
  intro s₁ _
  apply Option.bind_congr
  rintro ⟨aliasName, s₂⟩ _
  unfold finish? readName?
  simp only [Option.bind_eq_bind, Option.map_bind, Function.comp_def]
  apply Option.bind_congr
  intro s₃ _
  apply Option.bind_congr
  intro s₄ _
  apply Option.bind_congr
  intro s₅ _
  apply Option.bind_congr
  intro s₆ _
  apply Option.bind_congr
  intro s₇ _
  split <;> rfl

/-! ### Readers that stop -/

/-- Whether every reader but that of quoted texts stops at a character. -/
structure IsStop (k : Char) : Prop where
  not_blank : isBlank k = false
  not_word : isWordCharacter k = false
  not_name : k ∉ "pub".toList ∧ k ∉ "struct".toList ∧ k ∉ [']']
  not_alias : k ∉ "alias".toList ∧ k ∉ ['='] ∧ k ∉ ['"'] ∧ k ∉ [')']

theorem isStop_hash :
  IsStop '#'
  := by
  constructor <;> decide

theorem isStop_semicolon :
  IsStop ';'
  := by
  constructor <;> decide

/-- A reading of a text from which more follows. -/
def extend {α : Type} (rest : List Char) (r : α × List Char) : α × List Char :=
  (r.1, r.2 ++ rest)

theorem readName?_stop (hk : IsStop k) (s rest : List Char) :
  readName? (s ++ k :: rest) = (readName? s).map (extend (k :: rest))
  := by
  unfold readName?
  simp only [Option.bind_eq_bind, afterWord?_stop hk.not_name.2.2, Option.bind_map, Option.map_bind]
  apply Option.bind_congr
  intro s₁ _
  simp only [Function.comp, trimStart_stop hk.not_blank, afterWord?_stop hk.not_name.1,
    Option.bind_map, Option.map_bind]
  apply Option.bind_congr
  intro s₂ _
  simp only [Function.comp, afterBlank?_stop hk.not_blank, Option.bind_map]
  apply Option.bind_congr
  intro s₃ _
  simp only [Function.comp, afterWord?_stop hk.not_name.2.1, Option.bind_map]
  apply Option.bind_congr
  intro s₄ _
  simp only [Function.comp, afterBlank?_stop hk.not_blank, Option.bind_map]
  apply Option.bind_congr
  intro s₅ _
  simp only [takeWhile_stop hk.not_word, dropWhile_stop hk.not_word]
  split <;> rfl

theorem openAlias?_stop (hk : IsStop k) (s rest : List Char) :
  openAlias? (s ++ k :: rest) = (openAlias? s).map (· ++ k :: rest)
  := by
  unfold openAlias?
  simp only [Option.bind_eq_bind, trimStart_stop hk.not_blank, afterWord?_stop hk.not_alias.1,
    Option.bind_map, Option.map_bind]
  apply Option.bind_congr
  intro s₁ _
  simp only [Function.comp, trimStart_stop hk.not_blank, afterWord?_stop hk.not_alias.2.1,
    Option.bind_map, Option.map_bind]
  apply Option.bind_congr
  intro s₂ _
  apply afterWord?_stop hk.not_alias.2.2.1

theorem closeAlias?_stop (hk : IsStop k) (body s rest : List Char) :
  closeAlias? (body, s ++ k :: rest) = (closeAlias? (body, s)).map (extend (k :: rest))
  := by
  simp only [closeAlias?, trimStart_stop hk.not_blank, afterWord?_stop hk.not_alias.2.2.2]
  split
  · rfl
  · simp [Function.comp_def, extend]

theorem finish?_stop (hk : IsStop k) (given : Option (List Char)) (s rest : List Char) :
  finish? (given, s ++ k :: rest) = (finish? (given, s)).map (extend (k :: rest))
  := by
  simp only [finish?, readName?_stop hk]
  simp [Function.comp_def, extend]

/-! ### Quoted texts -/

/-- A backslash is the last character of a text, or another character follows. -/
theorem ne_backslash {c : Char} {s : List Char} (hlast : c = '\\' → s = [] → False)
    (hslash : ∀ c' s', c = '\\' → s = c' :: s' → False) :
  c ≠ '\\'
  := by
  rintro rfl
  cases s with
  | nil => exact hlast rfl rfl
  | cons c' s => exact hslash c' s rfl rfl

theorem readLiteral?_cons {c : Char} (hquote : c ≠ '"') (hslash : c ≠ '\\') (s : List Char) :
  readLiteral? (c :: s) = (readLiteral? s).map fun r => (c :: r.1, r.2)
  := by
  rw [readLiteral?]
  · cases readLiteral? s <;> rfl
  all_goals simp_all

theorem readLiteral?_escaped {c : Char} (h : c ≠ '\n') (s : List Char) :
  readLiteral? ('\\' :: c :: s) = (readLiteral? s).map fun r => ('\\' :: c :: r.1, r.2)
  := by
  rw [readLiteral?, if_neg h]
  cases readLiteral? s <;> rfl

/-- Characters that are neither quotes nor backslashes are read as they stand. -/
theorem readLiteral?_append {w : List Char} (hw : ∀ c ∈ w, c ≠ '"' ∧ c ≠ '\\') (s : List Char) :
  readLiteral? (w ++ s) = (readLiteral? s).map fun r => (w ++ r.1, r.2)
  := by
  induction w with
  | nil => simp
  | cons c w ih =>
    obtain ⟨hquote, hslash⟩ := hw c List.mem_cons_self
    rw [List.cons_append, readLiteral?_cons hquote hslash,
      ih fun c hc => hw c (List.mem_cons_of_mem _ hc)]
    simp [Function.comp_def]

/-- An escaped character is read as a whole. -/
theorem readLiteral?_escapeCharacter (c : Char) (s : List Char) :
  readLiteral? (escapeCharacter c ++ s) =
    (readLiteral? s).map fun r => (escapeCharacter c ++ r.1, r.2)
  := by
  unfold escapeCharacter
  split
  all_goals try exact readLiteral?_escaped (by decide) s
  case h_7 hquote hslash =>
    split
    · apply readLiteral?_append
      simpa using ⟨hquote, hslash⟩
    · have hdigits : ∀ d ∈ '{' :: hexDigits c.toNat ++ ['}'], d ≠ '"' ∧ d ≠ '\\' := by
        intro d hd
        simp only [List.cons_append, List.mem_cons, List.mem_append, List.not_mem_nil,
          or_false] at hd
        rcases hd with rfl | hd | rfl
        · decide
        · have hhex := isLowerHex_of_mem_hexDigits hd
          constructor <;> (rintro rfl; revert hhex; decide)
        · decide
      simp only [List.cons_append, List.nil_append, List.append_assoc] at hdigits ⊢
      rw [readLiteral?_escaped (by decide)]
      have hread := readLiteral?_append hdigits s
      simp only [List.cons_append, List.append_assoc, List.nil_append] at hread
      rw [hread]
      simp [Function.comp_def]

/-- A text that has been escaped is read up to the quote after it. -/
theorem readLiteral?_escape (a s : List Char) :
  readLiteral? (escape a ++ '"' :: s) = some (escape a, s)
  := by
  induction a with
  | nil => simp [escape, readLiteral?]
  | cons c a ih =>
    rw [escape, List.flatMap_cons, ← escape, List.append_assoc, readLiteral?_escapeCharacter, ih]
    rfl

/-- What is left of a quoted text that is open before an alias: it ends with the quote before the
alias at the latest. -/
def Opens (s : List Char) : Prop :=
  (∀ z, readLiteral? (s ++ '=' :: ' ' :: '"' :: z) = none) ∨
    ∃ body y, ∀ z, readLiteral? (s ++ '=' :: ' ' :: '"' :: z) = some (body, y ++ z)

theorem Opens.map {w s' : List Char} (h : Opens s)
    (hread : ∀ z, readLiteral? (s' ++ z) = (readLiteral? (s ++ z)).map fun r => (w ++ r.1, r.2)) :
  Opens s'
  := by
  rcases h with h | ⟨body, y, h⟩
  · apply Or.inl
    intro z
    rw [hread, h]
    rfl
  · apply Or.inr
    use w ++ body, y
    intro z
    rw [hread, h]
    rfl

theorem opens (s : List Char) :
  Opens s
  := by
  have hopen : ∀ z, readLiteral? ('=' :: ' ' :: '"' :: z) = some (['=', ' '], z) := by
    intro z
    rw [readLiteral?_cons (by decide) (by decide), readLiteral?_cons (by decide) (by decide)]
    rfl
  have hother : ∀ {c : Char} {rest : List Char}, (c = '"' → False) →
      (c = '\\' → rest = [] → False) →
      (∀ c' rest', c = '\\' → rest = c' :: rest' → False) → Opens rest → Opens (c :: rest) := by
    intro c rest hquote hlast hslash ih
    have hne := ne_backslash hlast hslash
    apply ih.map (w := [c]) fun z => readLiteral?_cons hquote hne (rest ++ z)
  fun_induction readLiteral? s with
  | case1 => exact .inr ⟨_, [], hopen⟩
  | case2 rest =>
    apply Or.inr
    use [], rest ++ ['=', ' ', '"']
    intro z
    simp [readLiteral?]
  | case3 =>
    apply Or.inr
    use ['\\', '=', ' '], []
    intro z
    rw [List.cons_append, List.nil_append, readLiteral?_escaped (by decide),
      readLiteral?_cons (by decide) (by decide)]
    rfl
  | case4 rest =>
    apply Or.inl
    intro z
    simp [readLiteral?]
  | case5 c rest hc _ _ _ ih =>
    apply ih.map (w := ['\\', c]) fun z => readLiteral?_escaped hc (rest ++ z)
  | case6 c rest hc _ ih =>
    apply ih.map (w := ['\\', c]) fun z => readLiteral?_escaped hc (rest ++ z)
  | case7 c rest hquote hlast hslash _ _ _ ih => apply hother hquote hlast hslash ih
  | case8 c rest hquote hlast hslash _ ih => apply hother hquote hlast hslash ih

/-! ### Readings before a semicolon -/

/-- Whether a reading of a text that goes on with a semicolon does not depend on what comes after
the semicolon. -/
def Settles {α : Type} (f : List Char → Option (α × List Char)) (s : List Char) : Prop :=
  (∀ w, f (s ++ ';' :: w) = none) ∨ ∃ a y, ∀ w, f (s ++ ';' :: w) = some (a, y ++ ';' :: w)

theorem settles_of_stop {α : Type} {f : List Char → Option (α × List Char)}
    (hf : ∀ w, f (s ++ ';' :: w) = (f s).map (extend (';' :: w))) :
  Settles f s
  := by
  cases hs : f s with
  | none =>
    apply Or.inl
    intro w
    rw [hf, hs]
    rfl
  | some r =>
    apply Or.inr
    use r.1, r.2
    intro w
    rw [hf, hs]
    rfl

theorem Settles.bind {α β : Type} {f : List Char → Option (α × List Char)}
    {g : α × List Char → Option (β × List Char)} (h : Settles f s)
    (hg : ∀ a y, Settles (fun x => g (a, x)) y) :
  Settles (fun x => (f x).bind g) s
  := by
  rcases h with h | ⟨a, y, h⟩
  · apply Or.inl
    intro w
    simp [h]
  · rcases hg a y with hnone | ⟨b, y', hsome⟩
    · apply Or.inl
      intro w
      simpa [h] using hnone w
    · apply Or.inr
      use b, y'
      intro w
      simpa [h] using hsome w

/-- What stands between the first character of a declaration and the equals sign before its alias. -/
def aliasWord : List Char :=
  ['[', 'm', 'o', 'd', 'e', 'l', '(', 'a', 'l', 'i', 'a', 's', ' ']

/-- The declaration of a model with an alias, given from the quote before the alias on, without the
character with which it begins. -/
def openedTail (z : List Char) : List Char :=
  aliasWord ++ '=' :: ' ' :: '"' :: z

/-- The declaration of a model with an alias, given from the quote before the alias on. -/
def opened (z : List Char) : List Char :=
  '#' :: openedTail z

theorem opened_append (z w : List Char) :
  opened z ++ w = opened (z ++ w)
  := by
  simp only [opened, openedTail, List.cons_append, List.append_assoc]

theorem settles_finish (given : Option (List Char)) (s : List Char) :
  Settles (fun x => finish? (given, x)) s
  := by
  apply settles_of_stop
  intro w
  apply finish?_stop isStop_semicolon

theorem settles_closeAlias (body s : List Char) :
  Settles (fun x => closeAlias? (body, x)) s
  := by
  apply settles_of_stop
  intro w
  apply closeAlias?_stop isStop_semicolon

/-- A quoted text that is open before a declaration settles. -/
theorem settles_readLiteral (s z : List Char) :
  Settles readLiteral? (s ++ opened z)
  := by
  have hopened : ∀ w, s ++ opened z ++ ';' :: w =
      s ++ '#' :: aliasWord ++ '=' :: ' ' :: '"' :: (z ++ ';' :: w) := by
    intro w
    simp only [opened, openedTail, List.cons_append, List.append_assoc]
  rcases opens (s ++ '#' :: aliasWord) with h | ⟨body, y, h⟩
  · apply Or.inl
    intro w
    rw [hopened, h]
  · apply Or.inr
    use body, y ++ z
    intro w
    rw [hopened, h, List.append_assoc]

theorem settles_readAlias {x : List Char} (hopen : ∀ w, openAlias? (s ++ ';' :: w) = some (x ++ ';' :: w))
    (h : Settles readLiteral? x) :
  Settles readAlias? s
  := by
  have hclosed := h.bind (g := closeAlias?) settles_closeAlias
  simpa only [Settles, readAlias?_eq, hopen, Option.bind_some] using hclosed

theorem settles_annotated_of_alias (h : Settles readAlias? s) :
  Settles readAnnotation? ('(' :: s)
  := by
  rcases h with h | ⟨body, y, h⟩
  · apply Or.inl
    intro w
    rw [List.cons_append, readAnnotation?, h]
    rfl
  · apply Or.inr
    use some body, y
    intro w
    rw [List.cons_append, readAnnotation?, h]
    rfl

theorem settles_read_of_annotated {x : List Char}
    (hword : ∀ w, afterWord? attributeWord (s ++ ';' :: w) = some (x ++ ';' :: w))
    (h : Settles readAnnotation? x) :
  Settles read? s
  := by
  have hfinished := h.bind (g := finish?) settles_finish
  simpa only [Settles, read?_eq, hword, Option.bind_some] using hfinished

/-- An annotation settles if it begins before a declaration. -/
theorem settles_annotated (s z : List Char) :
  Settles readAnnotation? (s ++ opened z)
  := by
  have hplain : ∀ {c x}, c ≠ '(' → s ++ opened z = c :: x →
      Settles readAnnotation? (s ++ opened z) := by
    intro c x hc hx
    apply Or.inr
    use none, s ++ opened z
    intro w
    rw [hx, List.cons_append, readAnnotation?]
    rintro rest heq
    exact hc (List.cons.inj heq).1
  cases s with
  | nil => apply hplain (c := '#') (by decide) rfl
  | cons c x =>
    by_cases hc : c = '('
    · subst hc
      rw [List.cons_append]
      apply settles_annotated_of_alias
      have hopened : ∀ w, openAlias? (x ++ opened z ++ ';' :: w) =
          (openAlias? x).map (· ++ opened z ++ ';' :: w) := by
        intro w
        simp only [List.append_assoc, opened_append]
        apply openAlias?_stop isStop_hash
      cases hx : openAlias? x with
      | none =>
        apply Or.inl
        intro w
        rw [readAlias?_eq, hopened, hx]
        rfl
      | some y =>
        apply settles_readAlias _ (settles_readLiteral y z)
        intro w
        rw [hopened, hx]
        rfl
    · apply hplain hc rfl

/-- A declaration settles if it begins before another one. -/
theorem settles_read (c : Char) (s z : List Char) :
  Settles read? (c :: s ++ opened z)
  := by
  have hword : ∀ w, afterWord? attributeWord (c :: s ++ opened z ++ ';' :: w) =
      (afterWord? attributeWord (c :: s)).map (· ++ opened z ++ ';' :: w) := by
    intro w
    have htail : '#' ∉ "[model".toList := by decide
    have hattribute : attributeWord = '#' :: "[model".toList := rfl
    simp only [List.append_assoc, opened_append]
    rw [hattribute, List.cons_append]
    simp only [afterWord?]
    split
    · rw [opened, afterWord?_stop htail]
    · rfl
  cases hs : afterWord? attributeWord (c :: s) with
  | none =>
    apply Or.inl
    intro w
    rw [read?_eq, hword, hs]
    rfl
  | some x =>
    apply settles_read_of_annotated _ (settles_annotated x z)
    intro w
    rw [hword, hs]
    rfl

/-- A declaration with an alias settles. -/
theorem settles_read_opened (a z : List Char) :
  Settles read? (opened (escape a ++ '"' :: z))
  := by
  have hliteral : Settles readLiteral? (escape a ++ '"' :: z) := by
    apply Or.inr
    use escape a, z
    intro w
    rw [List.append_assoc, List.cons_append, readLiteral?_escape]
  have halias : Settles readAlias? ("alias ".toList ++ '=' :: ' ' :: '"' :: (escape a ++ '"' :: z)) :=
    settles_readAlias (fun _ => rfl) hliteral
  apply settles_read_of_annotated _ (settles_annotated_of_alias halias)
  intro w
  rfl

theorem Settles.read?_append (h : Settles read? s) (w rest : List Char) :
  read? (s ++ ';' :: w ++ rest) = (read? (s ++ ';' :: w)).map (extend rest)
  := by
  rw [List.append_assoc, List.cons_append]
  rcases h with h | ⟨d, y, h⟩
  · rw [h, h]
    rfl
  · rw [h, h]
    simp [extend]

/-! ### What a reading leaves -/

theorem suffix_of_readLiteral? {body : List Char} (h : readLiteral? s = some (body, rest)) :
  rest <:+ s
  := by
  fun_induction readLiteral? s generalizing body with
  | case1 => cases h
  | case2 rest' =>
    cases h
    apply List.suffix_cons
  | case3 => cases h
  | case4 => cases h
  | case5 c rest' _ body' last hread ih =>
    cases h
    apply (ih hread).trans
    apply (List.suffix_cons c rest').trans (List.suffix_cons _ _)
  | case6 => cases h
  | case7 c rest' _ _ _ body' last hread ih =>
    cases h
    apply (ih hread).trans (List.suffix_cons c rest')
  | case8 => cases h

theorem suffix_of_readAlias? {body : List Char} (h : readAlias? s = some (body, rest)) :
  rest <:+ s
  := by
  simp only [readAlias?, Option.bind_eq_bind, Option.bind_eq_some_iff] at h
  obtain ⟨s₁, h₁, s₂, h₂, s₃, h₃, ⟨b, s₄⟩, h₄, h⟩ := h
  split at h
  · simp at h
  · simp only [Option.pure_def, Option.bind_eq_some_iff, Option.some.injEq, Prod.mk.injEq] at h
    obtain ⟨s₅, h₅, -, rfl⟩ := h
    apply (suffix_of_afterWord? h₅).trans
    apply ((trimStart_suffix s₄).trans (suffix_of_readLiteral? h₄)).trans
    apply ((suffix_of_afterWord? h₃).trans (trimStart_suffix s₂)).trans
    apply ((suffix_of_afterWord? h₂).trans (trimStart_suffix s₁)).trans
    apply (suffix_of_afterWord? h₁).trans (trimStart_suffix s)

theorem suffix_of_readAnnotation? {given : Option (List Char)}
    (h : readAnnotation? s = some (given, rest)) :
  rest <:+ s
  := by
  unfold readAnnotation? at h
  split at h
  case h_1 s' =>
    obtain ⟨⟨body, last⟩, hread, heq⟩ := Option.map_eq_some_iff.mp h
    cases heq
    apply (suffix_of_readAlias? hread).trans (List.suffix_cons _ _)
  · cases h
    apply List.suffix_rfl

/-- What follows a declaration is the end of the text that begins with it. -/
theorem suffix_of_read? (h : read? s = some (d, rest)) :
  rest <:+ s
  := by
  simp only [read?, Option.bind_eq_bind, Option.bind_eq_some_iff] at h
  obtain ⟨s₁, h₁, ⟨aliasName, s₂⟩, h₂, s₃, h₃, s₄, h₄, s₅, h₅, s₆, h₆, s₇, h₇, h⟩ := h
  split at h
  · simp at h
  · simp only [Option.pure_def, Option.some.injEq, Prod.mk.injEq] at h
    rw [← h.2]
    apply (List.dropWhile_suffix _).trans
    apply (suffix_of_afterBlank? h₇).trans
    apply (suffix_of_afterWord? h₆).trans
    apply (suffix_of_afterBlank? h₅).trans
    apply ((suffix_of_afterWord? h₄).trans (trimStart_suffix s₃)).trans
    apply (suffix_of_afterWord? h₃).trans
    apply (suffix_of_readAnnotation? h₂).trans
    apply suffix_of_afterWord? h₁

/-! ### Compile errors -/

/-- Reads a compile error up to its message. -/
def openError? (s : List Char) : Option (List Char) := do
  let s ← afterWord? errorWord s
  afterWord? ['"'] (trimStart s)

/-- Reads a compile error from its message on. -/
def closeError? (s : List Char) : Option (List Char) := do
  let s ← afterWord? ['"'] (s.dropWhile (· ≠ '"'))
  afterWord? [')'] (trimStart s)

theorem isSome_readCompileError? (s : List Char) :
  (readCompileError? s).isSome = ((openError? s).bind closeError?).isSome
  := by
  unfold readCompileError? openError? closeError? errorWord
  simp only [Option.bind_eq_bind, Option.bind_assoc]
  cases afterWord? "compile_error!(".toList s with
  | none => rfl
  | some s₁ =>
    simp only [Option.bind_some]
    cases afterWord? ['"'] (trimStart s₁) with
    | none => rfl
    | some s₂ =>
      simp only [Option.bind_some]
      cases afterWord? ['"'] (s₂.dropWhile (· ≠ '"')) with
      | none => rfl
      | some s₃ =>
        simp only [Option.bind_some]
        cases afterWord? [')'] (trimStart s₃) <;> rfl

theorem openError?_opened (s z w : List Char) :
  openError? (s ++ opened z ++ ';' :: w) = (openError? s).map (· ++ opened z ++ ';' :: w)
  := by
  have hword : '#' ∉ errorWord := by decide
  have hquote : '#' ∉ ['"'] := by decide
  unfold openError?
  simp only [Option.bind_eq_bind, List.append_assoc, opened_append]
  rw [opened, afterWord?_stop hword, Option.bind_map, Option.map_bind]
  apply Option.bind_congr
  intro s₁ _
  rw [Function.comp_apply, trimStart_stop isStop_hash.not_blank, afterWord?_stop hquote]
  rfl

theorem closeError?_append {s : List Char} (hs : '"' ∈ s) (w : List Char) :
  closeError? (s ++ ';' :: w) = (closeError? s).map (· ++ ';' :: w)
  := by
  have hdrop : (s ++ ';' :: w).dropWhile (· ≠ '"') = s.dropWhile (· ≠ '"') ++ ';' :: w := by
    induction s with
    | nil => cases hs
    | cons c s ih =>
      by_cases hc : c = '"'
      · simp [hc]
      · have hmem : '"' ∈ s := (List.mem_cons.mp hs).resolve_left (Ne.symm hc)
        simpa [hc] using ih hmem
  have hquote : ';' ∉ ['"'] := by decide
  have hclose : ';' ∉ [')'] := by decide
  unfold closeError?
  simp only [Option.bind_eq_bind]
  rw [hdrop, afterWord?_stop hquote, Option.bind_map, Option.map_bind]
  apply Option.bind_congr
  intro s₁ _
  rw [Function.comp_apply, trimStart_stop isStop_semicolon.not_blank, afterWord?_stop hclose]
  rfl

/-- Whether a compile error begins before a declaration with an alias does not depend on what comes
after the declaration. -/
theorem isSome_readCompileError?_opened (s z w : List Char) :
  (readCompileError? (s ++ opened z ++ ';' :: w)).isSome =
    ((openError? s).bind fun y => closeError? (y ++ opened z)).isSome
  := by
  rw [isSome_readCompileError?, openError?_opened]
  cases openError? s with
  | none => rfl
  | some y =>
    have hquote : '"' ∈ y ++ opened z := by
      simp only [opened, openedTail, List.mem_append, List.mem_cons, true_or, or_true]
    simp only [Option.map_some, Option.bind_some]
    rw [closeError?_append hquote, Option.isSome_map]

/-! ### Parts -/

/-- Whether nothing that begins with a text goes on into what follows the text. -/
structure Ends (s : List Char) : Prop where
  read : ∀ rest, read? (s ++ rest) = (read? s).map (extend rest)
  error : ∀ rest, (readCompileError? (s ++ rest)).isSome = (readCompileError? s).isSome

/-- Whether nothing that begins in a part of a text goes on into what follows. -/
def Closed (s : List Char) : Prop :=
  ∀ y, y ≠ [] → y <:+ s → Ends y

theorem Closed.suffix {y : List Char} (h : Closed s) (hy : y <:+ s) :
  Closed y
  := fun x hx hxy => h x hx (hxy.trans hy)

/-- A text is scanned part by part if no reading that begins in the first part goes on after it. -/
theorem scan_append
    (h : ∀ y, y ≠ [] → y <:+ s → read? (y ++ rest) = (read? y).map (extend rest)) :
  scan (s ++ rest) = scan s ++ scan rest
  := by
  induction hlen : s.length using Nat.strong_induction_on generalizing s with
  | _ n ih =>
    cases s with
    | nil => simp [scan_nil]
    | cons c s =>
      have hread := h (c :: s) (by simp) List.suffix_rfl
      rw [List.cons_append] at hread
      cases hs : read? (c :: s) with
      | none =>
        rw [hs] at hread
        rw [List.cons_append, scan_of_none hread, scan_of_none hs]
        apply ih s.length (by simp [← hlen]) _ rfl
        intro y hy hsuffix
        apply h y hy (hsuffix.trans (List.suffix_cons c s))
      | some r =>
        obtain ⟨d, x⟩ := r
        rw [hs] at hread
        rw [List.cons_append, scan_of_some hread, scan_of_some hs, List.cons_append]
        have hlength := length_of_read? hs
        have hx := ih x.length (hlen ▸ hlength) (fun y hy hsuffix =>
          h y hy (hsuffix.trans (suffix_of_read? hs))) rfl
        exact congrArg (d :: ·) hx

theorem Closed.scan_append (h : Closed s) (rest : List Char) :
  scan (s ++ rest) = scan s ++ scan rest
  := Declaration.scan_append fun y hy hsuffix => (h y hy hsuffix).read rest

theorem Closed.hasError_append (h : Closed s) (rest : List Char) :
  hasError (s ++ rest) = (hasError s || hasError rest)
  := by
  induction s with
  | nil => rfl
  | cons c s ih =>
    have herror := (h (c :: s) (by simp) List.suffix_rfl).error rest
    rw [List.cons_append] at herror ⊢
    rw [hasError_cons, hasError_cons, herror, ih (h.suffix (List.suffix_cons c s)), Bool.or_assoc]

/-! ### Mute parts -/

/-- Nothing begins on a line that mentions neither an attribute nor a compile error. -/
theorem read?_eq_none (h : IsMute s) (rest : List Char) :
  read? (s ++ '\n' :: rest) = none ∧ readCompileError? (s ++ '\n' :: rest) = none
  := by
  have hattribute : '\n' ∉ attributeWord := by decide
  have herror : '\n' ∉ errorWord := by decide
  constructor
  · rw [read?_eq, afterWord?_stop hattribute, afterWord?_eq_none h.no_attribute]
    rfl
  · rw [← Option.not_isSome_iff_eq_none, isSome_readCompileError?]
    unfold openError?
    simp [afterWord?_stop herror, afterWord?_eq_none h.no_error]

theorem ends_of_isMute (h : IsMute s) :
  Ends (s ++ ['\n'])
  := by
  obtain ⟨hread, herror⟩ := read?_eq_none h []
  constructor
  · intro rest
    rw [List.append_assoc, List.singleton_append, (read?_eq_none h rest).1, hread]
    rfl
  · intro rest
    rw [List.append_assoc, List.singleton_append, (read?_eq_none h rest).2, herror]

theorem closed_of_isMute (h : IsMute s) :
  Closed (s ++ ['\n'])
  := by
  intro y hy hsuffix
  rcases List.suffix_concat_iff.mp hsuffix with rfl | ⟨x, rfl, hx⟩
  · exact absurd rfl hy
  · apply ends_of_isMute (h.mono hx.isInfix)

/-- A text that mentions neither an attribute nor a compile error declares nothing. -/
theorem scan_of_isMute (h : IsMute s) :
  scan (s ++ ['\n']) = [] ∧ hasError (s ++ ['\n']) = false
  := by
  induction s with
  | nil =>
    obtain ⟨hread, herror⟩ := read?_eq_none h []
    rw [List.nil_append] at hread herror ⊢
    rw [scan_of_none hread, hasError_cons, herror]
    exact ⟨scan_nil, rfl⟩
  | cons c s ih =>
    obtain ⟨hread, herror⟩ := read?_eq_none h []
    rw [List.cons_append] at hread herror ⊢
    rw [scan_of_none hread, hasError_cons, herror]
    apply ih (h.mono (List.suffix_cons c s).isInfix)

/-! ### Parts with declarations -/

theorem ends_opened (x a z : List Char) :
  Ends (x ++ opened (escape a ++ '"' :: z) ++ [';', '\n'])
  := by
  constructor
  · intro rest
    apply Settles.read?_append
    cases x with
    | nil => apply settles_read_opened
    | cons c x => apply settles_read
  · intro rest
    rw [List.append_assoc, List.cons_append, isSome_readCompileError?_opened,
      isSome_readCompileError?_opened]

/-- A part that ends with the declaration of a model is closed, if the declaration mentions neither
an attribute nor a compile error after its first character. -/
theorem closed_opened {x a z : List Char} (h : IsMute (openedTail (escape a ++ '"' :: z) ++ [';'])) :
  Closed (x ++ opened (escape a ++ '"' :: z) ++ [';', '\n'])
  := by
  intro y hy hsuffix
  have hend : opened (escape a ++ '"' :: z) ++ [';', '\n'] <:+
      x ++ opened (escape a ++ '"' :: z) ++ [';', '\n'] := by
    rw [List.append_assoc]
    apply List.suffix_append
  rcases List.suffix_or_suffix_of_suffix hsuffix hend with hin | ⟨x', rfl⟩
  · rw [opened, List.cons_append] at hin
    rcases List.suffix_cons_iff.mp hin with rfl | hin
    · apply ends_opened []
    · have hmute := closed_of_isMute h
      rw [List.append_assoc] at hmute
      apply hmute y hy hin
  · rw [← List.append_assoc]
    apply ends_opened

end Declaration

end LiveModels
