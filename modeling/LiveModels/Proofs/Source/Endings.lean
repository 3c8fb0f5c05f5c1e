import LiveModels.Proofs.Source.Declared
import Mathlib.Data.List.TakeWhile

/-!
# Line ends of scanned text

Bundling takes the carriage returns before the line feeds of a text away, and ends its last line.
Both texts differ in white space alone, over which every reader goes in the same way, except for the
reader of a quoted alias. So both declare the same models if every quoted alias is closed, and has no
carriage return before a line feed.
-/

namespace LiveModels

open Text

/-! ### Copies -/

/-- A text without some of the carriage returns before its line feeds, and with more white space at
its end. -/
inductive Copies : List Char → List Char → Prop
  | blank {t : List Char} (h : ∀ c ∈ t, isBlank c = true) : Copies [] t
  | cons {s t : List Char} (c : Char) (h : Copies s t) : Copies (c :: s) (c :: t)
  | feed {s t : List Char} (h : Copies s t) : Copies ('\r' :: '\n' :: s) ('\n' :: t)

namespace Copies

variable {s t word : List Char}

theorem append (h : Copies s t) (front : List Char) :
  Copies (front ++ s) (front ++ t)
  := by
  induction front with
  | nil => apply h
  | cons c front ih => apply cons c ih

/-- The lines of a text, each with a line feed at its end. -/
theorem joinLines_lines (s : List Char) :
  Copies s (joinLines (lines s) ++ ['\n'])
  := by
  induction hlength : s.length using Nat.strong_induction_on generalizing s with
  | _ n ih =>
    by_cases hs : '\n' ∈ s
    · obtain ⟨line, rest, rfl, hline⟩ := List.eq_append_cons_of_mem hs
      have hrest : Copies rest (joinLines (lines rest) ++ ['\n']) := by
        apply ih rest.length _ rest rfl
        simp only [← hlength, List.length_append, List.length_cons]
        omega
      rw [lines_append_feed, cut_of_not_mem hline, List.singleton_append, joinLines_cons,
        List.append_assoc, List.cons_append, chomp]
      split
      case isTrue hlast =>
        have hchomp : line = line.dropLast ++ ['\r'] := (List.dropLast_append_getLast? _ hlast).symm
        rw [hchomp, List.dropLast_concat, List.append_assoc]
        apply hrest.feed.append
      · apply (hrest.cons '\n').append
    · rw [lines, pieces_of_not_mem hs]
      cases s with
      | nil => apply blank (List.all_eq_true.mp rfl)
      | cons c s =>
        have hend := (blank (t := ['\n', '\n']) (List.all_eq_true.mp rfl)).append (c :: s)
        rw [List.append_nil] at hend
        simpa [joinLines] using hend

/-- What a copy ends with is a copy of what the text ends with. -/
theorem exists_suffix (h : Copies s t) {y : List Char} (hy : y <:+ t) :
  ∃ x, x <:+ s ∧ Copies x y
  := by
  induction h with
  | blank h => exact ⟨[], List.nil_suffix, blank fun c hc => h c (hy.subset hc)⟩
  | @cons s t c h ih =>
    rcases List.suffix_cons_iff.mp hy with rfl | hy
    · exact ⟨c :: s, List.suffix_rfl, h.cons c⟩
    · obtain ⟨x, hx, hcopies⟩ := ih hy
      exact ⟨x, hx.trans (List.suffix_cons c s), hcopies⟩
  | @feed s t h ih =>
    rcases List.suffix_cons_iff.mp hy with rfl | hy
    · exact ⟨'\r' :: '\n' :: s, List.suffix_rfl, h.feed⟩
    · obtain ⟨x, hx, hcopies⟩ := ih hy
      exact ⟨x, hx.trans ((List.suffix_cons '\n' s).trans (List.suffix_cons _ _)), hcopies⟩

/-! ### Readers of words -/

/-- A word without white space is read from a copy as it is read from the text. -/
theorem afterWord? (h : Copies s t) (hword : word.any isBlank = false) :
  Option.Rel Copies (Text.afterWord? word s) (Text.afterWord? word t)
  := by
  induction word generalizing s t with
  | nil => exact .some h
  | cons w word ih =>
    rw [List.any_cons, Bool.or_eq_false_iff] at hword
    have hne : ∀ {c : Char} (rest : List Char), isBlank c = true →
        Text.afterWord? (w :: word) (c :: rest) = none := by
      intro c rest hc
      rw [Text.afterWord?, if_neg]
      rintro rfl
      rw [hword.1] at hc
      cases hc
    cases h with
    | blank hblank =>
      cases t with
      | nil => exact .none
      | cons c t =>
        rw [hne t (hblank c List.mem_cons_self)]
        exact .none
    | cons c h =>
      simp only [Text.afterWord?]
      split
      · apply ih h hword.2
      · exact .none
    | feed h =>
      rw [hne _ (by decide), hne _ (by decide)]
      exact .none

theorem trimStart (h : Copies s t) :
  Copies (Text.trimStart s) (Text.trimStart t)
  := by
  induction h with
  | @blank t h =>
    have hnil : Text.trimStart t = [] := List.dropWhile_eq_nil_iff.mpr h
    rw [hnil]
    apply blank (List.forall_mem_nil _)
  | @cons s t c h ih =>
    by_cases hc : isBlank c = true
    · simpa [Text.trimStart, hc] using ih
    · simpa [Text.trimStart, hc] using h.cons c
  | feed h ih =>
    have hblank : isBlank '\r' = true ∧ isBlank '\n' = true := by decide
    simpa [Text.trimStart, hblank] using ih

/-- What is read after white space is read from a copy as from the text, if it is not empty. -/
theorem bind_afterBlank? {α : Type} {r : α → α → Prop} {f : List Char → Option α} (h : Copies s t)
    (hnil : f [] = none) (hf : ∀ {s t}, Copies s t → Option.Rel r (f s) (f t)) :
  Option.Rel r ((afterBlank? s).bind f) ((afterBlank? t).bind f)
  := by
  cases h with
  | blank h =>
    cases t with
    | nil => exact .none
    | cons c t =>
      have htrim : Text.trimStart t = [] :=
        List.dropWhile_eq_nil_iff.mpr fun d hd => h d (List.mem_cons_of_mem _ hd)
      rw [afterBlank?, afterBlank?, if_pos (h c List.mem_cons_self), Option.bind_some, htrim, hnil]
      exact .none
  | cons c h =>
    simp only [afterBlank?]
    split
    · apply hf h.trimStart
    · exact .none
  | @feed s t h =>
    have hreturn : afterBlank? ('\r' :: '\n' :: s) = some (Text.trimStart s) := rfl
    have hfeed : afterBlank? ('\n' :: t) = some (Text.trimStart t) := rfl
    rw [hreturn, hfeed]
    apply hf h.trimStart

/-- Characters that are not white space are taken from a copy as from the text. -/
theorem takeWhile {p : Char → Bool} (h : Copies s t) (hp : ∀ c, isBlank c = true → p c = false) :
  s.takeWhile p = t.takeWhile p ∧ Copies (s.dropWhile p) (t.dropWhile p)
  := by
  induction h with
  | @blank t h =>
    cases t with
    | nil => exact ⟨rfl, blank h⟩
    | cons c t =>
      have hc := hp c (h c List.mem_cons_self)
      rw [List.takeWhile_cons_of_neg (by simp [hc]), List.dropWhile_cons_of_neg (by simp [hc])]
      exact ⟨rfl, blank h⟩
  | cons c h ih =>
    simp only [List.takeWhile_cons, List.dropWhile_cons]
    split
    · exact ⟨congrArg _ ih.1, ih.2⟩
    · exact ⟨rfl, h.cons c⟩
  | feed h ih =>
    have hreturn := hp '\r' (by decide)
    have hfeed := hp '\n' (by decide)
    simpa [hreturn, hfeed] using h.feed

/-! ### Quoted texts -/

/-- A quoted text without a carriage return before a line feed is read from a copy as from the
text. -/
theorem readLiteral? (h : Copies s t) {body rest : List Char}
    (hread : Declaration.readLiteral? s = some (body, rest)) (hbody : ¬ ['\r', '\n'] <:+: body) :
  ∃ rest', Declaration.readLiteral? t = some (body, rest') ∧ Copies rest rest'
  := by
  have hfeed : ∀ {s body rest : List Char},
      Declaration.readLiteral? ('\n' :: s) = some (body, rest) → ∃ body', body = '\n' :: body' := by
    intro s body rest hread
    rw [Declaration.readLiteral?_cons (by decide) (by decide), Option.map_eq_some_iff] at hread
    obtain ⟨⟨body', last⟩, -, heq⟩ := hread
    cases heq
    use body'
  fun_induction Declaration.readLiteral? s generalizing t body with
  | case1 => cases hread
  | case2 s =>
    cases hread
    cases h with
    | cons _ h => exact ⟨_, rfl, h⟩
  | case3 => cases hread
  | case4 => cases hread
  | case5 c s hc body' last hlast ih =>
    cases hread
    cases h with
    | cons _ h =>
      cases h with
      | cons _ h =>
        obtain ⟨rest', hrest, hcopies⟩ := ih h hlast fun hin =>
          hbody (hin.trans ((List.suffix_cons c body').trans (List.suffix_cons _ _)).isInfix)
        rw [Declaration.readLiteral?_escaped hc, hrest]
        exact ⟨rest', rfl, hcopies⟩
      | feed h =>
        obtain ⟨body'', rfl⟩ := hfeed hlast
        exact absurd ⟨['\\'], body'', rfl⟩ hbody
  | case6 => cases hread
  | case7 c s hquote hlast' hslash body' last hlast ih =>
    cases hread
    cases h with
    | @cons _ t _ h =>
      obtain ⟨rest', hrest, hcopies⟩ := ih h hlast fun hin =>
        hbody (hin.trans (List.suffix_cons c body').isInfix)
      rw [Declaration.readLiteral?_cons hquote (Declaration.ne_backslash hlast' hslash), hrest]
      exact ⟨rest', rfl, hcopies⟩
    | feed h =>
      obtain ⟨body'', rfl⟩ := hfeed hlast
      exact absurd ⟨[], body'', rfl⟩ hbody
  | case8 => cases hread

end Copies

namespace Declaration

variable {s t : List Char}

/-! ### Quoted aliases -/

/-- The text after the quote before the alias of the attribute with which a text begins. -/
def quoted? (s : List Char) : Option (List Char) :=
  ((afterWord? attributeWord s).bind (afterWord? ['('])).bind openAlias?

/-- Whether every alias that is opened in a text is closed there, and none has a carriage return
before a line feed. -/
def ClosesAliases (s : List Char) : Prop :=
  ∀ y, y <:+ s → ∀ w ∈ quoted? y, ∃ r ∈ readLiteral? w, ¬ ['\r', '\n'] <:+: r.1

instance (s : List Char) : Decidable (ClosesAliases s) :=
  decidable_of_iff (∀ y ∈ s.tails, ∀ w ∈ quoted? y, ∃ r ∈ readLiteral? w, ¬ ['\r', '\n'] <:+: r.1)
    (by simp only [ClosesAliases, List.mem_tails])

theorem ClosesAliases.suffix (h : ClosesAliases s) {y : List Char} (hy : y <:+ s) :
  ClosesAliases y
  := fun x hx => h x (hx.trans hy)

theorem rel_bind {α β γ δ : Type} {q : α → β → Prop} {r : γ → δ → Prop} {x : Option α} {y : Option β}
    {f : α → Option γ} {g : β → Option δ} (h : Option.Rel q x y)
    (hf : ∀ a b, x = some a → q a b → Option.Rel r (f a) (g b)) :
  Option.Rel r (x.bind f) (y.bind g)
  := by
  cases h with
  | some h => apply hf _ _ rfl h
  | none => exact .none

theorem openAlias?_copies (h : Copies s t) :
  Option.Rel Copies (openAlias? s) (openAlias? t)
  := by
  unfold openAlias?
  simp only [Option.bind_eq_bind]
  apply rel_bind (h.trimStart.afterWord? (by decide))
  intro s t _ h
  apply rel_bind (h.trimStart.afterWord? (by decide))
  intro s t _ h
  apply h.trimStart.afterWord? (by decide)

theorem quoted?_copies (h : Copies s t) :
  Option.Rel Copies (quoted? s) (quoted? t)
  := by
  apply rel_bind
  · apply rel_bind (h.afterWord? (by decide))
    intro s t _ h
    apply h.afterWord? (by decide)
  · intro s t _ h
    apply openAlias?_copies h

/-- The aliases of a copy are closed as those of the text are. -/
theorem ClosesAliases.copies (hs : ClosesAliases s) (h : Copies s t) :
  ClosesAliases t
  := by
  intro y hy w hw
  obtain ⟨x, hx, hcopies⟩ := h.exists_suffix hy
  have hquoted := quoted?_copies hcopies
  rw [hw] at hquoted
  generalize hv : quoted? x = v at hquoted
  cases hquoted with
  | some hcopies =>
    obtain ⟨⟨body, rest⟩, hread, hbody⟩ := hs x hx _ hv
    obtain ⟨rest', hrest, -⟩ := hcopies.readLiteral? hread hbody
    exact ⟨(body, rest'), hrest, hbody⟩

/-! ### Declarations -/

/-- Whether two readings give the same, and the second one leaves a copy of what the first one
leaves. -/
def LeavesCopy {α : Type} (r r' : α × List Char) : Prop :=
  r.1 = r'.1 ∧ Copies r.2 r'.2

theorem LeavesCopy.map {α β : Type} {x y : Option (α × List Char)} (h : Option.Rel LeavesCopy x y)
    (f : α → β) :
  Option.Rel LeavesCopy (x.map fun r => (f r.1, r.2)) (y.map fun r => (f r.1, r.2))
  := by
  cases h with
  | some h => exact .some ⟨congrArg f h.1, h.2⟩
  | none => exact .none

theorem readName?_copies (h : Copies s t) :
  Option.Rel LeavesCopy (readName? s) (readName? t)
  := by
  unfold readName?
  simp only [Option.bind_eq_bind]
  apply rel_bind (h.afterWord? (by decide))
  intro s t _ h
  apply rel_bind (h.trimStart.afterWord? (by decide))
  intro s t _ h
  apply h.bind_afterBlank? rfl
  intro s t h
  apply rel_bind (h.afterWord? (by decide))
  intro s t _ h
  apply h.bind_afterBlank? rfl
  intro s t h
  have hblank : ∀ c, isBlank c = true → isWordCharacter c = false := by
    intro c hc
    rw [← Bool.not_eq_true]
    intro hword
    rw [isBlank_of_isWordCharacter hword] at hc
    cases hc
  obtain ⟨htake, hdrop⟩ := h.takeWhile hblank
  simp only [htake]
  split
  · exact .none
  · exact .some ⟨rfl, hdrop⟩

theorem closeAlias?_copies (body : List Char) (h : Copies s t) :
  Option.Rel LeavesCopy (closeAlias? (body, s)) (closeAlias? (body, t))
  := by
  have hclose : Option.Rel Copies (afterWord? [')'] (trimStart s)) (afterWord? [')'] (trimStart t)) :=
    h.trimStart.afterWord? (by decide)
  unfold closeAlias?
  split
  · exact .none
  · revert hclose
    generalize afterWord? [')'] (trimStart s) = x, afterWord? [')'] (trimStart t) = y
    rintro (h | _)
    · exact .some ⟨rfl, h⟩
    · exact .none

theorem finish?_copies {given : Option (List Char)} (h : Copies s t) :
  Option.Rel LeavesCopy (finish? (given, s)) (finish? (given, t))
  := by
  apply LeavesCopy.map (readName?_copies h) fun name =>
    Declaration.mk name (given.map fun body => String.ofList (unescape body))

theorem readAnnotation?_of_ne {c : Char} (h : c ≠ '(') (s : List Char) :
  readAnnotation? (c :: s) = some (none, c :: s)
  := by
  rw [readAnnotation?]
  rintro rest heq
  exact h (List.cons.inj heq).1

/-- An annotation whose alias is closed is read from a copy as from the text. -/
theorem readAnnotation?_copies (h : Copies s t)
    (hs : ∀ w ∈ (afterWord? ['('] s).bind openAlias?,
      ∃ r ∈ readLiteral? w, ¬ ['\r', '\n'] <:+: r.1) :
  Option.Rel LeavesCopy (readAnnotation? s) (readAnnotation? t)
  := by
  cases h with
  | @blank t h =>
    cases t with
    | nil => exact .some ⟨rfl, .blank h⟩
    | cons c t =>
      have hc : c ≠ '(' := by
        rintro rfl
        cases h '(' List.mem_cons_self
      rw [readAnnotation?_of_ne hc]
      exact .some ⟨rfl, .blank h⟩
  | @cons s t c h =>
    by_cases hc : c = '('
    · subst hc
      have halias : Option.Rel LeavesCopy (readAlias? s) (readAlias? t) := by
        rw [readAlias?_eq, readAlias?_eq]
        apply rel_bind (q := LeavesCopy)
        · apply rel_bind (openAlias?_copies h)
          intro w w' hw hcopies
          obtain ⟨⟨body, rest⟩, hread, hbody⟩ := hs w hw
          obtain ⟨rest', hread', hrest⟩ := hcopies.readLiteral? hread hbody
          rw [hread, hread']
          exact .some ⟨rfl, hrest⟩
        · rintro ⟨body, rest⟩ ⟨body', rest'⟩ - ⟨rfl, hrest⟩
          apply closeAlias?_copies body hrest
      apply LeavesCopy.map halias some
    · rw [readAnnotation?_of_ne hc, readAnnotation?_of_ne hc]
      exact .some ⟨rfl, h.cons c⟩
  | feed h =>
    rw [readAnnotation?_of_ne (by decide), readAnnotation?_of_ne (by decide)]
    exact .some ⟨rfl, h.feed⟩

theorem read?_copies (h : Copies s t) (hs : ClosesAliases s) :
  Option.Rel LeavesCopy (read? s) (read? t)
  := by
  rw [read?_eq, read?_eq]
  apply rel_bind (q := LeavesCopy)
  · apply rel_bind (h.afterWord? (by decide))
    intro s' t' hs' hcopies
    apply readAnnotation?_copies hcopies
    intro w hw
    apply hs s List.suffix_rfl w
    rwa [quoted?, hs', Option.bind_some]
  · rintro ⟨given, rest⟩ ⟨given', rest'⟩ - ⟨rfl, hrest⟩
    apply finish?_copies hrest

/-- Nothing is declared in a text that does not mention an attribute. -/
theorem scan_eq_nil (h : ¬ attributeWord <:+: s) :
  scan s = []
  := by
  induction s with
  | nil => apply scan_nil
  | cons c s ih =>
    have hread : read? (c :: s) = none := by
      rw [read?_eq, afterWord?_eq_none h]
      rfl
    rw [scan_of_none hread]
    apply ih
    intro hin
    apply h (hin.trans (List.suffix_cons c s).isInfix)

/-- A copy declares what the text declares, if the aliases of the text are closed. -/
theorem scan_copies (h : Copies s t) (hs : ClosesAliases s) :
  scan t = scan s
  := by
  induction hlength : s.length using Nat.strong_induction_on generalizing s t with
  | _ n ih =>
    cases h with
    | @blank t h =>
      have hmark : ∀ k, isBlank k = false → k ∉ t := by
        intro k hk hmem
        rw [h k hmem] at hk
        cases hk
      rw [scan_nil, scan_eq_nil]
      apply isMarked_attributeWord.not_infix (hmark '#' rfl) (hmark '!' rfl)
    | @cons s t c h =>
      have hread := read?_copies (h.cons c) hs
      generalize hx : read? (c :: s) = x, hy : read? (c :: t) = y at hread
      cases hread with
      | none =>
        rw [scan_of_none hx, scan_of_none hy]
        apply ih s.length (by simp [← hlength]) h (hs.suffix (List.suffix_cons c s)) rfl
      | @some r r' h =>
        obtain ⟨d, rest⟩ := r
        obtain ⟨d', rest'⟩ := r'
        obtain ⟨rfl, hrest⟩ := h
        rw [scan_of_some hx, scan_of_some hy]
        have hlt := length_of_read? hx
        rw [hlength] at hlt
        rw [ih rest.length hlt hrest (hs.suffix (suffix_of_read? hx)) rfl]
    | @feed s t h =>
      have hfeed : ∀ rest, scan ('\n' :: rest) = scan rest := scan_line (s := []) (by decide)
      have hreturn : scan ('\r' :: '\n' :: s) = scan s := scan_line (s := ['\r']) (by decide) s
      rw [hfeed, hreturn]
      apply ih s.length _ h _ rfl
      · simp only [← hlength, List.length_cons]
        omega
      · apply hs.suffix ((List.suffix_cons '\n' s).trans (List.suffix_cons _ _))

/-- The lines of a text declare what the text declares, if its aliases are closed. -/
theorem scan_lines (hs : ClosesAliases s) :
  scan (joinLines (lines s) ++ ['\n']) = scan s
  := scan_copies (Copies.joinLines_lines s) hs

end Declaration

end LiveModels
