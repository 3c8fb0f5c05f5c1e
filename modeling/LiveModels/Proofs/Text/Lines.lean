import LiveModels.Text.Lines
import Mathlib.Data.List.Basic
import Mathlib.Data.List.Infix

/-!
# Pieces and lines

The pieces of texts that are put together with separators, and the lines of texts that are put
together from lines.
-/

namespace LiveModels.Text

/-- The pieces of two texts with a separator between them are the pieces of both. -/
theorem pieces_append_sep (sep : Char) (s t : List Char) :
  pieces sep (s ++ sep :: t) = pieces sep s ++ pieces sep t
  := by
  induction s with
  | nil => simp
  | cons c rest ih =>
    obtain ⟨piece, others, h⟩ : ∃ piece others, pieces sep rest = piece :: others :=
      List.exists_cons_of_ne_nil (pieces_ne_nil sep rest)
    by_cases hc : c = sep
    · subst hc
      simp [ih]
    · simp only [List.cons_append, pieces, hc, if_false, ih, h]

/-- A text without the separator is its only piece. -/
theorem pieces_of_not_mem {sep : Char} {s : List Char} (h : sep ∉ s) :
  pieces sep s = [s]
  := by
  induction s with
  | nil => rfl
  | cons c rest ih =>
    simp only [List.mem_cons, not_or] at h
    simp [pieces, Ne.symm h.1, ih h.2]

/-- Texts without the separator are their only pieces. -/
theorem flatMap_pieces_of_not_mem {sep : Char} {ps : List (List Char)} (h : ∀ s ∈ ps, sep ∉ s) :
  ps.flatMap (pieces sep) = ps
  := by
  induction ps with
  | nil => rfl
  | cons s ps ih =>
    rw [List.forall_mem_cons] at h
    rw [List.flatMap_cons, pieces_of_not_mem h.1, ih h.2, List.singleton_append]

/-- What stands before the first separator and what stands after it are parts of their own. -/
theorem append_sep_inj {sep : Char} {s s' t t' : List Char} (h : sep ∉ s) (h' : sep ∉ s') :
  s ++ sep :: t = s' ++ sep :: t' ↔ s = s' ∧ t = t'
  := by
  constructor
  · intro heq
    induction s generalizing s' with
    | nil =>
      cases s' with
      | nil => simpa using heq
      | cons c rest =>
        obtain ⟨rfl, -⟩ := List.cons.inj heq
        exact absurd List.mem_cons_self h'
    | cons c rest ih =>
      cases s' with
      | nil =>
        obtain ⟨rfl, -⟩ := List.cons.inj heq
        exact absurd List.mem_cons_self h
      | cons c' rest' =>
        simp only [List.mem_cons, not_or] at h h'
        obtain ⟨rfl, hrest⟩ := List.cons.inj heq
        obtain ⟨rfl, rfl⟩ := ih h.2 h'.2 hrest
        exact ⟨rfl, rfl⟩
  · rintro ⟨rfl, rfl⟩
    rfl

/-- What is added behind the last separator belongs to the last piece. -/
theorem pieces_append_of_not_mem {sep : Char} (s : List Char) {t : List Char} (h : sep ∉ t) :
  ∃ front last, pieces sep s = front ++ [last] ∧ pieces sep (s ++ t) = front ++ [last ++ t]
  := by
  induction s with
  | nil => exact ⟨[], [], rfl, pieces_of_not_mem h⟩
  | cons c rest ih =>
    obtain ⟨front, last, hrest, happend⟩ := ih
    by_cases hc : c = sep
    · subst hc
      use [] :: front, last
      simp [hrest, happend]
    · simp only [List.cons_append, pieces, hc, if_false, hrest, happend]
      cases front with
      | nil => exact ⟨[], c :: last, rfl, rfl⟩
      | cons first others => exact ⟨(c :: first) :: others, last, rfl, rfl⟩

/-- What stands before the first separator belongs to the first piece. -/
theorem exists_pieces_append {sep : Char} {s : List Char} (h : sep ∉ s) (t : List Char) :
  ∃ rest others, pieces sep (s ++ t) = (s ++ rest) :: others
  := by
  induction s with
  | nil => apply List.exists_cons_of_ne_nil (pieces_ne_nil sep t)
  | cons c s ih =>
    rw [List.mem_cons, not_or] at h
    obtain ⟨rest, others, hrest⟩ := ih h.2
    use rest, others
    simp only [List.cons_append, pieces, Ne.symm h.1, if_false, hrest]

/-- The pieces of texts joined with a separator that none of them contains are these texts. -/
theorem pieces_join {sep : Char} {ps : List (List Char)} (hne : ps ≠ [])
    (h : ∀ piece ∈ ps, sep ∉ piece) :
  pieces sep (join [sep] ps) = ps
  := by
  induction ps with
  | nil => exact absurd rfl hne
  | cons first others ih =>
    rw [List.forall_mem_cons] at h
    cases others with
    | nil => rw [join, pieces_of_not_mem h.1]
    | cons next others =>
      rw [join, List.append_assoc, List.singleton_append, pieces_append_sep, pieces_of_not_mem h.1,
        ih (by simp) h.2]
      rfl

theorem toList_intercalate (sep : String) (names : List String) :
  (sep.intercalate names).toList = join sep.toList (names.map String.toList)
  := by
  induction names with
  | nil => rfl
  | cons name rest ih =>
    cases rest with
    | nil => simp [join]
    | cons next others =>
      rw [String.intercalate_cons_of_ne_nil (by simp), String.toList_append, String.toList_append,
        ih]
      rfl

/-- Pieces that are joined with others after them come first in the text. -/
theorem prefix_join (sep : List Char) (ps others : List (List Char)) :
  join sep ps <+: join sep (ps ++ others)
  := by
  induction ps with
  | nil => apply List.nil_prefix
  | cons first rest ih =>
    cases rest with
    | nil =>
      cases others with
      | nil => apply List.prefix_rfl
      | cons next more =>
        simp only [List.singleton_append, join, List.append_assoc]
        apply List.prefix_append
    | cons next more =>
      simp only [List.cons_append, join] at ih ⊢
      apply (List.prefix_append_right_inj _).mpr ih

theorem infix_join {sep piece : List Char} {ps : List (List Char)} (h : piece ∈ ps) :
  piece <:+: join sep ps
  := by
  induction ps with
  | nil => cases h
  | cons first others ih =>
    cases others with
    | nil =>
      rw [List.mem_singleton.mp h]
      apply List.infix_rfl
    | cons next others =>
      rw [join]
      rcases List.mem_cons.mp h with rfl | h
      · apply List.IsPrefix.isInfix
        rw [List.append_assoc]
        apply List.prefix_append
      · apply (ih h).trans
        apply (List.suffix_append _ _).isInfix

/-- Texts joined with a separator are the same as others only if they are the same one by one,
provided that none is empty or contains the separator. -/
theorem join_inj {sep : Char} {ps ps' : List (List Char)}
    (h : ∀ piece ∈ ps, piece ≠ [] ∧ sep ∉ piece) (h' : ∀ piece ∈ ps', piece ≠ [] ∧ sep ∉ piece) :
  join [sep] ps = join [sep] ps' ↔ ps = ps'
  := by
  have hempty : ∀ {qs : List (List Char)}, (∀ piece ∈ qs, piece ≠ [] ∧ sep ∉ piece) →
      join [sep] qs = [] → qs = [] := by
    intro qs hqs hjoin
    cases qs with
    | nil => rfl
    | cons piece others =>
      have hmention : piece <:+: join [sep] (piece :: others) := infix_join List.mem_cons_self
      rw [hjoin, List.infix_nil] at hmention
      exact absurd hmention (hqs piece List.mem_cons_self).1
  constructor
  · intro heq
    by_cases hne : ps = []
    · subst hne
      apply (hempty h' heq.symm).symm
    · by_cases hne' : ps' = []
      · subst hne'
        apply hempty h heq
      · rw [← pieces_join hne fun piece hpiece => (h piece hpiece).2, heq,
          pieces_join hne' fun piece hpiece => (h' piece hpiece).2]
  · apply congrArg

/-- The first piece begins like the text. -/
theorem head?_of_mem_head?_pieces {sep k : Char} {s first : List Char} (hs : ∀ v, s ≠ k :: v)
    (hfirst : first ∈ (pieces sep s).head?) :
  first.head? ≠ some k
  := by
  cases s with
  | nil =>
    cases hfirst
    simp
  | cons c rest =>
    obtain ⟨piece, others, hpieces⟩ := List.exists_cons_of_ne_nil (pieces_ne_nil sep rest)
    by_cases hc : c = sep
    · rw [hc, pieces_cons_sep] at hfirst
      cases hfirst
      simp
    · simp only [pieces, hc, if_false, hpieces] at hfirst
      cases hfirst
      intro hk
      cases hk
      apply hs rest rfl

/-- The other pieces begin with what stands after a separator. -/
theorem head?_of_mem_tail_pieces {sep k : Char} {s piece : List Char}
    (hs : ∀ u v, s ≠ u ++ sep :: k :: v) (hpiece : piece ∈ (pieces sep s).tail) :
  piece.head? ≠ some k
  := by
  induction s with
  | nil => cases hpiece
  | cons c rest ih =>
    have hrest := ih fun u v heq => hs (c :: u) v (by rw [heq]; rfl)
    obtain ⟨first, others, hpieces⟩ := List.exists_cons_of_ne_nil (pieces_ne_nil sep rest)
    rw [hpieces] at hrest
    by_cases hc : c = sep
    · rw [hc, pieces_cons_sep, List.tail_cons, hpieces] at hpiece
      rcases List.mem_cons.mp hpiece with rfl | hpiece
      · have hfirst : piece ∈ (pieces sep rest).head? := by
          rw [hpieces]
          rfl
        apply head?_of_mem_head?_pieces _ hfirst
        intro v hv
        apply hs [] v
        rw [hc, hv]
        rfl
      · apply hrest hpiece
    · simp only [pieces, hc, if_false, hpieces, List.tail_cons] at hpiece
      apply hrest hpiece

/-- A piece is a part of the text without the separator. -/
theorem of_mem_pieces {sep : Char} {s piece : List Char} (h : piece ∈ pieces sep s) :
  sep ∉ piece ∧ piece <:+: s
  := by
  constructor
  · induction s generalizing piece with
    | nil =>
      rw [pieces_nil, List.mem_singleton] at h
      simp [h]
    | cons c rest ih =>
      obtain ⟨first, others, hrest⟩ : ∃ first others, pieces sep rest = first :: others :=
        List.exists_cons_of_ne_nil (pieces_ne_nil sep rest)
      rw [hrest] at ih
      by_cases hc : c = sep
      · subst hc
        rw [pieces_cons_sep, hrest, List.mem_cons] at h
        rcases h with rfl | h
        · simp
        · apply ih h
      · simp only [pieces, hc, if_false, hrest, List.mem_cons] at h
        rcases h with rfl | h
        · simpa [Ne.symm hc] using ih List.mem_cons_self
        · apply ih (List.mem_cons_of_mem _ h)
  · have hjoin := join_pieces sep s
    rw [← hjoin]
    apply infix_join h

/-! ### Lines -/

/-- The lines that a text begins or adds, when it is followed by a line feed. -/
def cut (s : List Char) : List (List Char) :=
  (pieces '\n' s).map chomp

/-- A line feed ends the lines before it. -/
theorem lines_append_feed (s t : List Char) :
  lines (s ++ '\n' :: t) = cut s ++ lines t
  := by
  have hne := pieces_ne_nil '\n' t
  simp only [lines, pieces_append_sep, List.dropLast_append_of_ne_nil hne, List.map_append, cut,
    List.append_assoc, List.getLast?_append_of_ne_nil _ hne]

theorem cut_of_not_mem {s : List Char} (h : '\n' ∉ s) :
  cut s = [chomp s]
  := by
  rw [cut, pieces_of_not_mem h, List.map_singleton]

theorem chomp_append_singleton {c : Char} (h : c ≠ '\r') (s : List Char) :
  chomp (s ++ [c]) = s ++ [c]
  := by
  simp [chomp, h]

theorem exists_chomp_cons {c : Char} (h : c ≠ '\r') (s : List Char) :
  ∃ t, chomp (c :: s) = c :: t
  := by
  rw [chomp]
  split
  case isTrue hlast =>
    cases s with
    | nil =>
      rw [List.getLast?_singleton, Option.some.injEq] at hlast
      exact absurd hlast h
    | cons d s =>
      use (d :: s).dropLast
      rfl
  · use s

theorem isPrefix_chomp (s : List Char) :
  chomp s <+: s
  := by
  rw [chomp]
  split
  · apply List.dropLast_prefix
  · apply List.prefix_rfl

/-- A line that is cut out of a text is a part of it. -/
theorem infix_of_mem_cut {s line : List Char} (h : line ∈ cut s) :
  line <:+: s
  := by
  obtain ⟨piece, hpiece, rfl⟩ := List.mem_map.mp h
  apply (isPrefix_chomp piece).isInfix.trans (of_mem_pieces hpiece).2

theorem infix_of_mem_lines {s line : List Char} (h : line ∈ lines s) :
  line <:+: s
  := by
  rcases List.mem_append.mp h with h | h
  · obtain ⟨piece, hpiece, rfl⟩ := List.mem_map.mp h
    apply infix_of_mem_cut (List.mem_map_of_mem (List.mem_of_mem_dropLast hpiece))
  · split at h
    · cases h
    · rw [List.mem_singleton.mp h,
        List.getLast?_eq_some_getLast (pieces_ne_nil '\n' s), Option.getD_some]
      apply (of_mem_pieces (List.getLast_mem _)).2

/-- There is no line feed in a line. -/
theorem not_mem_of_mem_lines {s line : List Char} (h : line ∈ lines s) :
  '\n' ∉ line
  := by
  rcases List.mem_append.mp h with h | h
  · obtain ⟨piece, hpiece, rfl⟩ := List.mem_map.mp h
    intro hmem
    apply (of_mem_pieces (List.mem_of_mem_dropLast hpiece)).1
    apply (isPrefix_chomp piece).subset hmem
  · split at h
    · cases h
    · rw [List.mem_singleton.mp h,
        List.getLast?_eq_some_getLast (pieces_ne_nil '\n' s), Option.getD_some]
      apply (of_mem_pieces (List.getLast_mem _)).1

/-- Lines as a text, each with a line feed at its end. -/
def joinLines (ls : List (List Char)) : List Char :=
  ls.flatMap (· ++ ['\n'])

theorem joinLines_append (ls ls' : List (List Char)) :
  joinLines (ls ++ ls') = joinLines ls ++ joinLines ls'
  := List.flatMap_append

theorem joinLines_cons (l : List Char) (ls : List (List Char)) :
  joinLines (l :: ls) = l ++ '\n' :: joinLines ls
  := by
  simp [joinLines]

theorem joinLines_flatMap {α : Type} (xs : List α) (f : α → List (List Char)) :
  joinLines (xs.flatMap f) = xs.flatMap fun x => joinLines (f x)
  := List.flatMap_assoc

/-- The pieces of a text that was made of lines; what follows the last one is empty. -/
theorem pieces_joinLines (ls : List (List Char)) :
  pieces '\n' (joinLines ls) = ls.flatMap (pieces '\n') ++ [[]]
  := by
  induction ls with
  | nil => rfl
  | cons l ls ih =>
    rw [joinLines_cons, pieces_append_sep, ih, List.flatMap_cons, List.append_assoc]

/-- The lines of a text that was made of lines. -/
theorem lines_joinLines (ls : List (List Char)) :
  lines (joinLines ls) = ls.flatMap cut
  := by
  induction ls with
  | nil => rfl
  | cons l ls ih => rw [joinLines_cons, lines_append_feed, ih, List.flatMap_cons]

end LiveModels.Text
