import LiveModels.Proofs.Source.Scan
import LiveModels.Proofs.Text.Lines
import LiveModels.Proofs.Text.Quoted
import LiveModels.Schema.RuntimeType

/-!
# Mute texts

What is put together from texts that mention neither an attribute nor a compile error mentions
neither, and lines of this kind can be left out of a text without an effect on what it declares.
-/

namespace LiveModels

open Text

theorem isMute_of_not_mem {s : List Char} (hhash : '#' ∉ s) (hmark : '!' ∉ s) :
  IsMute s
  := by
  constructor
  · intro h
    apply hhash (h.subset _)
    decide
  · intro h
    apply hmark (h.subset _)
    decide

namespace IsMute

variable {s t : List Char} {k : Char}

/-- Mute texts with a character between them that stands in no mention. -/
theorem append_cons (hs : IsMute s) (ht : IsMute t)
    (hk : k ∉ attributeWord ∧ k ∉ errorWord) :
  IsMute (s ++ k :: t)
  := by
  constructor
  · rw [infix_append_cons_iff hk.1 (by decide), not_or]
    exact ⟨hs.no_attribute, ht.no_attribute⟩
  · rw [infix_append_cons_iff hk.2 (by decide), not_or]
    exact ⟨hs.no_error, ht.no_error⟩

theorem isUnescaped_attributeWord :
  IsUnescaped attributeWord
  := by
  constructor
  · decide
  · decide
  · intro k hk s hs
    have hhead : attributeWord.head? = some '#' := by decide
    rw [hs, List.head?_cons, Option.some.injEq] at hhead
    rw [hhead] at hk
    revert hk
    decide
  · exact ⟨'#', by decide, by decide, by decide⟩

theorem isUnescaped_errorWord :
  IsUnescaped errorWord
  := by
  constructor
  · decide
  · decide
  · intro k hk s hs
    have hhead : errorWord.head? = some 'c' := by decide
    rw [hs, List.head?_cons, Option.some.injEq] at hhead
    rw [hhead] at hk
    revert hk
    decide
  · exact ⟨'!', by decide, by decide, by decide⟩

/-- A mute text stays mute when it is escaped. -/
theorem escape (h : IsMute s) :
  IsMute (Text.escape s)
  := by
  constructor
  · intro hattribute
    apply h.no_attribute (isUnescaped_attributeWord.infix_of_escape hattribute)
  · intro herror
    apply h.no_error (isUnescaped_errorWord.infix_of_escape herror)

/-- A mute type stays mute when the models in it are replaced by mute types. -/
theorem mapModels {resolve : String → RuntimeType} (hresolve : ∀ a, IsMute (resolve a).render)
    {type : RuntimeType} (h : IsMute type.render) :
  IsMute (type.mapModels resolve).render
  := by
  induction type with
  | element => apply h
  | named name => apply h
  | model aliasName => apply hresolve
  | list inner ih =>
    have hinner : IsMute inner.render := by
      apply h.mono
      apply (List.suffix_append _ _).isInfix.trans (List.prefix_append _ _).isInfix
    have hlist : IsMute "List".toList := isMute_of_not_mem (by decide) (by decide)
    have hnil : IsMute [] := isMute_of_not_mem (by simp) (by simp)
    have hlast := (ih hinner).append_cons hnil (k := '>') (by decide)
    apply hlist.append_cons hlast (k := '<') (by decide)

end IsMute

/-! ### Texts that declare nothing -/

namespace Declaration

variable {s t rest : List Char}

theorem Ends.append (h : Ends s) (t : List Char) :
  Ends (s ++ t)
  := by
  constructor
  · intro rest
    rw [List.append_assoc, h.read, h.read, Option.map_map]
    congr 1
    funext r
    simp [extend]
  · intro rest
    rw [List.append_assoc, h.error, h.error]

theorem Closed.append (hs : Closed s) (ht : Closed t) :
  Closed (s ++ t)
  := by
  intro y hy hsuffix
  rcases List.suffix_or_suffix_of_suffix hsuffix (List.suffix_append s t) with hin | ⟨x, rfl⟩
  · apply ht y hy hin
  · cases x with
    | nil => apply ht _ hy List.suffix_rfl
    | cons c x =>
      apply Ends.append
      apply hs _ (by simp)
      exact ((List.suffix_append_inj_of_length_eq rfl).mp hsuffix).1

/-- A part that declares nothing and asks for no compile error, whatever stands around it. -/
structure Silent (s : List Char) : Prop where
  closed : Closed s
  scan_eq : scan s = []
  hasError_eq : hasError s = false

namespace Silent

theorem nil :
  Silent []
  := by
  constructor
  · intro y hy hsuffix
    exact absurd (List.suffix_nil.mp hsuffix) hy
  · apply scan_nil
  · rfl

theorem append (hs : Silent s) (ht : Silent t) :
  Silent (s ++ t)
  := by
  constructor
  · apply hs.closed.append ht.closed
  · rw [hs.closed.scan_append, hs.scan_eq, ht.scan_eq, List.append_nil]
  · rw [hs.closed.hasError_append, hs.hasError_eq, ht.hasError_eq, Bool.or_false]

/-- Mute lines declare nothing. -/
theorem joinLines {ls : List (List Char)} (h : ∀ l ∈ ls, IsMute l) :
  Silent (Text.joinLines ls)
  := by
  induction ls with
  | nil => apply nil
  | cons l ls ih =>
    have hl : IsMute l := h l List.mem_cons_self
    rw [← List.singleton_append, joinLines_append]
    apply append
    · simp only [Text.joinLines, List.flatMap_cons, List.flatMap_nil, List.append_nil]
      exact ⟨closed_of_isMute hl, (scan_of_isMute hl).1, (scan_of_isMute hl).2⟩
    · apply ih
      intro l' hl'
      apply h l' (List.mem_cons_of_mem _ hl')

end Silent

/-! ### Texts that declare the same -/

/-- Whether two texts declare the same models, and both ask for a compile error or none does. -/
structure Alike (s t : List Char) : Prop where
  scan_eq : scan s = scan t
  hasError_eq : hasError s = hasError t

namespace Alike

theorem refl (s : List Char) :
  Alike s s
  := ⟨rfl, rfl⟩

theorem symm (h : Alike s t) :
  Alike t s
  := ⟨h.scan_eq.symm, h.hasError_eq.symm⟩

theorem trans (h : Alike s t) (h' : Alike t rest) :
  Alike s rest
  := ⟨h.scan_eq.trans h'.scan_eq, h.hasError_eq.trans h'.hasError_eq⟩

end Alike

/-- After a part that is closed, texts can be replaced by such that declare the same. -/
theorem Closed.alike_append (hs : Closed s) (h : Alike t rest) :
  Alike (s ++ t) (s ++ rest)
  := by
  constructor
  · rw [hs.scan_append, hs.scan_append, h.scan_eq]
  · rw [hs.hasError_append, hs.hasError_append, h.hasError_eq]

/-- A silent part in front of a text can be left out. -/
theorem Silent.alike_append (h : Silent s) (rest : List Char) :
  Alike (s ++ rest) rest
  := by
  constructor
  · rw [h.closed.scan_append, h.scan_eq, List.nil_append]
  · rw [h.closed.hasError_append, h.hasError_eq, Bool.false_or]

end Declaration

end LiveModels
