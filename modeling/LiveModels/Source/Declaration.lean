import LiveModels.Text.Affix
import LiveModels.Text.Character
import LiveModels.Text.Quoted

/-!
# Model declarations

The declarations of models in source text. A declaration is an attribute `#[model]`, which may give
the alias of the model as a quoted text, in front of the declaration of a public structure. The scan
finds the declarations from left to right; what lies between them is not looked at.
-/

namespace LiveModels

/-- A declared model. -/
structure Declaration where
  typeName : String
  aliasName : Option String
  deriving DecidableEq, Repr, Inhabited

namespace Declaration

open Text

/-- The alias that a declaration binds: the given one, or the name of the type. -/
def effectiveAlias (d : Declaration) : String :=
  d.aliasName.getD d.typeName

/-- Reads the inside of a quoted text and its closing quote, without undoing the escapes. A
backslash may stand before any character but a line feed. -/
def readLiteral? : List Char → Option (List Char × List Char)
  | [] => none
  | '"' :: rest => some ([], rest)
  | ['\\'] => none
  | '\\' :: c :: rest =>
    if c = '\n' then none
    else match readLiteral? rest with
      | some (body, last) => some ('\\' :: c :: body, last)
      | none => none
  | c :: rest =>
    match readLiteral? rest with
    | some (body, last) => some (c :: body, last)
    | none => none

/-- Reads `alias = "…")` after the opening parenthesis: the text in quotes, which is not empty. -/
def readAlias? (s : List Char) : Option (List Char × List Char) := do
  let s ← afterWord? "alias".toList (trimStart s)
  let s ← afterWord? ['='] (trimStart s)
  let s ← afterWord? ['"'] (trimStart s)
  let (body, s) ← readLiteral? s
  if body.isEmpty then none
  let s ← afterWord? [')'] (trimStart s)
  return (body, s)

/-- Reads the parenthesis of a model attribute, if there is one. -/
def readAnnotation? (s : List Char) : Option (Option (List Char) × List Char) :=
  match s with
  | '(' :: rest => (readAlias? rest).map fun r => (some r.1, r.2)
  | _ => some (none, s)

/-- Reads the declaration with which a text begins. -/
def read? (s : List Char) : Option (Declaration × List Char) := do
  let s ← afterWord? "#[model".toList s
  let (aliasName, s) ← readAnnotation? s
  let s ← afterWord? [']'] s
  let s ← afterWord? "pub".toList (trimStart s)
  let s ← afterBlank? s
  let s ← afterWord? "struct".toList s
  let s ← afterBlank? s
  let name := s.takeWhile isWordCharacter
  if name.isEmpty then none
  return (⟨String.ofList name, aliasName.map fun body => String.ofList (unescape body)⟩,
    s.dropWhile isWordCharacter)

theorem length_of_readLiteral? {s body rest : List Char}
    (h : readLiteral? s = some (body, rest)) :
  rest.length < s.length
  := by
  fun_induction readLiteral? s generalizing body with
  | case1 => simp at h
  | case2 rest' =>
    simp only [Option.some.injEq, Prod.mk.injEq] at h
    simp [h.2]
  | case3 => simp at h
  | case4 => simp at h
  | case5 c rest' hc body' last hread ih =>
    simp only [Option.some.injEq, Prod.mk.injEq] at h
    obtain ⟨-, rfl⟩ := h
    have := ih hread
    simp only [List.length_cons]
    omega
  | case6 => simp at h
  | case7 c rest' _ _ _ body' last hread ih =>
    simp only [Option.some.injEq, Prod.mk.injEq] at h
    obtain ⟨-, rfl⟩ := h
    have := ih hread
    simp only [List.length_cons]
    omega
  | case8 => simp at h

theorem length_of_readAlias? {s body rest : List Char} (h : readAlias? s = some (body, rest)) :
  rest.length < s.length
  := by
  simp only [readAlias?, Option.bind_eq_bind, Option.bind_eq_some_iff] at h
  obtain ⟨s₁, h₁, s₂, h₂, s₃, h₃, ⟨b, s₄⟩, h₄, h⟩ := h
  split at h
  · simp at h
  · simp only [Option.pure_def, Option.bind_eq_some_iff, Option.some.injEq, Prod.mk.injEq] at h
    obtain ⟨s₅, h₅, -, rfl⟩ := h
    have := length_of_afterWord? h₁
    have := length_of_afterWord? h₂
    have := length_of_afterWord? h₃
    have := length_of_readLiteral? h₄
    have := length_of_afterWord? h₅
    have := length_trimStart_le s
    have := length_trimStart_le s₁
    have := length_trimStart_le s₂
    have := length_trimStart_le s₄
    simp only [List.length_cons, List.length_nil] at *
    omega

theorem length_of_readAnnotation? {s rest : List Char} {aliasName : Option (List Char)}
    (h : readAnnotation? s = some (aliasName, rest)) :
  rest.length ≤ s.length
  := by
  unfold readAnnotation? at h
  split at h
  · simp only [Option.map_eq_some_iff, Prod.mk.injEq] at h
    obtain ⟨⟨body, last⟩, hread, -, rfl⟩ := h
    have := length_of_readAlias? hread
    simp only [List.length_cons]
    omega
  · simp only [Option.some.injEq, Prod.mk.injEq] at h
    exact h.2 ▸ Nat.le_refl _

/-- Reading a declaration leaves a shorter text. -/
theorem length_of_read? {s rest : List Char} {d : Declaration} (h : read? s = some (d, rest)) :
  rest.length < s.length
  := by
  simp only [read?, Option.bind_eq_bind, Option.bind_eq_some_iff] at h
  obtain ⟨s₁, h₁, ⟨aliasName, s₂⟩, h₂, s₃, h₃, s₄, h₄, s₅, h₅, s₆, h₆, s₇, h₇, h⟩ := h
  split at h
  · simp at h
  · simp only [Option.pure_def, Option.some.injEq, Prod.mk.injEq] at h
    rw [← h.2]
    have := length_of_afterWord? h₁
    have := length_of_readAnnotation? h₂
    have := length_of_afterWord? h₃
    have := length_of_afterWord? h₄
    have := length_of_afterBlank? h₅
    have := length_of_afterWord? h₆
    have := length_of_afterBlank? h₇
    have := length_trimStart_le s₃
    have := (List.dropWhile_sublist isWordCharacter (l := s₇)).length_le
    simp only [List.length_cons, List.length_nil] at *
    omega

/-- The declarations of a text, in their order. -/
def scan (s : List Char) : List Declaration :=
  match s with
  | [] => []
  | c :: rest =>
    match h : read? (c :: rest) with
    | some (d, after) =>
      have := length_of_read? h
      d :: scan after
    | none => scan rest
  termination_by s.length
  decreasing_by
    all_goals
      simp only [List.length_cons] at *
      omega

/-- The models declared in a text. -/
def declared (source : String) : List Declaration :=
  scan source.toList

end Declaration

/-- Reads `compile_error!("…")` at the beginning of a text: the message in quotes. -/
def readCompileError? (s : List Char) : Option (List Char) := do
  let s ← Text.afterWord? "compile_error!(".toList s
  let s ← Text.afterWord? ['"'] (Text.trimStart s)
  let message := s.takeWhile (· ≠ '"')
  let s ← Text.afterWord? ['"'] (s.dropWhile (· ≠ '"'))
  let _ ← Text.afterWord? [')'] (Text.trimStart s)
  return message

/-- The message of the first compile error that a text asks for. -/
def findCompileError? : List Char → Option (List Char)
  | [] => none
  | c :: rest =>
    match readCompileError? (c :: rest) with
    | some message => some message
    | none => findCompileError? rest

end LiveModels
