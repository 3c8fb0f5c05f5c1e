import LiveModels.Proofs.Text.Blank
import LiveModels.Schema.RuntimeType
import Mathlib.Data.List.Basic

/-!
# Texts of types

Which types can be read back from their texts. Brackets around lists are undone one pair at a time,
so it is the innermost type that decides: a name must not be taken for another type or for a part of
the notation, and no white space may stand where it would be trimmed. Only such types are read from
texts, and so types that have been read have the same text only if they are the same.
-/

namespace LiveModels.RuntimeType

/-- The text of a name is the name. -/
theorem text_named (name : String) :
  (named name).text = name
  := String.ofList_toList

/-- Types are resolved in the same way if the reference in them is. -/
theorem mapModels_eq_iff {resolve resolve' : String → RuntimeType} {type : RuntimeType} :
  type.mapModels resolve = type.mapModels resolve' ↔
    ∀ aliasName, type.innermost = .model aliasName → resolve aliasName = resolve' aliasName
  := by
  induction type with
  | element => exact ⟨fun _ => nofun, fun _ => rfl⟩
  | named name => exact ⟨fun _ => nofun, fun _ => rfl⟩
  | model aliasName =>
    constructor
    · rintro heq _ ⟨⟩
      apply heq
    · intro h
      apply h aliasName rfl
  | list inner ih =>
    have hlist : ∀ resolve, (list inner).mapModels resolve = list (inner.mapModels resolve) :=
      fun _ => rfl
    rw [hlist, hlist, list.injEq, ih]
    rfl

/-- Whether a type has been read from a text. -/
def IsRead (type : RuntimeType) : Prop :=
  ∃ text, RuntimeType.ofText text = .ok type

/-- Whether a type that is not a list can be read from a text: an element, a trimmed name without
any notation, or a reference to an alias that does not end in white space. -/
def IsLegible : RuntimeType → Prop
  | .element => True
  | .named name =>
    name ≠ "" ∧ Text.trimmed name = name ∧ name ≠ "Element" ∧
      ∀ c ∈ name.toList, c ≠ '<' ∧ c ≠ '>' ∧ c ≠ '@'
  | .model aliasName =>
    aliasName ≠ "" ∧ ∀ c, aliasName.toList.getLast? = some c → Text.isBlank c = false
  | .list _ => False

theorem isNotation_eq_false_iff {c : Char} :
  isNotation c = false ↔ c ≠ '<' ∧ c ≠ '>' ∧ c ≠ '@'
  := by
  simp [isNotation, and_assoc]

/-! ### Reading -/

section

variable {s : List Char}

theorem parse_element (h : Text.trim s = "Element".toList) :
  parse s = .ok .element
  := by
  unfold parse
  split
  case h_5 => rw [if_pos h]
  all_goals
    rename_i hs
    rw [h] at hs
    cases hs

theorem parse_model {aliasName : List Char} (h : Text.trim s = '@' :: aliasName)
    (hne : aliasName ≠ []) :
  parse s = .ok (.model (String.ofList aliasName))
  := by
  unfold parse
  split
  case h_3 aliasName' _ hs =>
    rw [h] at hs
    rw [(List.cons.inj hs).2]
  case h_5 _ _ hs _ => exact absurd h (hs aliasName)
  all_goals
    rename_i hs
    rw [h] at hs
    cases hs
  apply absurd rfl hne

/-- Brackets around a list are undone. -/
theorem parse_list {inner : List Char} (h : Text.trim s = "List<".toList ++ inner ++ ['>'])
    {t : RuntimeType} (hinner : parse inner = .ok t) :
  parse s = .ok (.list t)
  := by
  have hcons : Text.trim s = 'L' :: 'i' :: 's' :: 't' :: '<' :: (inner ++ ['>']) := h
  unfold parse
  split
  case h_4 rest hs =>
    obtain rfl : inner ++ ['>'] = rest := by
      rw [hcons] at hs
      simpa using hs
    rw [if_pos (by simp), List.dropLast_concat, hinner]
  case h_5 _ _ _ hs => exact absurd hcons (hs _)
  all_goals
    rename_i hs
    rw [hcons] at hs
    cases hs

theorem parse_named (hne : Text.trim s ≠ []) (helement : Text.trim s ≠ "Element".toList)
    (hplain : ∀ c ∈ Text.trim s, isNotation c = false) :
  parse s = .ok (.named (String.ofList (Text.trim s)))
  := by
  unfold parse
  split
  case h_1 hs => exact absurd hs hne
  case h_5 =>
    rw [if_neg helement, if_neg]
    rw [List.any_eq_true]
    rintro ⟨c, hc, hbad⟩
    rw [hplain c hc] at hbad
    cases hbad
  case h_4 rest hs =>
    rw [hs] at hplain
    cases hplain '<' (by simp)
  all_goals
    rename_i hs
    rw [hs] at hplain
    cases hplain '@' (by simp)

end

/-- What is read has a legible type inside its lists. -/
theorem isLegible_of_parse {s : List Char} {t : RuntimeType} (h : parse s = .ok t) :
  t.innermost.IsLegible
  := by
  fun_induction parse s generalizing t with
  | case1 => cases h
  | case2 => cases h
  | case3 s aliasName hne hs =>
    cases h
    constructor
    · simpa using hne
    · intro c hc
      apply Text.isBlank_of_getLast?_trim (s := s)
      rw [String.toList_ofList] at hc
      rw [hs, List.getLast?_cons, hc]
      rfl
  | case4 s rest hs hlast hlt inner hinner ih =>
    cases h
    apply ih hinner
  | case5 => cases h
  | case6 => cases h
  | case7 =>
    cases h
    trivial
  | case8 => cases h
  | case9 s hempty hat hmodel hlist helement hplain =>
    cases h
    refine ⟨?_, ?_, ?_, ?_⟩
    · simpa using hempty
    · rw [Text.trimmed, String.toList_ofList, Text.trim_trim]
    · intro heq
      apply helement
      rw [← heq, String.toList_ofList]
    · intro c hc
      rw [String.toList_ofList] at hc
      rw [← isNotation_eq_false_iff, Bool.eq_false_iff]
      intro hbad
      apply hplain
      rw [List.any_eq_true]
      use c

/-! ### Reading back -/

/-- The notation has no white space around it that would be trimmed. -/
theorem trim_render_model {aliasName : String} (h : (model aliasName).IsLegible) :
  Text.trim (model aliasName).render = (model aliasName).render
  := by
  apply Text.trim_eq_self
  · intro c hc
    cases hc
    decide
  · intro c hc
    have hne : aliasName.toList ≠ [] := by simpa using h.1
    have htext : (model aliasName).render = '@' :: aliasName.toList := rfl
    apply h.2 c
    rwa [htext, List.getLast?_cons_of_ne_nil hne] at hc

theorem trim_render_list (inner : RuntimeType) :
  Text.trim (list inner).render = (list inner).render
  := by
  apply Text.trim_eq_self
  · intro c hc
    cases hc
    decide
  · intro c hc
    have htext : (list inner).render = "List<".toList ++ inner.render ++ ['>'] := rfl
    rw [htext, List.getLast?_concat] at hc
    cases hc
    decide

/-- A type with a legible type inside its lists is read back from its text. -/
theorem parse_render {t : RuntimeType} (h : t.innermost.IsLegible) :
  parse t.render = .ok t
  := by
  induction t with
  | element =>
    apply parse_element
    decide
  | named name =>
    obtain ⟨hne, htrim, helement, hplain⟩ := h
    have htrim' : Text.trim name.toList = name.toList := by
      rw [← String.toList_inj, Text.trimmed, String.toList_ofList] at htrim
      apply htrim
    have hread := parse_named (s := name.toList)
    rw [htrim', String.ofList_toList] at hread
    apply hread
    · simpa using hne
    · rwa [ne_eq, String.toList_inj]
    · intro c hc
      apply isNotation_eq_false_iff.mpr (hplain c hc)
  | model aliasName =>
    rw [parse_model (trim_render_model h), String.ofList_toList]
    simpa using h.1
  | list inner ih =>
    apply parse_list (trim_render_list inner) (ih h)

theorem ofText_text {t : RuntimeType} (h : t.innermost.IsLegible) :
  ofText t.text = .ok t
  := by
  rw [ofText, text, String.toList_ofList, parse_render h]

theorem IsRead.isLegible {t : RuntimeType} (h : t.IsRead) :
  t.innermost.IsLegible
  := by
  obtain ⟨text, htext⟩ := h
  apply isLegible_of_parse htext

/-- Types that have been read are the same if they have the same text. -/
theorem IsRead.eq_of_text_eq {t t' : RuntimeType} (h : t.IsRead) (h' : t'.IsRead)
    (heq : t.text = t'.text) :
  t = t'
  := by
  have hread := ofText_text h.isLegible
  rw [heq, ofText_text h'.isLegible] at hread
  exact (Except.ok.inj hread).symm

/-- A type is read back from its text if and only if it has a legible type inside its lists. As
types that are read from any texts have one, they are read back, and have different texts if they
are different. -/
theorem text_is_faithful :
  (∀ t : RuntimeType, ofText t.text = .ok t ↔ t.innermost.IsLegible) ∧
    (∀ (s : String) (t : RuntimeType), ofText s = .ok t →
      t.innermost.IsLegible ∧ ofText t.text = .ok t) ∧
    ∀ t t' : RuntimeType, t.IsRead → t'.IsRead → t.text = t'.text → t = t'
  := by
  refine ⟨?_, ?_, ?_⟩
  · intro t
    exact ⟨fun h => IsRead.isLegible ⟨_, h⟩, ofText_text⟩
  · intro s t h
    have hlegible := IsRead.isLegible ⟨s, h⟩
    exact ⟨hlegible, ofText_text hlegible⟩
  · intro t t' h h'
    apply h.eq_of_text_eq h'

/-- White space and notation in a reference are kept, but for what is trimmed. -/
theorem reference_is_faithful :
  ofText " List<List< @ a>b > > " = .ok (.list (.list (.model " a>b"))) ∧
    ofText (list (list (model " a>b"))).text = .ok (.list (.list (.model " a>b")))
  := by
  have hread : ofText " List<List< @ a>b > > " = .ok (.list (.list (.model " a>b"))) := by
    decide +kernel
  exact ⟨hread, (text_is_faithful.2.1 _ _ hread).2⟩

end LiveModels.RuntimeType
