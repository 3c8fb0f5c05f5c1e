import LiveModels.Proofs.Naming.Identifier

/-!
# Names that fall back to the alias

Under the policy that makes binding names from display names, the alias takes the place of a display
name that has no words. Whether it has some is asked before the characters that cannot stand in a
name are left out. A display name in upper camel case that consists of such characters only is
therefore not replaced, and gives the name `_` to every type that has it.
-/

namespace LiveModels

namespace Identifier

/-- The identifier characters of a text stand in the identifier that is made from it. -/
theorem mem_sanitize {s : String} {c : Char} (hmem : c ∈ s.toList)
    (hc : isIdentifierCharacter c = true) :
  c ∈ (sanitize s).toList
  := by
  have hkept : c ∈ s.toList.filter isIdentifierCharacter := List.mem_filter.mpr ⟨hmem, hc⟩
  rw [sanitize, String.toList_ofList]
  unfold ofCharacters
  split
  case h_1 hnone =>
    rw [hnone] at hkept
    cases hkept
  case h_2 d rest hsome =>
    rw [hsome] at hkept
    split
    · apply List.mem_cons_of_mem _ hkept
    · split
      · apply List.mem_append_left _ hkept
      · apply hkept

theorem sanitize_eq_underscore {s : String}
    (h : ∀ c ∈ s.toList, isIdentifierCharacter c = false) :
  sanitize s = "_"
  := by
  have hnone : s.toList.filter isIdentifierCharacter = [] := by
    rw [List.filter_eq_nil_iff]
    intro c hc
    rw [h c hc]
    decide
  rw [sanitize, ofCharacters, hnone]

theorem sanitize_ne_underscore {s : String} (h : Text.HoldsAscii s) :
  sanitize s ≠ "_"
  := by
  obtain ⟨c, hmem, hc⟩ := h
  have hkept : isIdentifierCharacter c = true := Bool.or_eq_true_iff.mpr (.inl hc)
  intro heq
  have hin := mem_sanitize hmem hkept
  rw [heq] at hin
  rw [List.mem_singleton.mp hin] at hc
  revert hc
  decide

end Identifier

namespace NamingPolicy

/-! ### Display names -/

/-- Whether something of a display name in upper camel case may stand in a name. -/
def Contributes (displayName : String) : Prop :=
  ∃ c ∈ (Text.upperCamel displayName).toList, Identifier.isIdentifierCharacter c = true

instance (displayName : String) : Decidable (Contributes displayName) :=
  List.decidableBEx _ (Text.upperCamel displayName).toList

/-- Whether a display name gives a name of its own or is known to give none: it contributes to the
name, or it has no letter or digit of any script. -/
def IsLegible (displayName : String) : Prop :=
  Contributes displayName ∨ Text.IsWordless displayName

/-- What contributes to a name are ASCII letters and digits, since there are no underscores in upper
camel case. -/
theorem contributes_iff (displayName : String) :
  Contributes displayName ↔ Text.HoldsAscii (Text.upperCamel displayName)
  := by
  constructor
  · rintro ⟨c, hmem, hc⟩
    rcases Bool.or_eq_true_iff.mp hc with hletter | hunderscore
    · use c, hmem, hletter
    · rw [beq_iff_eq.mp hunderscore] at hmem
      cases Text.underscore_not_mem_upperCamel displayName hmem
  · rintro ⟨c, hmem, hc⟩
    use c, hmem
    apply Bool.or_eq_true_iff.mpr (.inl hc)

theorem contributes_of_holdsAscii {displayName : String} (h : Text.HoldsAscii displayName) :
  Contributes displayName
  := (contributes_iff displayName).mpr h.upperCamel

theorem not_contributes_of_isWordless {displayName : String} (h : Text.IsWordless displayName) :
  ¬ Contributes displayName
  := by
  rintro ⟨c, hmem, -⟩
  rw [(Text.upperCamel_eq_empty_iff displayName).mpr h] at hmem
  cases hmem

/-! ### Names -/

section

variable {aliasName displayName : String}

theorem bindingName_of_isWordless (h : Text.IsWordless displayName) :
  bindingName .pascalName aliasName displayName = bindingName .pascalAlias aliasName displayName
  := by
  have hempty := (Text.upperCamel_eq_empty_iff displayName).mpr h
  simp only [bindingName, base, hempty]
  rfl

theorem bindingName_of_not_isWordless (h : ¬ Text.IsWordless displayName) :
  bindingName .pascalName aliasName displayName
    = Identifier.sanitize (Text.upperCamel displayName)
  := by
  have hsome : (Text.upperCamel displayName).isEmpty = false := by
    rw [Bool.eq_false_iff]
    intro hempty
    apply h ((Text.upperCamel_eq_empty_iff displayName).mp (String.isEmpty_iff.mp hempty))
  simp only [bindingName, base, hsome]
  rfl

theorem bindingName_of_contributes (h : Contributes displayName) :
  bindingName .pascalName aliasName displayName
    = Identifier.sanitize (Text.upperCamel displayName)
  := bindingName_of_not_isWordless fun hnone => not_contributes_of_isWordless hnone h

/-- A display name whose letters and digits all belong to other scripts gives one name only. -/
theorem bindingName_of_not_isLegible (h : ¬ IsLegible displayName) :
  bindingName .pascalName aliasName displayName = "_"
  := by
  obtain ⟨hnothing, hwords⟩ := not_or.mp h
  rw [bindingName_of_not_isWordless hwords]
  apply Identifier.sanitize_eq_underscore
  intro c hc
  rw [Bool.eq_false_iff]
  intro hkept
  apply hnothing ⟨c, hc, hkept⟩

example : bindingName .pascalName "page" "Страница" = "_" := by decide +kernel

theorem bindingName_pascalAlias_ne_underscore (h : Text.HoldsAscii aliasName) :
  bindingName .pascalAlias aliasName displayName ≠ "_"
  := Identifier.sanitize_ne_underscore h.upperCamel

theorem bindingName_of_not_contributes (h : IsLegible displayName)
    (hnothing : ¬ Contributes displayName) :
  bindingName .pascalName aliasName displayName = bindingName .pascalAlias aliasName displayName
  := bindingName_of_isWordless (h.resolve_left hnothing)

/-- The name `_` stands for texts without ASCII letters and digits. -/
theorem not_holdsAscii_of_bindingName_eq (h : IsLegible displayName)
    (hname : bindingName .pascalName aliasName displayName = "_") :
  ¬ Text.HoldsAscii displayName ∧ ¬ Text.HoldsAscii aliasName
  := by
  have hnothing : ¬ Contributes displayName := by
    intro hsome
    rw [bindingName_of_contributes hsome] at hname
    apply Identifier.sanitize_ne_underscore ((contributes_iff displayName).mp hsome) hname
  constructor
  · intro hascii
    apply hnothing (contributes_of_holdsAscii hascii)
  · intro hascii
    rw [bindingName_of_not_contributes h hnothing] at hname
    apply bindingName_pascalAlias_ne_underscore hascii hname

end

/-- The display names for which every name that nothing of them contributes to is made from the
alias are the legible ones; the others give the name `_` beside every alias. Beside a legible
display name only texts without ASCII letters and digits give this name, and types to whose names
their display names contribute nothing have the same name exactly if their aliases give them one. -/
theorem falls_back_to_alias (displayName : String) :
  (IsLegible displayName ↔ ∀ aliasName, ¬ Contributes displayName →
      bindingName .pascalName aliasName displayName
        = bindingName .pascalAlias aliasName displayName)
  ∧ (¬ IsLegible displayName → ∀ aliasName,
      bindingName .pascalName aliasName displayName = "_")
  ∧ (IsLegible displayName → ∀ aliasName,
      bindingName .pascalName aliasName displayName = "_" →
      ¬ Text.HoldsAscii displayName ∧ ¬ Text.HoldsAscii aliasName)
  ∧ (IsLegible displayName → ¬ Contributes displayName →
      ∀ otherName, IsLegible otherName → ¬ Contributes otherName →
      ∀ aliasName otherAlias,
      (bindingName .pascalName aliasName displayName
          = bindingName .pascalName otherAlias otherName
        ↔ bindingName .pascalAlias aliasName displayName
          = bindingName .pascalAlias otherAlias otherName))
  := by
  refine ⟨⟨?_, ?_⟩, ?_, ?_, ?_⟩
  · intro h aliasName hnothing
    apply bindingName_of_not_contributes h hnothing
  · intro hfalls
    by_contra h
    have hletter : Text.HoldsAscii "a" := by decide
    apply bindingName_pascalAlias_ne_underscore hletter
    rw [← hfalls "a" (not_or.mp h).1]
    apply bindingName_of_not_isLegible h
  · intro h aliasName
    apply bindingName_of_not_isLegible h
  · intro h aliasName hname
    apply not_holdsAscii_of_bindingName_eq h hname
  · intro h hnothing otherName hother hothernothing aliasName otherAlias
    rw [bindingName_of_not_contributes h hnothing,
      bindingName_of_not_contributes hother hothernothing]

/-- An ellipsis has no words, so that types with this display name are named by their aliases. -/
theorem ellipsis_falls_back :
  IsLegible "…"
  ∧ bindingName .pascalName "page" "…" = "Page"
  ∧ bindingName .pascalName "page" "…" ≠ bindingName .pascalName "post" "…"
  := by
  have hlegible : IsLegible "…" := .inr (by decide +kernel)
  have hnothing : ¬ Contributes "…" := by decide +kernel
  obtain ⟨hfalls, -, -, hsame⟩ := falls_back_to_alias "…"
  refine ⟨hlegible, ?_, ?_⟩
  · rw [hfalls.mp hlegible "page" hnothing]
    decide +kernel
  · rw [ne_eq, hsame hlegible hnothing "…" hlegible hnothing]
    decide +kernel

end NamingPolicy

end LiveModels
