import LiveModels.Naming.Policy
import LiveModels.Proofs.Text.Camel
import Mathlib.Data.List.Basic

/-!
# Characters of binding names

Whatever the alias and the display name are, a binding name is made of identifier characters.
-/

namespace LiveModels

namespace Identifier

/-- Whether a name is made of identifier characters. -/
def IsPlain (name : String) : Prop :=
  ∀ c ∈ name.toList, isIdentifierCharacter c = true

theorem isPlain_sanitize (s : String) :
  IsPlain (sanitize s)
  := by
  intro c hc
  rw [sanitize, String.toList_ofList] at hc
  have hkept : ∀ d ∈ s.toList.filter isIdentifierCharacter, isIdentifierCharacter d = true := by
    intro d hd
    apply (List.mem_filter.mp hd).2
  unfold ofCharacters at hc
  split at hc
  case h_1 =>
    rw [List.mem_singleton.mp hc]
    decide
  case h_2 d rest hd =>
    rw [hd] at hkept
    split at hc
    · rcases List.mem_cons.mp hc with rfl | hc
      · decide
      · apply hkept c hc
    · split at hc
      · rcases List.mem_append.mp hc with hc | hc
        · apply hkept c hc
        · rw [List.mem_singleton.mp hc]
          decide
      · apply hkept c hc

theorem sanitize_ne_empty (s : String) :
  sanitize s ≠ ""
  := by
  intro h
  have hnil : ofCharacters s.toList = [] := by
    rw [← String.toList_ofList (l := ofCharacters s.toList), ← sanitize, h]
    rfl
  unfold ofCharacters at hnil
  split at hnil
  · cases hnil
  · split at hnil
    · cases hnil
    · split at hnil <;> cases hnil

/-- A character that stands in no identifier does not stand in a plain name. -/
theorem IsPlain.not_mem {name : String} {k : Char} (h : IsPlain name)
    (hk : isIdentifierCharacter k = false) :
  k ∉ name.toList
  := by
  intro hmem
  rw [h k hmem] at hk
  cases hk

theorem isWordCharacter_of_isIdentifierCharacter {c : Char} (h : isIdentifierCharacter c = true) :
  Text.isWordCharacter c = true
  := by
  have hascii : c.toNat < 0x80 := by
    rcases Bool.or_eq_true_iff.mp h with hletter | hunderscore
    · apply Text.toNat_lt_of_isAsciiAlphanumeric hletter
    · rw [beq_iff_eq.mp hunderscore]
      decide
  rw [Text.isWordCharacter, if_pos hascii]
  apply h

end Identifier

/-- Whether a name is made of word characters. -/
def Text.IsWord (name : String) : Prop :=
  ∀ c ∈ name.toList, isWordCharacter c = true

theorem Text.IsWord.not_mem {name : String} {k : Char} (h : IsWord name)
    (hk : isWordCharacter k = false) :
  k ∉ name.toList
  := by
  intro hmem
  rw [h k hmem] at hk
  cases hk

theorem Identifier.IsPlain.isWord {name : String} (h : IsPlain name) :
  Text.IsWord name
  := fun c hc => isWordCharacter_of_isIdentifierCharacter (h c hc)

theorem NamingPolicy.isPlain_bindingName (policy : NamingPolicy) (aliasName displayName : String) :
  Identifier.IsPlain (policy.bindingName aliasName displayName)
  := Identifier.isPlain_sanitize _

theorem NamingPolicy.bindingName_ne_empty (policy : NamingPolicy) (aliasName displayName : String) :
  policy.bindingName aliasName displayName ≠ ""
  := Identifier.sanitize_ne_empty _

end LiveModels
