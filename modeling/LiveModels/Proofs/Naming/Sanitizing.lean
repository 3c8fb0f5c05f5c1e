import LiveModels.Proofs.Naming.Identifier
import LiveModels.Proofs.Source.Declared

/-!
# Texts made into identifiers

Every text can be made into an identifier, and an identifier is made into itself. Nothing but the
characters that cannot stand in an identifier gets lost: those that can are kept in their order, and
at most one underscore is put before them and one after them. So a binding name is read whole where
it is declared.
-/

namespace LiveModels

namespace Identifier

/-- A name that can be declared. -/
structure IsValid (name : String) : Prop where
  ne_empty : name ≠ ""
  characters : ∀ c ∈ name.toList, c.isAlphanum = true ∨ c = '_'
  head : ∀ c, name.toList.head? = some c → c.isDigit = false
  not_reserved : name ∉ reserved

/-- The characters of a text that may stand in an identifier. -/
def kept (s : String) : List Char :=
  s.toList.filter isIdentifierCharacter

/-- The underscore before characters of which there are none or the first is a digit. -/
def leading (s : List Char) : List Char :=
  if s.head?.all Char.isDigit then ['_'] else []

/-- The underscore after a reserved word. -/
def trailing (s : List Char) : List Char :=
  if String.ofList s ∈ reserved then ['_'] else []

theorem isIdentifierCharacter_iff {c : Char} :
  isIdentifierCharacter c = true ↔ c.isAlphanum = true ∨ c = '_'
  := by
  rw [isIdentifierCharacter, Bool.or_eq_true, beq_iff_eq]

theorem isReserved_iff {s : List Char} :
  isReserved s = true ↔ String.ofList s ∈ reserved
  := by
  rw [isReserved, List.any_eq_true]
  constructor
  · rintro ⟨word, hword, hs⟩
    rwa [← beq_iff_eq.mp hs, String.ofList_toList]
  · intro h
    use String.ofList s, h
    rw [String.toList_ofList, beq_self_eq_true]

/-- No reserved word begins with a digit or has an underscore. -/
theorem of_mem_reserved :
  ∀ word ∈ reserved, word.toList.head?.all Char.isDigit = false ∧ '_' ∉ word.toList
  := by
  decide +kernel

/-- The characters that are kept stand between the underscores. -/
theorem toList_sanitize (s : String) :
  (sanitize s).toList = leading (kept s) ++ kept s ++ trailing (kept s)
  := by
  have hdigit : ∀ {t : List Char}, t.head?.all Char.isDigit = true → trailing t = [] := by
    intro t ht
    rw [trailing, if_neg]
    intro hmem
    have hword := (of_mem_reserved _ hmem).1
    rw [String.toList_ofList, ht] at hword
    cases hword
  rw [sanitize, String.toList_ofList, ofCharacters, ← kept]
  split
  case h_1 hnone =>
    rw [hnone, hdigit rfl]
    rfl
  case h_2 c rest hsome =>
    rw [hsome]
    split
    case isTrue hc =>
      have hall : (c :: rest).head?.all Char.isDigit = true := hc
      rw [leading, if_pos hall, hdigit hall, List.append_nil]
      rfl
    case isFalse hc =>
      have hnone : leading (c :: rest) = [] := if_neg hc
      rw [hnone, List.nil_append, trailing]
      by_cases hreserved : isReserved (c :: rest) = true
      · rw [if_pos hreserved, if_pos (isReserved_iff.mp hreserved)]
      · rw [if_neg hreserved, if_neg (mt isReserved_iff.mpr hreserved), List.append_nil]

/-- What is made of a text does not begin with a digit: if the kept characters begin otherwise, they
are not preceded by anything, and there are some. -/
theorem head_sanitize {s : String} {c : Char} (h : (sanitize s).toList.head? = some c) :
  c.isDigit = false
  := by
  rw [toList_sanitize, leading] at h
  split at h
  case isTrue =>
    cases h
    rfl
  case isFalse hnone =>
    cases hkept : kept s with
    | nil =>
      rw [hkept] at hnone
      exact absurd rfl hnone
    | cons d rest =>
      rw [hkept] at h hnone
      cases h
      rw [← Bool.not_eq_true]
      exact hnone

/-- What is made of a text is not reserved: a reserved word has no underscore, so that it would be
made of itself, and then an underscore comes after it. -/
theorem sanitize_not_mem_reserved (s : String) :
  sanitize s ∉ reserved
  := by
  intro hmem
  have hfree := (of_mem_reserved _ hmem).2
  rw [toList_sanitize, List.mem_append, List.mem_append, not_or, not_or] at hfree
  have hleading : leading (kept s) = [] := by
    rw [leading, ite_eq_right_iff]
    intro h
    rw [leading, if_pos h] at hfree
    exact absurd List.mem_cons_self hfree.1.1
  have htrailing : ¬ String.ofList (kept s) ∈ reserved := by
    intro h
    rw [trailing, if_pos h] at hfree
    exact hfree.2 List.mem_cons_self
  have hname : sanitize s = String.ofList (kept s) := by
    rw [← String.toList_inj, toList_sanitize, hleading, trailing, if_neg htrailing,
      String.toList_ofList, List.nil_append, List.append_nil]
  apply htrailing
  rwa [← hname]

theorem isValid_sanitize (s : String) :
  IsValid (sanitize s)
  where
  ne_empty := sanitize_ne_empty s
  characters c hc := isIdentifierCharacter_iff.mp (isPlain_sanitize s c hc)
  head _ := head_sanitize
  not_reserved := sanitize_not_mem_reserved s

/-- All characters of an identifier are kept, and nothing is put around them. -/
theorem IsValid.sanitize_eq {s : String} (h : IsValid s) :
  sanitize s = s
  := by
  have hkept : kept s = s.toList := by
    rw [kept, List.filter_eq_self]
    intro c hc
    apply isIdentifierCharacter_iff.mpr (h.characters c hc)
  have hleading : leading s.toList = [] := by
    rw [leading, if_neg]
    cases hs : s.toList with
    | nil => exact absurd (String.toList_eq_nil_iff.mp hs) h.ne_empty
    | cons c rest =>
      have hc := h.head c (by rw [hs]; rfl)
      simpa using hc
  have htrailing : trailing s.toList = [] := by
    rw [trailing, String.ofList_toList, if_neg h.not_reserved]
  rw [← String.toList_inj, toList_sanitize, hkept, hleading, htrailing, List.nil_append,
    List.append_nil]

end Identifier

/-- A structure with a binding name is read as declared under the whole name, whatever annotation
has been read before. -/
theorem NamingPolicy.read?_bindingName (policy : NamingPolicy) (aliasName displayName : String)
    {s rest : List Char} {given : Option (List Char)}
    (h : Declaration.readAnnotation? s = some (given,
      ("]\npub struct " ++ policy.bindingName aliasName displayName ++ ";").toList ++ rest)) :
  Declaration.read? (attributeWord ++ s) =
    some (⟨policy.bindingName aliasName displayName,
      given.map fun body => String.ofList (Text.unescape body)⟩, ';' :: rest)
  := by
  have hname := Declaration.readName?_word (policy.bindingName_ne_empty aliasName displayName)
    (policy.isPlain_bindingName aliasName displayName).isWord rest
  have htext : ("]\npub struct " ++ policy.bindingName aliasName displayName ++ ";").toList ++ rest =
      ']' :: '\n' :: ("pub struct ".toList ++
        (policy.bindingName aliasName displayName).toList ++ ';' :: rest) := by
    simp
  rw [Declaration.read?_eq, Text.afterWord?_append, Option.bind_some, h, Option.bind_some, htext,
    Declaration.finish?, hname, Option.map_some]

/-- Every text is made into an identifier that can be declared, and made into itself if it can be
declared. It is the characters that may stand in an identifier, between an underscore if there are
none or the first is a digit, and one if they are a reserved word. A binding name is read whole
where it is declared. -/
theorem Identifier.sanitize_exact :
  (∀ s, IsValid (sanitize s) ∧
      (sanitize s).toList = leading (kept s) ++ kept s ++ trailing (kept s) ∧
      (kept s = [] → sanitize s = "_") ∧
      (IsValid s → sanitize s = s) ∧
      sanitize (sanitize s) = sanitize s) ∧
    ∀ (policy : NamingPolicy) (aliasName displayName : String) (s rest : List Char)
      (given : Option (List Char)),
      Declaration.readAnnotation? s = some (given,
        ("]\npub struct " ++ policy.bindingName aliasName displayName ++ ";").toList ++ rest) →
      Declaration.read? (attributeWord ++ s) =
        some (⟨policy.bindingName aliasName displayName,
          given.map fun body => String.ofList (Text.unescape body)⟩, ';' :: rest)
  := by
  constructor
  · intro s
    refine ⟨isValid_sanitize s, toList_sanitize s, ?_, IsValid.sanitize_eq, ?_⟩
    · intro hnone
      rw [← String.toList_inj, toList_sanitize, hnone]
      decide
    · apply (isValid_sanitize s).sanitize_eq
  · intro policy aliasName displayName s rest given h
    apply policy.read?_bindingName aliasName displayName h

/-- Columns are named by a text that begins with a digit, and an ellipsis leaves nothing to be
kept. -/
theorem Identifier.columns_sanitized :
  IsValid "Page" ∧ sanitize "Page" = "Page" ∧
    kept "…" = [] ∧ sanitize "…" = "_" ∧
    Declaration.readAnnotation? "]\npub struct _2Columns; // wide".toList =
      some (none, "]\npub struct _2Columns; // wide".toList) ∧
    Declaration.read? "#[model]\npub struct _2Columns; // wide".toList =
      some (⟨"_2Columns", none⟩, "; // wide".toList)
  := by
  have hpage : IsValid "Page" := by
    refine ⟨by decide, by simp, ?_, by decide⟩
    intro c hc
    cases hc
    rfl
  have hnone : kept "…" = [] := by decide +kernel
  have hname : NamingPolicy.bindingName .pascalAlias "2 columns" "" = "_2Columns" := by
    decide +kernel
  have hread := sanitize_exact.2 .pascalAlias "2 columns" ""
    "]\npub struct _2Columns; // wide".toList " // wide".toList none (by rw [hname]; rfl)
  rw [hname] at hread
  exact ⟨hpage, (sanitize_exact.1 "Page").2.2.2.1 hpage, hnone,
    (sanitize_exact.1 "…").2.2.1 hnone, rfl, hread⟩

end LiveModels
