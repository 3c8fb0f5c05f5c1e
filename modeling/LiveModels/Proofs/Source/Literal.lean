import LiveModels.Proofs.Source.Declared

/-!
# Aliases in quotes

An alias is written into the attribute of a model as a quoted text. Whatever the alias is, the scan
stops at the quote that closes it, so that a declaration inside of the quotes is not seen, and reads
the same alias back. The name of the model is read whole if it is a word, and no other name is ever
read. What follows the name is scanned as if it stood alone.
-/

namespace LiveModels

open Text

/-- A text in double quotes is the escaped text between two quotes. -/
theorem Text.toList_quote (s : String) :
  (quote s).toList = '"' :: escape s.toList ++ ['"']
  := String.toList_ofList

namespace Declaration

variable {s rest : List Char} {d : Declaration} {aliasName name : String}

/-! ### Names -/

/-- The name of a structure that is read is a word. -/
theorem isWord_of_readName? (h : readName? s = some (name, rest)) :
  name ≠ "" ∧ IsWord name
  := by
  simp only [readName?, Option.bind_eq_bind, Option.bind_eq_some_iff] at h
  obtain ⟨_, -, _, -, _, -, _, -, named, -, h⟩ := h
  split at h
  case isTrue => cases h
  case isFalse hsome =>
    cases h
    constructor
    · intro hnone
      apply hsome
      rw [List.isEmpty_iff, ← String.toList_ofList (l := named.takeWhile isWordCharacter), hnone]
      rfl
    · intro c hc
      rw [String.toList_ofList] at hc
      apply List.all_eq_true.mp List.all_takeWhile c hc

/-- Every model that is found has a word as its name. -/
theorem isWord_of_mem_scan (h : d ∈ scan s) :
  d.typeName ≠ "" ∧ IsWord d.typeName
  := by
  fun_induction scan s with
  | case1 => cases h
  | case2 c rest found after hread _ ih =>
    rcases List.mem_cons.mp h with rfl | hlater
    · rw [read?_eq] at hread
      obtain ⟨given, -, hfinish⟩ := Option.bind_eq_some_iff.mp hread
      obtain ⟨⟨name, _⟩, hname, heq⟩ := Option.map_eq_some_iff.mp hfinish
      cases heq
      apply isWord_of_readName? hname
    · apply ih hlater
  | case3 c rest _ ih => apply ih h

/-! ### Aliases -/

/-- The declaration of a model with a quoted alias, and what follows its name. -/
theorem toList_annotated (aliasName name rest : String) :
  ("#[model(alias = " ++ quote aliasName ++ ")]\npub struct " ++ name ++ ";" ++ rest).toList =
    opened (escape aliasName.toList ++
      '"' :: ')' :: ']' :: '\n' :: ("pub struct ".toList ++ name.toList ++ ';' :: rest.toList))
  := by
  have hfront : "#[model(alias = ".toList = '#' :: aliasWord ++ ['=', ' '] := rfl
  have hback : ")]\npub struct ".toList = ')' :: ']' :: '\n' :: "pub struct ".toList := rfl
  have hend : ";".toList = [';'] := rfl
  simp only [String.toList_append, toList_quote, hfront, hback, hend, opened, openedTail,
    List.append_assoc, List.cons_append, List.nil_append]

/-- A model that is declared with a quoted alias is found first, and the scan goes on after its
name. -/
theorem declared_annotated (halias : aliasName ≠ "") (hne : name ≠ "") (hword : IsWord name)
    (rest : String) :
  declared ("#[model(alias = " ++ quote aliasName ++ ")]\npub struct " ++ name ++ ";" ++ rest) =
    ⟨name, some aliasName⟩ :: declared (";" ++ rest)
  := by
  have hrest : (";" ++ rest).toList = ';' :: rest.toList := by
    rw [String.toList_append]
    rfl
  have hread := read?_opened halias hne hword rest.toList
  rw [declared, declared, hrest, toList_annotated]
  apply scan_of_some hread

/-- Every text is read back from what stands between the quotes of its literal, and the scan stops at
the quote that closes it. A model that is declared with an alias, which may be any text but the empty
one, and a name, which may be any word, is found first, with this name and this alias, and the scan
goes on after the name. Words are all the names that are found in any text. -/
theorem aliases_survive_quotes :
  (∀ s : String, ∃ body, (quote s).toList = '"' :: body ++ ['"'] ∧
      String.ofList (unescape body) = s ∧
      ∀ rest, readLiteral? (body ++ '"' :: rest) = some (body, rest)) ∧
    (∀ aliasName name rest : String, aliasName ≠ "" → name ≠ "" → IsWord name →
      declared ("#[model(alias = " ++ quote aliasName ++ ")]\npub struct " ++ name ++ ";" ++ rest) =
        ⟨name, some aliasName⟩ :: declared (";" ++ rest)) ∧
    ∀ source : String, ∀ d ∈ declared source, d.typeName ≠ "" ∧ IsWord d.typeName
  := by
  refine ⟨?_, ?_, fun source d => isWord_of_mem_scan⟩
  · intro s
    refine ⟨escape s.toList, toList_quote s, ?_, readLiteral?_escape s.toList⟩
    rw [unescape_escape, String.ofList_toList]
  · intro aliasName name rest halias hne hword
    apply declared_annotated halias hne hword

/-- An alias that reads as the end of its own attribute and another declaration is read back. -/
theorem nested_survives_quotes :
  IsWord "Page_2" ∧
    quote "\")] pub struct Evil; \\" = "\"\\\")] pub struct Evil; \\\\\"" ∧
    declared "#[model(alias = \"\\\")] pub struct Evil; \\\\\")]\npub struct Page_2; // second" =
      ⟨"Page_2", some "\")] pub struct Evil; \\"⟩ :: declared "; // second"
  := by
  have hword : "Page_2".toList.all isWordCharacter = true := by decide
  have hquote : quote "\")] pub struct Evil; \\" = "\"\\\")] pub struct Evil; \\\\\"" := by
    decide +kernel
  have hread := aliases_survive_quotes.2.1 "\")] pub struct Evil; \\" "Page_2" " // second"
    (by decide) (by decide) (List.all_eq_true.mp hword)
  rw [hquote] at hread
  exact ⟨List.all_eq_true.mp hword, hquote, hread⟩

end Declaration

end LiveModels
