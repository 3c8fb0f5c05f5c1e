import LiveModels.Proofs.Source.Agreement
import LiveModels.Proofs.Text.Blank

/-!
# What is declared for a snapshot

The emitted source of a snapshot declares a model for each type that no user declares, and nothing
else, if the texts that are emitted as comments do not mention an attribute. Aliases may mention it,
as they are read as quoted texts.
-/

namespace LiveModels

open Text Declaration

/-! ### Marked words -/

/-- A word that stands on one line, has neither a space nor a colon and has a mark which no
identifier has. -/
structure IsMarked (word : List Char) : Prop where
  no_space : ' ' ∉ word
  no_colon : ':' ∉ word
  no_feed : '\n' ∉ word
  mark : ∃ k ∈ word, k = '#' ∨ k = '!'

theorem isMarked_attributeWord :
  IsMarked attributeWord
  := ⟨by decide, by decide, by decide, '#', by decide, .inl rfl⟩

theorem isMarked_errorWord :
  IsMarked errorWord
  := ⟨by decide, by decide, by decide, '!', by decide, .inr rfl⟩

namespace IsMarked

variable {word s t : List Char}

theorem ne_nil (h : IsMarked word) :
  word ≠ []
  := by
  obtain ⟨k, hk, -⟩ := h.mark
  apply List.ne_nil_of_mem hk

/-- A text without marks does not mention a marked word. -/
theorem not_infix (h : IsMarked word) (hhash : '#' ∉ s) (hmark : '!' ∉ s) :
  ¬ word <:+: s
  := by
  intro hin
  obtain ⟨k, hk, rfl | rfl⟩ := h.mark
  · apply hhash (hin.subset hk)
  · apply hmark (hin.subset hk)

theorem not_infix_append_space (h : IsMarked word) (hs : ¬ word <:+: s) (ht : ¬ word <:+: t) :
  ¬ word <:+: s ++ ' ' :: t
  := by
  rw [infix_append_cons_iff h.no_space h.ne_nil, not_or]
  exact ⟨hs, ht⟩

/-- Lines mention a marked word if and only if one of them does. -/
theorem not_infix_joinLines (h : IsMarked word) {ls : List (List Char)}
    (hls : ∀ l ∈ ls, ¬ word <:+: l) :
  ¬ word <:+: joinLines ls
  := by
  induction ls with
  | nil =>
    intro hnil
    apply h.ne_nil (List.infix_nil.mp hnil)
  | cons l ls ih =>
    rw [List.forall_mem_cons] at hls
    rw [joinLines_cons, infix_append_cons_iff h.no_feed h.ne_nil, not_or]
    exact ⟨hls.1, ih hls.2⟩

end IsMarked

/-! ### Comments and notes -/

/-- No text that is emitted as a comment or as a note mentions a word: no display name, no
description, and no type of a property as it is rendered. -/
structure Snapshot.Avoids (s : Snapshot) (word : List Char) : Prop where
  names : ∀ t ∈ s.types, ¬ word <:+: t.displayName.toList
  descriptions : ∀ t ∈ s.types, ∀ d, t.description = some d → ¬ word <:+: d.toList
  types : ∀ t ∈ s.types, ∀ p ∈ t.properties,
    ¬ word <:+: (p.type.mapModels (Emission.resolve s)).text.toList

/-- No text that is emitted as a comment or in a note mentions a word, nor does the name of a
property. -/
structure Snapshot.IsFreeOf (s : Snapshot) (word : List Char) : Prop extends
    Snapshot.Avoids s word where
  properties : ∀ t ∈ s.types, ∀ p ∈ t.properties, ¬ word <:+: p.bindingName.toList

/-- A name that is made of identifier characters mentions no marked word. -/
theorem Snapshot.Avoids.isFreeOf {s : Snapshot} {word : List Char} (h : s.Avoids word)
    (hword : IsMarked word) (hs : s.IsNamed) :
  s.IsFreeOf word
  := by
  refine ⟨h, fun t ht p hp => ?_⟩
  have hname := hs.properties t ht p hp
  apply hword.not_infix (hname.not_mem rfl) (hname.not_mem rfl)

namespace Emission

variable {s : Snapshot} {t : TypeDescriptor} {word : List Char}

theorem not_infix_of_mem_commentLines (hword : IsMarked word) {text l : String}
    (h : ¬ word <:+: text.toList) (hl : l ∈ commentLines text) :
  ¬ word <:+: l.toList
  := by
  obtain ⟨line, hline, rfl⟩ := List.mem_map.mp hl
  have hslash : ("/// " ++ String.ofList line).toList = ['/', '/', '/'] ++ ' ' :: line := by simp
  rw [hslash]
  apply hword.not_infix_append_space
  · apply hword.not_infix (by decide) (by decide)
  · intro hin
    apply h (hin.trans (infix_of_mem_lines hline))

/-- No line before a declaration mentions a word that the snapshot avoids. -/
theorem not_infix_of_mem_comments (hword : IsMarked word) (h : s.Avoids word) (ht : t ∈ s.types)
    {l : String} (hl : l ∈ "" :: comments t) :
  ¬ word <:+: l.toList
  := by
  rw [comments, List.mem_cons, List.mem_append] at hl
  rcases hl with rfl | hl | hl
  · apply hword.not_infix (by decide) (by decide)
  · apply not_infix_of_mem_commentLines hword (h.names t ht) hl
  · split at hl
    case h_1 d hd =>
      split at hl
      · cases hl
      · rcases List.mem_cons.mp hl with rfl | hl
        · apply hword.not_infix (by decide) (by decide)
        · apply not_infix_of_mem_commentLines hword (h.descriptions t ht d hd) hl
    · cases hl

/-- No line after a declaration mentions a word that the snapshot avoids. -/
theorem not_infix_of_mem_notes (hword : IsMarked word)
    (hs : ∀ u ∈ s.types, IsWord u.bindingName) (h : s.IsFreeOf word) (ht : t ∈ s.types) {l : String}
    (hl : l ∈ notes s t) :
  ¬ word <:+: l.toList
  := by
  rw [notes_eq, List.mem_append, List.map_map, List.mem_map] at hl
  rcases hl with hl | ⟨p, hp, rfl⟩
  · have hnone := (of_mem_linkNotes hs hl).2
    apply hword.not_infix (hnone '#' (by simp)) (hnone '!' (by simp))
  · have hnote : (noteOf (resolve s) p.told).toList =
        "// property".toList ++ ' ' :: (p.bindingName.toList ++
          ':' :: ' ' :: (p.type.mapModels (resolve s)).text.toList) := by
      have hcolon : ": ".toList = [':', ' '] := rfl
      have hproperty : "// property ".toList = "// property".toList ++ [' '] := rfl
      simp only [noteOf, PropertyDescriptor.told, String.toList_append, hproperty, hcolon,
        List.append_assoc, List.cons_append, List.nil_append]
    rw [Function.comp_apply, hnote]
    apply hword.not_infix_append_space
    · apply hword.not_infix (by decide) (by decide)
    · rw [infix_append_cons_iff hword.no_colon hword.ne_nil, not_or]
      refine ⟨h.properties t ht p hp, ?_⟩
      rw [← List.nil_append (' ' :: _)]
      apply hword.not_infix_append_space
      · apply hword.not_infix (by decide) (by decide)
      · apply h.types t ht p hp

end Emission

/-! ### Scanning -/

namespace Declaration

variable {s rest : List Char}

/-- Nothing is declared on a line that does not mention an attribute. -/
theorem scan_line (h : ¬ attributeWord <:+: s) (rest : List Char) :
  scan (s ++ '\n' :: rest) = scan rest
  := by
  have hfeed : '\n' ∉ attributeWord := by decide
  have hread : ∀ {s : List Char}, ¬ attributeWord <:+: s → read? (s ++ '\n' :: rest) = none := by
    intro s hs
    rw [read?_eq, afterWord?_stop hfeed, afterWord?_eq_none hs]
    rfl
  induction s with
  | nil => exact scan_of_none (hread h)
  | cons c s ih =>
    have hnone := hread h
    rw [List.cons_append] at hnone ⊢
    rw [scan_of_none hnone]
    apply ih
    intro hin
    apply h (hin.trans (List.suffix_cons c s).isInfix)

/-- Nothing is declared on lines that do not mention an attribute. -/
theorem scan_joinLines {ls : List (List Char)} (h : ∀ l ∈ ls, ¬ attributeWord <:+: l)
    (rest : List Char) :
  scan (joinLines ls ++ rest) = scan rest
  := by
  induction ls with
  | nil => rfl
  | cons l ls ih =>
    rw [List.forall_mem_cons] at h
    rw [joinLines_cons, List.append_assoc, List.cons_append, scan_line h.1, ih h.2]

/-- A text that asks for a compile error mentions one. -/
theorem hasError_eq_false (h : ¬ errorWord <:+: s) :
  hasError s = false
  := by
  induction s with
  | nil => rfl
  | cons c s ih =>
    have hread : (readCompileError? (c :: s)).isSome = false := by
      rw [isSome_readCompileError?, openError?, afterWord?_eq_none h]
      rfl
    rw [hasError_cons, hread, ih, Bool.or_false]
    intro hin
    apply h (hin.trans (List.suffix_cons c s).isInfix)

/-- The name of a structure is read whole if it is a word. -/
theorem readName?_word {name : String} (hne : name ≠ "") (hword : IsWord name) (rest : List Char) :
  readName? (']' :: '\n' :: ("pub struct ".toList ++ name.toList ++ ';' :: rest)) =
    some (name, ';' :: rest)
  := by
  have hname : name.toList ≠ [] := by
    intro hnil
    apply hne
    rw [← String.toList_inj, hnil]
    rfl
  have htake : (name.toList ++ ';' :: rest).takeWhile isWordCharacter = name.toList := by
    rw [List.takeWhile_append_of_pos hword, List.takeWhile_cons_of_neg (by decide), List.append_nil]
  have hdrop : (name.toList ++ ';' :: rest).dropWhile isWordCharacter = ';' :: rest := by
    rw [List.dropWhile_append_of_pos hword, List.dropWhile_cons_of_neg (by decide)]
  have hblank : trimStart (name.toList ++ ';' :: rest) = name.toList ++ ';' :: rest := by
    obtain ⟨c, cs, hcons⟩ := List.exists_cons_of_ne_nil hname
    rw [hcons, List.cons_append]
    apply trimStart_cons_of_not_blank
    apply isBlank_of_isWordCharacter (hword c _)
    rw [hcons]
    apply List.mem_cons_self
  have hread : readName? (']' :: '\n' :: ("pub struct ".toList ++ name.toList ++ ';' :: rest)) = (do
      let s ← afterBlank? (' ' :: (name.toList ++ ';' :: rest))
      let name := s.takeWhile isWordCharacter
      if name.isEmpty then none
      return (String.ofList name, s.dropWhile isWordCharacter)) := rfl
  rw [hread, afterBlank?, if_pos (by decide), hblank]
  simp only [Option.bind_eq_bind, Option.bind_some, htake, hdrop, List.isEmpty_iff, hname, if_false,
    String.ofList_toList]
  rfl

/-- The declaration of a model with an alias is read back, whatever follows it. -/
theorem read?_opened {aliasName name : String} (halias : aliasName ≠ "") (hne : name ≠ "")
    (hword : IsWord name) (rest : List Char) :
  read? (opened (escape aliasName.toList ++
      '"' :: ')' :: ']' :: '\n' :: ("pub struct ".toList ++ name.toList ++ ';' :: rest))) =
    some (⟨name, some aliasName⟩, ';' :: rest)
  := by
  have hescape : escape aliasName.toList ≠ [] := by
    intro hnil
    apply halias
    rw [← String.toList_inj, ← unescape_escape aliasName.toList, hnil, unescape]
    rfl
  have hattribute : ∀ z, afterWord? attributeWord (opened z) =
      some ('(' :: 'a' :: 'l' :: 'i' :: 'a' :: 's' :: ' ' :: '=' :: ' ' :: '"' :: z) := fun z => rfl
  have hopen : ∀ z, openAlias? ('a' :: 'l' :: 'i' :: 'a' :: 's' :: ' ' :: '=' :: ' ' :: '"' :: z) =
      some z := fun z => rfl
  have hclose : ∀ z, closeAlias? (escape aliasName.toList, ')' :: z) =
      some (escape aliasName.toList, z) := by
    intro z
    rw [closeAlias?, if_neg (by simpa using hescape)]
    rfl
  rw [read?_eq, hattribute, Option.bind_some, readAnnotation?, readAlias?_eq, hopen,
    Option.bind_some, readLiteral?_escape, Option.bind_some, hclose, Option.map_some,
    Option.bind_some, finish?, readName?_word hne hword, Option.map_some, Option.map_some,
    unescape_escape, String.ofList_toList]

end Declaration

/-! ### Declarations -/

/-- The model that is declared for a type. -/
def TypeDescriptor.model (t : TypeDescriptor) : Declaration :=
  ⟨t.bindingName, some t.aliasName⟩

/-- Whether a type has an alias, and a binding name that is a word, as every identifier is. -/
structure TypeDescriptor.IsDeclarable (t : TypeDescriptor) : Prop where
  aliasName : t.aliasName ≠ ""
  bindingName : t.bindingName ≠ ""
  isWord : IsWord t.bindingName

namespace Emission

variable {s : Snapshot} {t : TypeDescriptor}

/-- The text of a declaration. -/
def declarationText (t : TypeDescriptor) : List Char :=
  opened (escape t.aliasName.toList ++ '"' :: closing t) ++ [';', '\n']

/-- A declaration is read back. -/
theorem read?_declarationText (h : t.IsDeclarable) (rest : List Char) :
  read? (declarationText t ++ rest) = some (t.model, ';' :: '\n' :: rest)
  := by
  have hread := read?_opened h.aliasName h.bindingName h.isWord ('\n' :: rest)
  rw [declarationText, List.append_assoc, opened_append, List.append_assoc, List.cons_append]
  simpa only [TypeDescriptor.model, closing, List.cons_append, List.nil_append,
    List.append_assoc] using hread

/-- A declaration declares the model of its type, and leaves what follows to be scanned. -/
theorem scan_declarationText (h : t.IsDeclarable) (rest : List Char) :
  scan (declarationText t ++ rest) = t.model :: scan rest
  := by
  have hread := read?_declarationText h rest
  have hrest : scan (';' :: '\n' :: rest) = scan rest := by
    apply scan_line (s := [';'])
    apply isMarked_attributeWord.not_infix (by decide) (by decide)
  rw [declarationText, opened, List.cons_append, List.cons_append] at hread ⊢
  rw [scan_of_some hread, hrest]

/-- The lines of a declaration are its text. -/
theorem joinLines_declaration (t : TypeDescriptor) :
  joinLines ((declaration t).map String.toList) = declarationText t
  := by
  rw [toList_declaration, declarationText, opened_append]
  simp [joinLines, opened, openedTail, closing]

/-- What stands between lines that do not mention an attribute is all that is declared. -/
theorem scan_between (h : t.IsDeclarable) {front back : List (List Char)}
    (hfront : ∀ l ∈ front, ¬ attributeWord <:+: l) (hback : ∀ l ∈ back, ¬ attributeWord <:+: l)
    (rest : List Char) :
  scan (joinLines front ++ declarationText t ++ joinLines back ++ rest) = t.model :: scan rest
  := by
  rw [List.append_assoc, List.append_assoc, scan_joinLines hfront, scan_declarationText h,
    scan_joinLines hback]

/-- The types of a snapshot can be declared. -/
def AreDeclarable (s : Snapshot) : Prop :=
  ∀ t ∈ s.types, t.IsDeclarable

theorem AreDeclarable.isWord (h : AreDeclarable s) :
  ∀ t ∈ s.types, IsWord t.bindingName
  := fun t ht => (h t ht).isWord

/-- The lines for a type declare its model. -/
theorem scan_typeLines (hdeclarable : AreDeclarable s) (hfree : s.IsFreeOf attributeWord)
    (ht : t ∈ s.types) (rest : List Char) :
  scan (joinLines ((typeLines s t).map String.toList) ++ rest) = t.model :: scan rest
  := by
  rw [typeLines_eq, frontLines, List.map_append, List.map_append, joinLines_append,
    joinLines_append, joinLines_declaration]
  apply scan_between (hdeclarable t ht)
  · rw [List.forall_mem_map]
    intro l hl
    apply not_infix_of_mem_comments isMarked_attributeWord hfree.toAvoids ht hl
  · rw [List.forall_mem_map]
    intro l hl
    apply not_infix_of_mem_notes isMarked_attributeWord hdeclarable.isWord hfree ht hl

theorem not_infix_of_mem_linesOf {word : List Char} {ls : List String}
    (h : ∀ l ∈ ls, ¬ word <:+: l.toList) {line : List Char} (hline : line ∈ linesOf ls) :
  ¬ word <:+: line
  := by
  obtain ⟨l, hl, hcut⟩ := List.mem_flatMap.mp hline
  intro hin
  apply h l hl (hin.trans (infix_of_mem_cut hcut))

/-- The part of a section for a type declares its model. -/
theorem scan_sectionText (hs : s.IsNamed) (hdeclarable : AreDeclarable s)
    (havoids : s.Avoids attributeWord) (ht : t ∈ s.types) (rest : List Char) :
  scan (sectionText (typeLines s t) ++ rest) = t.model :: scan rest
  := by
  rw [typeLines_eq, frontLines, sectionText_append, sectionText_append,
    sectionText_declaration (hs.types t ht)]
  apply scan_between (hdeclarable t ht)
  · intro line hline
    apply not_infix_of_mem_linesOf _ (List.mem_filter.mp hline).1
    intro l hl
    apply not_infix_of_mem_comments isMarked_attributeWord havoids ht hl
  · intro line hline
    apply not_infix_of_mem_linesOf _ (List.mem_filter.mp hline).1
    intro l hl
    apply not_infix_of_mem_notes isMarked_attributeWord hs.isWord
      (havoids.isFreeOf isMarked_attributeWord hs) ht hl

/-- Texts for types that declare their models, one after the other, declare the models of all of
them. -/
theorem scan_flatMap {text : TypeDescriptor → List Char} {ts : List TypeDescriptor}
    (h : ∀ t ∈ ts, ∀ rest, scan (text t ++ rest) = t.model :: scan rest) (rest : List Char) :
  scan (ts.flatMap text ++ rest) = ts.map TypeDescriptor.model ++ scan rest
  := by
  induction ts with
  | nil => rfl
  | cons t ts ih =>
    rw [List.forall_mem_cons] at h
    rw [List.flatMap_cons, List.append_assoc, h.1, ih h.2, List.map_cons, List.cons_append]

/-- The emitted source declares the models of the types for which one is emitted. -/
theorem declared_emit (hdeclarable : AreDeclarable s) (hfree : s.IsFreeOf attributeWord)
    (files : UserFiles) :
  Declaration.declared (emit s files) = (emittedTypes s files).map TypeDescriptor.model
  := by
  have htypes : ∀ t ∈ emittedTypes s files, ∀ rest,
      scan (joinLines ((typeLines s t).map String.toList) ++ rest) = t.model :: scan rest := by
    intro t ht
    apply scan_typeLines hdeclarable hfree (mem_types_of_mem_emittedTypes ht)
  have hpreamble : ¬ attributeWord <:+: preamble.toList :=
    isMarked_attributeWord.not_infix (by decide) (by decide)
  rw [Declaration.declared, emit, toList_unlines, emittedLines, List.map_cons, joinLines_cons,
    scan_line hpreamble, List.map_flatMap, joinLines_flatMap, ← List.append_nil (List.flatMap _ _),
    scan_flatMap htypes, scan_nil, List.append_nil]

/-! ### Types for which a model is emitted -/

/-- Whether a file declares a model for an alias, without regard to letter case. -/
def IsDeclared (files : UserFiles) (aliasName : String) : Prop :=
  ∃ f ∈ files, ∃ d ∈ Declaration.declared f.2, lower d.effectiveAlias = lower aliasName

theorem mem_emittedTypes_iff {files : UserFiles} :
  t ∈ emittedTypes s files ↔ t ∈ s.types ∧ ¬ IsDeclared files t.aliasName
  := by
  have hdeclared : lower t.aliasName ∈ declaredAliases files ↔ IsDeclared files t.aliasName := by
    simp only [declaredAliases, List.mem_map, List.mem_flatMap, IsDeclared]
    constructor
    · rintro ⟨d, ⟨f, hf, hd⟩, heq⟩
      exact ⟨f, hf, d, hd, heq⟩
    · rintro ⟨f, hf, d, hd, heq⟩
      exact ⟨d, ⟨f, hf, hd⟩, heq⟩
  rw [emittedTypes, List.mem_filter, Snapshot.mem_byAlias, ← hdeclared, Bool.not_eq_true',
    ← Bool.not_eq_true, List.contains_iff_mem]

/-- Models are emitted in the order of the aliases, each once. -/
theorem pairwise_emittedTypes (hs : s.IsNamed) (files : UserFiles) :
  (emittedTypes s files).Pairwise fun t t' => t.aliasName < t'.aliasName
  := by
  apply List.Pairwise.filter
  apply pairwise_lt_mergeSort
  apply List.Nodup.of_map lower
  rw [List.map_map]
  apply hs.nodup

end Emission

end LiveModels
