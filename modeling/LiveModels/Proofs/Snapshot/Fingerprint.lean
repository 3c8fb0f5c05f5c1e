import LiveModels.Proofs.Digest.Combiner
import LiveModels.Proofs.Schema.RuntimeType
import LiveModels.Proofs.Text.Lines
import LiveModels.Proofs.Text.Number
import LiveModels.Proofs.Text.Order
import LiveModels.Snapshot.Fingerprint
import Mathlib.Data.List.Forall2
import Mathlib.Data.List.Nodup

/-!
# What fingerprints tell apart

The tokens of files and types carry no lengths, but they can be read in one way only. A file name
without a colon ends where the first colon stands, the mark of a type has no colon and so is not the
token of a file, and the tokens of a property are six, of which the first is not the mark of a type.

So files and types with the same tokens are the same, up to the order of types and of properties,
and except that no description counts as an empty one. If their fingerprints are the same and they
are not, then different sequences of tokens have the same hash.

Conversely the order of types and of properties does not count, if their aliases are different.
-/

namespace LiveModels

open Text

/-- A property whose description is the empty text if it has none. -/
def PropertyDescriptor.described (p : PropertyDescriptor) : PropertyDescriptor :=
  { p with description := some (p.description.getD "") }

/-- Whether two types are the same, up to the order of their properties, in all that is written
about them. Bases and the mark of mixins follow from the links. -/
structure TypeDescriptor.Matches (t t' : TypeDescriptor) : Prop where
  id : t.id = t'.id
  aliasName : t.aliasName = t'.aliasName
  bindingName : t.bindingName = t'.bindingName
  parentId : t.parentId = t'.parentId
  displayName : t.displayName = t'.displayName
  description : t.description.getD "" = t'.description.getD ""
  kind : t.kind = t'.kind
  mixins : t.mixins = t'.mixins
  properties : (t.properties.map PropertyDescriptor.described).Perm
    (t'.properties.map PropertyDescriptor.described)

namespace ItemKind

/-- Kinds with the same name are the same. -/
theorem label_inj {k k' : ItemKind} :
  k.label = k'.label ↔ k = k'
  := by
  cases k <;> cases k' <;> decide

end ItemKind

namespace Fingerprint

/-! ### Tokens of properties -/

/-- The token before a property. -/
def propertyMark : Token :=
  .text "--- PROPERTY ---"

/-- The token before a type. -/
def typeMark : Token :=
  .text "--- CONTENT TYPE MODEL ---"

/-- Properties are told apart by their tokens, whatever follows these. -/
theorem propertyTokens_append_inj {p p' : PropertyDescriptor} (h : p.type.IsRead) (h' : p'.type.IsRead)
    {rest rest' : List Token}
    (heq : propertyTokens p ++ rest = propertyTokens p' ++ rest') :
  p.described = p'.described ∧ rest = rest'
  := by
  simp only [propertyTokens, List.cons_append, List.nil_append, List.cons.injEq, Token.text.injEq,
    true_and] at heq
  obtain ⟨halias, hbinding, hdisplay, hdescription, htype, hrest⟩ := heq
  have hsame := h.eq_of_text_eq h' htype
  constructor
  · simp only [PropertyDescriptor.described, halias, hbinding, hdisplay, hdescription, hsame]
  · exact hrest

/-- Lists of properties are told apart by their tokens, if no further property follows. -/
theorem flatMap_propertyTokens_inj {ps ps' : List PropertyDescriptor} (h : ∀ p ∈ ps, p.type.IsRead)
    (h' : ∀ p ∈ ps', p.type.IsRead) {rest rest' : List Token} (hend : rest.head? ≠ some propertyMark)
    (hend' : rest'.head? ≠ some propertyMark)
    (heq : ps.flatMap propertyTokens ++ rest = ps'.flatMap propertyTokens ++ rest') :
  ps.map PropertyDescriptor.described = ps'.map PropertyDescriptor.described ∧ rest = rest'
  := by
  induction ps generalizing ps' with
  | nil =>
    cases ps' with
    | nil => exact ⟨rfl, heq⟩
    | cons p' ps' => exact absurd (congrArg List.head? heq) hend
  | cons p ps ih =>
    cases ps' with
    | nil => exact absurd (congrArg List.head? heq).symm hend'
    | cons p' ps' =>
      rw [List.forall_mem_cons] at h h'
      rw [List.flatMap_cons, List.flatMap_cons, List.append_assoc, List.append_assoc] at heq
      obtain ⟨hfirst, hothers⟩ := propertyTokens_append_inj h.1 h'.1 heq
      obtain ⟨hmap, hrest⟩ := ih h.2 h'.2 hothers
      rw [List.map_cons, List.map_cons, hfirst, hmap]
      exact ⟨rfl, hrest⟩

/-! ### Tokens of types -/

/-- Mixins are told apart by their ids in decimal digits with commas between them. -/
theorem intercalate_signedDecimal_inj {ids ids' : List Int} :
  ",".intercalate (ids.map signedDecimal) = ",".intercalate (ids'.map signedDecimal) ↔ ids = ids'
  := by
  have hdigits : ∀ ids : List Int,
      (",".intercalate (ids.map signedDecimal)).toList = join [','] (ids.map intDigits) := by
    intro ids
    rw [toList_intercalate, List.map_map]
    congr 1
    apply List.map_congr_left
    intro id _
    apply String.toList_ofList
  have hpieces : ∀ ids : List Int, ∀ piece ∈ ids.map intDigits, piece ≠ [] ∧ ',' ∉ piece := by
    intro ids piece hpiece
    obtain ⟨id, -, rfl⟩ := List.mem_map.mp hpiece
    use intDigits_ne_nil id
    intro hcomma
    rcases eq_or_isDigit_of_mem_intDigits hcomma with hminus | hdigit
    · cases hminus
    · cases hdigit
  rw [← String.toList_inj, hdigits, hdigits, join_inj (hpieces ids) (hpieces ids')]
  apply List.map_inj_right
  intro id id'
  apply intDigits_inj.mp

/-- The properties of a type are those that are written, in another order. -/
theorem perm_sortedProperties (t : TypeDescriptor) :
  (sortedProperties t).Perm t.properties
  := List.mergeSort_perm _ _

/-- Types are told apart by their tokens, if no further property follows. -/
theorem typeTokens_append_inj {t t' : TypeDescriptor} (h : ∀ p ∈ t.properties, p.type.IsRead)
    (h' : ∀ p ∈ t'.properties, p.type.IsRead) {rest rest' : List Token}
    (hend : rest.head? ≠ some propertyMark) (hend' : rest'.head? ≠ some propertyMark)
    (heq : typeTokens t ++ rest = typeTokens t' ++ rest') :
  t.Matches t' ∧ rest = rest'
  := by
  simp only [typeTokens, List.cons_append, List.nil_append, List.cons.injEq,
    Token.text.injEq, Token.int.injEq, true_and] at heq
  obtain ⟨hid, halias, hbinding, hparent, hdisplay, hdescription, hkind, hmixins, hlast⟩ := heq
  have hread : ∀ {t : TypeDescriptor}, (∀ p ∈ t.properties, p.type.IsRead) →
      ∀ p ∈ sortedProperties t, p.type.IsRead := by
    intro t ht p hp
    apply ht p ((perm_sortedProperties t).mem_iff.mp hp)
  obtain ⟨hmap, hrest⟩ := flatMap_propertyTokens_inj (hread h) (hread h') hend hend' hlast
  refine ⟨⟨hid, halias, hbinding, hparent, hdisplay, hdescription, ItemKind.label_inj.mp hkind, ?_,
    ?_⟩, hrest⟩
  · apply intercalate_signedDecimal_inj.mp
    apply String.toList_inj.mp
    have hlabel := String.toList_inj.mpr hmixins
    rw [String.toList_append, String.toList_append] at hlabel
    apply List.append_cancel_left hlabel
  · calc (t.properties.map PropertyDescriptor.described).Perm _ :=
          (perm_sortedProperties t).symm.map _
      _ = (sortedProperties t').map PropertyDescriptor.described := hmap
      List.Perm _ _ := (perm_sortedProperties t').map _

/-- What begins with the tokens of types does not begin with a property. -/
theorem head?_flatMap_typeTokens (ts : List TypeDescriptor) :
  (ts.flatMap typeTokens).head? ≠ some propertyMark
  := by
  cases ts with
  | nil => simp
  | cons t ts =>
    intro h
    have hmark : typeMark = propertyMark := Option.some.inj h
    simp [typeMark, propertyMark] at hmark

/-- Lists of types are told apart by their tokens. -/
theorem flatMap_typeTokens_inj {ts ts' : List TypeDescriptor}
    (h : ∀ t ∈ ts, ∀ p ∈ t.properties, p.type.IsRead) (h' : ∀ t ∈ ts', ∀ p ∈ t.properties, p.type.IsRead)
    (heq : ts.flatMap typeTokens = ts'.flatMap typeTokens) :
  List.Forall₂ TypeDescriptor.Matches ts ts'
  := by
  induction ts generalizing ts' with
  | nil =>
    cases ts' with
    | nil => apply List.Forall₂.nil
    | cons t' ts' => cases heq
  | cons t ts ih =>
    cases ts' with
    | nil => cases heq
    | cons t' ts' =>
      rw [List.forall_mem_cons] at h h'
      rw [List.flatMap_cons, List.flatMap_cons] at heq
      obtain ⟨hfirst, hothers⟩ := typeTokens_append_inj h.1 h'.1 (head?_flatMap_typeTokens ts)
        (head?_flatMap_typeTokens ts') heq
      apply List.Forall₂.cons hfirst (ih h.2 h'.2 hothers)

/-! ### Tokens of files -/

/-- Files are told apart by their tokens. -/
theorem fileToken_inj {file file' : String × String} (h : ':' ∉ file.1.toList)
    (h' : ':' ∉ file'.1.toList) :
  fileToken file = fileToken file' ↔ file = file'
  := by
  constructor
  · intro heq
    have hlist : file.1.toList ++ ':' :: ':' :: file.2.toList =
        file'.1.toList ++ ':' :: ':' :: file'.2.toList := by
      simpa [fileToken, ← String.toList_inj] using heq
    obtain ⟨hname, hrest⟩ := (append_sep_inj h h').mp hlist
    apply Prod.ext (String.toList_inj.mp hname)
    apply String.toList_inj.mp (List.cons.inj hrest).2
  · apply congrArg

/-- The token of a file is not the mark of a type. -/
theorem fileToken_ne_typeMark (file : String × String) :
  fileToken file ≠ typeMark
  := by
  intro h
  have hcolon : ':' ∈ (file.1 ++ "::" ++ file.2).toList := by simp
  rw [Token.text.inj h] at hcolon
  revert hcolon
  decide

/-- Files and types are told apart by their tokens. -/
theorem tokens_append_inj {files files' : List (String × String)} {ts ts' : List TypeDescriptor}
    (h : ∀ file ∈ files, ':' ∉ file.1.toList) (h' : ∀ file ∈ files', ':' ∉ file.1.toList)
    (heq : files.map fileToken ++ ts.flatMap typeTokens =
      files'.map fileToken ++ ts'.flatMap typeTokens) :
  files = files' ∧ ts.flatMap typeTokens = ts'.flatMap typeTokens
  := by
  have hmark : ∀ (file : String × String) (ts : List TypeDescriptor),
      (ts.flatMap typeTokens).head? ≠ some (fileToken file) := by
    intro file ts hhead
    cases ts with
    | nil => cases hhead
    | cons t ts => exact fileToken_ne_typeMark file (Option.some.inj hhead).symm
  induction files generalizing files' with
  | nil =>
    cases files' with
    | nil => exact ⟨rfl, heq⟩
    | cons file' files' => exact absurd (congrArg List.head? heq) (hmark file' ts)
  | cons file files ih =>
    cases files' with
    | nil => exact absurd (congrArg List.head? heq).symm (hmark file ts')
    | cons file' files' =>
      rw [List.forall_mem_cons] at h h'
      rw [List.map_cons, List.map_cons, List.cons_append, List.cons_append, List.cons.injEq,
        fileToken_inj h.1 h'.1] at heq
      obtain ⟨rfl, hrest⟩ := heq
      obtain ⟨rfl, htypes⟩ := ih h.2 h'.2 hrest
      exact ⟨rfl, htypes⟩

/-! ### Files and types -/

/-- What makes the tokens of files and types clear: no file name has a colon, aliases are different,
and the types of properties were read from texts. -/
structure IsClear (files : List (String × String)) (types : List TypeDescriptor) : Prop where
  names : ∀ file ∈ files, ':' ∉ file.1.toList
  aliases : (types.map (·.aliasName)).Nodup
  read : ∀ t ∈ types, ∀ p ∈ t.properties, p.type.IsRead

/-- Whether two lists of types have the same aliases, and the types with one alias are the same. -/
structure SameTypes (types types' : List TypeDescriptor) : Prop where
  aliases : ∀ aliasName,
    aliasName ∈ types.map (·.aliasName) ↔ aliasName ∈ types'.map (·.aliasName)
  matching : ∀ t ∈ types, ∀ t' ∈ types', t.aliasName = t'.aliasName → t.Matches t'

variable {files files' : List (String × String)} {types types' : List TypeDescriptor}

/-- The types of clear lists match in the order of their aliases if the tokens are the same. -/
theorem IsClear.forall₂_byAlias (h : IsClear files types) (h' : IsClear files' types')
    (heq : tokens files types = tokens files' types') :
  files = files' ∧
    List.Forall₂ TypeDescriptor.Matches (Snapshot.mk types).byAlias (Snapshot.mk types').byAlias
  := by
  obtain ⟨hfiles, htypes⟩ := tokens_append_inj h.names h'.names heq
  refine ⟨hfiles, ?_⟩
  apply flatMap_typeTokens_inj _ _ htypes
  · intro t ht
    apply h.read t (List.mem_mergeSort.mp ht)
  · intro t ht
    apply h'.read t (List.mem_mergeSort.mp ht)

/-- Lists of types that match one by one are the same up to their order, if aliases are different. -/
theorem sameTypes_of_forall₂ (hnodup : (types.map (·.aliasName)).Nodup)
    (h : List.Forall₂ TypeDescriptor.Matches (Snapshot.mk types).byAlias
      (Snapshot.mk types').byAlias) :
  SameTypes types types'
  := by
  have haliases : (Snapshot.mk types).byAlias.map (·.aliasName) =
      (Snapshot.mk types').byAlias.map (·.aliasName) := by
    rw [← List.forall₂_eq_eq_eq, List.forall₂_map_left_iff, List.forall₂_map_right_iff]
    apply h.imp
    intro t t' ht
    apply ht.aliasName
  have hperm : ∀ ts : List TypeDescriptor,
      ((Snapshot.mk ts).byAlias.map (·.aliasName)).Perm (ts.map (·.aliasName)) := by
    intro ts
    apply List.Perm.map
    apply List.mergeSort_perm
  constructor
  · intro aliasName
    rw [← (hperm types).mem_iff, haliases, (hperm types').mem_iff]
  · intro t ht t' ht' halias
    have hmem : t' ∈ (Snapshot.mk types').byAlias := List.mem_mergeSort.mpr ht'
    obtain ⟨i, hi', rfl⟩ := List.mem_iff_getElem.mp hmem
    have hi : i < (Snapshot.mk types).byAlias.length := by
      rw [h.length_eq]
      exact hi'
    have hmatch := h.get hi hi'
    have hu : (Snapshot.mk types).byAlias[i] ∈ types := List.mem_mergeSort.mp (List.getElem_mem hi)
    have hsame : (Snapshot.mk types).byAlias[i] = t :=
      List.inj_on_of_nodup_map hnodup hu ht (hmatch.aliasName.trans halias.symm)
    rw [← hsame]
    exact hmatch

/-- No change of clear files and types leaves the tokens as they are, so one that leaves the
fingerprint as it is has made different tokens with the same hash. -/
theorem IsClear.misses_no_change (h : IsClear files types) (h' : IsClear files' types') :
  compute files types = Combiner.text ((tokens files types).foldl Combiner.add Combiner.seed) ∧
    (tokens files types = tokens files' types' → files = files' ∧ SameTypes types types') ∧
    (compute files types = compute files' types' → ¬(files = files' ∧ SameTypes types types') →
      tokens files types ≠ tokens files' types' ∧
        (tokens files types).foldl Combiner.add Combiner.seed =
          (tokens files' types').foldl Combiner.add Combiner.seed)
  := by
  have hclear : tokens files types = tokens files' types' →
      files = files' ∧ SameTypes types types' := by
    intro heq
    obtain ⟨hfiles, hmatch⟩ := h.forall₂_byAlias h' heq
    exact ⟨hfiles, sameTypes_of_forall₂ h.aliases hmatch⟩
  refine ⟨rfl, hclear, ?_⟩
  intro hsame hchanged
  constructor
  · intro heq
    apply hchanged (hclear heq)
  · apply Combiner.text_inj.mp hsame

/-- A property with an alias, and with a type that is written as a text. -/
def property (aliasName : String) (description : Option String) (type : RuntimeType) :
    PropertyDescriptor :=
  ⟨aliasName, aliasName, "--- PROPERTY ---", description, type⟩

/-- Two types of which one refers to the other; the names are marks themselves. -/
def shelved : List TypeDescriptor := [
  { id := -1, aliasName := "shelf", bindingName := "Shelf", parentId := 7, kind := .content,
    displayName := "--- PROPERTY ---", description := none, mixins := [-2, 30],
    properties := [property "title" none (.named "String"),
      property "books" (some "") (.list (.model "book"))] },
  { id := 30, aliasName := "book", bindingName := "Book", parentId := -1, kind := .element,
    displayName := "MIXINS:", description := some "--- CONTENT TYPE MODEL ---" }]

/-- The same types in another order, with the properties in another order and other descriptions
left out. -/
def reshelved : List TypeDescriptor := [
  { id := 30, aliasName := "book", bindingName := "Book", parentId := -1, kind := .element,
    displayName := "MIXINS:", description := some "--- CONTENT TYPE MODEL ---" },
  { id := -1, aliasName := "shelf", bindingName := "Shelf", parentId := 7, kind := .content,
    displayName := "--- PROPERTY ---", description := some "", mixins := [-2, 30],
    properties := [property "books" none (.list (.model "book")),
      property "title" (some "") (.named "String")] }]

theorem isRead_string :
  (RuntimeType.named "String").IsRead
  := by
  have hread : RuntimeType.ofText "String" = .ok (.named "String") := by decide +kernel
  exact ⟨_, hread⟩

theorem isRead_books :
  (RuntimeType.list (.model "book")).IsRead
  := by
  have hread : RuntimeType.ofText "List<@book>" = .ok (.list (.model "book")) := by decide +kernel
  exact ⟨_, hread⟩

theorem isClear_shelved :
  IsClear [("notes.rs", "a::b")] shelved
  := by
  constructor
  · decide
  · decide
  · simp [shelved, property, isRead_string, isRead_books]

theorem isClear_reshelved :
  IsClear [("notes.rs", "a::b")] reshelved
  := by
  constructor
  · decide
  · decide
  · simp [reshelved, property, isRead_string, isRead_books]

/-- Types that are only rearranged have the same tokens, and are found to be the same. -/
theorem reshelved_misses_no_change :
  tokens [("notes.rs", "a::b")] shelved = tokens [("notes.rs", "a::b")] reshelved ∧
    SameTypes shelved reshelved
  := by
  have htokens : tokens [("notes.rs", "a::b")] shelved = tokens [("notes.rs", "a::b")] reshelved := by
    simp [tokens, Snapshot.byAlias, shelved, reshelved, typeTokens, sortedProperties, property,
      List.mergeSort, List.MergeSort.Internal.splitInTwo, propertyTokens]
  use htokens
  apply ((isClear_shelved.misses_no_change isClear_reshelved).2.1 htokens).2

/-! ### Order -/

/-- Types that match have the same tokens, if the aliases of their properties are different. -/
theorem typeTokens_eq_of_matches {t t' : TypeDescriptor} (h : t.Matches t')
    (hnodup : (t.properties.map (·.aliasName)).Nodup) :
  typeTokens t = typeTokens t'
  := by
  have hdescribed : ∀ t : TypeDescriptor, (sortedProperties t).flatMap propertyTokens =
      ((t.properties.map PropertyDescriptor.described).mergeSort
        fun a b => decide (a.aliasName ≤ b.aliasName)).flatMap propertyTokens := by
    intro t
    rw [← List.map_mergeSort (r := fun a b => decide (a.aliasName ≤ b.aliasName))
      fun _ _ _ _ => rfl, List.flatMap_map]
    rfl
  have hsorted : ((t.properties.map PropertyDescriptor.described).mergeSort
      fun a b => decide (a.aliasName ≤ b.aliasName)) =
      (t'.properties.map PropertyDescriptor.described).mergeSort
        fun a b => decide (a.aliasName ≤ b.aliasName) := by
    apply mergeSort_eq_of_perm _ h.properties
    apply List.inj_on_of_nodup_map
    rw [List.map_map]
    exact hnodup
  simp only [typeTokens, h.id, h.aliasName, h.bindingName, h.parentId, h.displayName, h.description,
    h.kind, h.mixins, hdescribed, hsorted]

/-- Types with the same properties in another order match. -/
theorem matches_of_perm (t : TypeDescriptor) {ps : List PropertyDescriptor}
    (h : t.properties.Perm ps) :
  t.Matches { t with properties := ps }
  := ⟨rfl, rfl, rfl, rfl, rfl, rfl, rfl, rfl, h.map _⟩

/-- The fingerprint depends neither on the order of types nor on that of the properties of each type,
if the aliases of the types and those of the properties of each type are different. -/
theorem compute_eq_of_perm {ts : List TypeDescriptor} (files : List (String × String))
    (haliases : (types.map (·.aliasName)).Nodup)
    (hproperties : ∀ t ∈ types, (t.properties.map (·.aliasName)).Nodup)
    (hreordered : List.Forall₂
      (fun t t' => ∃ ps, t.properties.Perm ps ∧ t' = { t with properties := ps }) types ts)
    (hperm : ts.Perm types') :
  compute files types = compute files types'
  := by
  have hsame : List.Forall₂ (fun t t' => t.aliasName = t'.aliasName ∧ typeTokens t = typeTokens t')
      types ts := by
    apply ((List.forall₂_and_left types ts).mpr ⟨hproperties, hreordered⟩).imp
    rintro t _ ⟨hnodup, ps, hps, rfl⟩
    exact ⟨rfl, typeTokens_eq_of_matches (matches_of_perm t hps) hnodup⟩
  have htokens : (Snapshot.mk types).byAlias.map typeTokens =
      (Snapshot.mk ts).byAlias.map typeTokens := by
    rw [← List.forall₂_eq_eq_eq, List.forall₂_map_left_iff, List.forall₂_map_right_iff]
    exact (forall₂_mergeSort hsame fun _ _ h => h.1).imp fun _ _ h => h.2
  have hts : (ts.map (·.aliasName)).Nodup := by
    have hmap : types.map (·.aliasName) = ts.map (·.aliasName) := by
      rw [← List.forall₂_eq_eq_eq, List.forall₂_map_left_iff, List.forall₂_map_right_iff]
      exact hsame.imp fun _ _ h => h.1
    rwa [← hmap]
  have hbyAlias : (Snapshot.mk ts).byAlias = (Snapshot.mk types').byAlias :=
    mergeSort_eq_of_perm (List.inj_on_of_nodup_map hts) hperm
  rw [compute, compute, tokens, tokens, List.flatMap_def, htokens, ← List.flatMap_def, hbyAlias]

/-- The types of the shelf in another order, each with its properties in another order. -/
def rearranged : List TypeDescriptor :=
  (shelved.map fun t => { t with properties := t.properties.reverse }).reverse

theorem compute_rearranged :
  shelved ≠ rearranged ∧
    compute [("notes.rs", "a::b")] shelved = compute [("notes.rs", "a::b")] rearranged
  := by
  constructor
  · decide
  · have hreversed : (shelved.map fun t => { t with properties := t.properties.reverse }).Perm
        rearranged := (List.reverse_perm _).symm
    apply compute_eq_of_perm _ (by decide) (by decide) _ hreversed
    rw [List.forall₂_map_right_iff, List.forall₂_same]
    intro t _
    exact ⟨_, (List.reverse_perm _).symm, rfl⟩

end Fingerprint

end LiveModels
