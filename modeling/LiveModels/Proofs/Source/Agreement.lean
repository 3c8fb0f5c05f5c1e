import LiveModels.Proofs.Snapshot.Fingerprint
import LiveModels.Proofs.Source.Emission

/-!
# Bundles that declare the same

The bundles of one set of files and of two snapshots that agree declare the same models, and both of
them ask for a compile error or none does, whatever revisions they have. The header mentions nothing;
the attributes and imports at the beginning are sorted, so that it does not matter in which order
they come from the emitted source.
-/

namespace LiveModels

open Text Declaration

/-- Types that match agree in what is emitted for them. -/
theorem TypeDescriptor.Matches.agrees {t t' : TypeDescriptor} (h : t.Matches t') :
  t.Agrees t'
  := by
  have htold : ∀ ps : List PropertyDescriptor,
      (ps.map PropertyDescriptor.described).map PropertyDescriptor.told =
        ps.map PropertyDescriptor.told := by
    intro ps
    rw [List.map_map]
    rfl
  constructor
  · apply h.aliasName
  · apply h.bindingName
  · apply h.displayName
  · apply h.description
  · rw [← htold, ← htold t'.properties]
    apply h.properties.map

/-- Texts in ascending order do not depend on the order in which they are given. -/
theorem sortedTexts_eq_of_perm {texts texts' : List String} (h : texts.Perm texts') :
  sortedTexts texts = sortedTexts texts'
  := mergeSort_eq_of_perm (k := id) (fun _ _ _ _ heq => heq) h

namespace Emission

variable {s s' : Snapshot} {files : UserFiles}

/-- Agreeing types still agree when they are selected by their aliases. -/
theorem forall₂_filter {ts ts' : List TypeDescriptor} (select : String → Bool)
    (h : List.Forall₂ TypeDescriptor.Agrees ts ts') :
  List.Forall₂ TypeDescriptor.Agrees (ts.filter fun t => select t.aliasName)
    (ts'.filter fun t => select t.aliasName)
  := by
  induction h with
  | nil => apply List.Forall₂.nil
  | @cons t t' ts ts' ht h ih =>
    rw [List.filter_cons, List.filter_cons, ht.aliasName]
    split
    · apply List.Forall₂.cons ht ih
    · apply ih

/-- Agreeing snapshots have agreeing types for which a model is emitted. -/
theorem emittedTypes_agree (h : s.Agrees s') (files : UserFiles) :
  List.Forall₂ TypeDescriptor.Agrees (emittedTypes s files) (emittedTypes s' files)
  := forall₂_filter (fun aliasName => !(declaredAliases files).contains (lower aliasName)) h

/-- Agreeing snapshots resolve references to models in the same way. -/
theorem resolve_eq_of_agrees (h : s.Agrees s') (hs : s.IsNamed) (hs' : s'.IsNamed) :
  resolve s = resolve s'
  := by
  funext aliasName
  rw [resolve, resolve, h.bindingName?_eq hs hs']

theorem mem_types_of_mem_emittedTypes {t : TypeDescriptor} (h : t ∈ emittedTypes s files) :
  t ∈ s.types
  := Snapshot.mem_byAlias.mp (List.mem_filter.mp h).1

end Emission

namespace Bundle

open Emission

variable {b : Bundle} {s s' : Snapshot} {files : UserFiles}

/-! ### Lines that move -/

theorem isInnerAttribute_slash (x : List Char) :
  isInnerAttribute ('/' :: x) = false
  := by
  simp [isInnerAttribute, afterWord?]

theorem isImport_slash (x : List Char) :
  isImport ('/' :: x) = false
  := by
  simp [isImport, afterWord?]

/-- The lines that move out of a bundle are rearranged at most if the snapshot is replaced by one
that agrees with it. -/
theorem perm_filter_allLines {q : List Char → Bool} (hq : ∀ x, q ('/' :: x) = false)
    (h : s.Agrees s') (hs : s.IsNamed) (hs' : s'.IsNamed) (fingerprint : String)
    (revision revision' : UInt64) :
  ((allLines ⟨fingerprint, revision, files, emit s files⟩).filter q).Perm
    ((allLines ⟨fingerprint, revision', files, emit s' files⟩).filter q)
  := by
  have hlines : ∀ (s : Snapshot) (revision : UInt64),
      (allLines ⟨fingerprint, revision, files, emit s files⟩).filter q =
        (files.flatMap fun f => lines f.2.toList).filter q ++
          ((linesOf [preamble]).filter q ++
            (linesOf ((emittedTypes s files).flatMap (typeLines s))).filter q) := by
    intro s revision
    rw [allLines, sections, List.flatMap_append, List.filter_append, List.flatMap_singleton,
      lines_emit, emittedLines, ← List.singleton_append, linesOf_append, List.filter_append]
  rw [hlines, hlines]
  apply List.Perm.append_left
  apply List.Perm.append_left
  apply perm_filter_types hq hs hs' (resolve_eq_of_agrees h hs hs') (emittedTypes_agree h files)

/-- The attributes and the imports at the beginning of a bundle stay the same if the snapshot is
replaced by one that agrees with it. -/
theorem hoisted_eq (h : s.Agrees s') (hs : s.IsNamed) (hs' : s'.IsNamed) (files : UserFiles)
    (fingerprint : String) (revision revision' : UInt64) :
  attributes ⟨fingerprint, revision, files, emit s files⟩ =
      attributes ⟨fingerprint, revision', files, emit s' files⟩ ∧
    imports ⟨fingerprint, revision, files, emit s files⟩ =
      imports ⟨fingerprint, revision', files, emit s' files⟩
  := by
  constructor
  · rw [attributes, attributes, sortedOnce, sortedOnce, sortedTexts_eq_of_perm]
    apply (perm_filter_allLines isInnerAttribute_slash h hs hs' _ _ _).map
  · rw [imports, imports, sortedOnce, sortedOnce, sortedTexts_eq_of_perm]
    apply (perm_filter_allLines isImport_slash h hs hs' _ _ _).map

/-! ### Texts -/

/-- The lines of a bundle from its header to the emitted source. -/
def frontLines (b : Bundle) : List String :=
  b.attributes ++ (if b.attributes.isEmpty then [] else [""]) ++ b.imports
    ++ b.files.flatMap sectionLines ++ ["", "// FILE: " ++ generatedName]

/-- The lines of a section: its name, and those lines of its text that stay in it. -/
theorem toList_sectionLines (s : String × String) :
  (sectionLines s).map String.toList =
    ["", "// FILE: " ++ s.1].map String.toList ++ (lines s.2.toList).filter isKept
  := by
  rw [sectionLines, List.map_append, List.map_map]
  congr 1
  rw [← List.map_id ((lines s.2.toList).filter isKept)]
  apply List.map_congr_left
  intro line _
  apply String.toList_ofList

/-- The text of a bundle after its header, cut before and after the emitted types. -/
theorem body_eq (fingerprint : String) (revision : UInt64) (s : Snapshot) (files : UserFiles) :
  body ⟨fingerprint, revision, files, emit s files⟩ =
    joinLines ((frontLines ⟨fingerprint, revision, files, emit s files⟩).map String.toList)
        ++ sectionText [preamble]
      ++ sectionText ((emittedTypes s files).flatMap (typeLines s))
      ++ joinLines (["", "// EOF"].map String.toList)
  := by
  have hsection : (sectionLines (generatedName, emit s files)).map String.toList =
      ["", "// FILE: " ++ generatedName].map String.toList ++
        (linesOf (emittedLines s files)).filter isKept := by
    rw [toList_sectionLines, lines_emit]
  have hemitted : joinLines ((linesOf (emittedLines s files)).filter isKept) =
      sectionText [preamble] ++ sectionText ((emittedTypes s files).flatMap (typeLines s)) := by
    rw [← sectionText, emittedLines, ← List.singleton_append, sectionText_append]
  rw [body, bodyLines, sections, List.flatMap_append, List.flatMap_singleton]
  simp only [List.map_append, joinLines_append, hsection, hemitted, frontLines, List.append_assoc]

/-- The header of a bundle mentions nothing. -/
theorem alike_body (b : Bundle) (hhex : ∀ c ∈ b.fingerprint.toList, isLowerHex c = true) :
  Alike b.render.toList b.body
  := by
  have hfingerprint : IsMute (fingerprintLine b.fingerprint) := by
    apply isMute_of_not_mem
    · apply not_mem_fingerprintLine hhex (by decide) rfl
    · apply not_mem_fingerprintLine hhex (by decide) rfl
  have hrevision : IsMute (revisionLine b.revision).toList := by
    apply isMute_of_not_mem
    · apply not_mem_revisionLine _ (by decide) rfl
    · apply not_mem_revisionLine _ (by decide) rfl
  have hheader : Silent
      (joinLines [fingerprintLine b.fingerprint, (revisionLine b.revision).toList]) := by
    apply Silent.joinLines
    simp only [List.mem_cons, List.not_mem_nil, or_false]
    rintro line (rfl | rfl)
    · apply hfingerprint
    · apply hrevision
  have halike := hheader.alike_append b.body
  rw [toList_render]
  simpa [joinLines] using halike

/-- Bundles of one set of files and of snapshots that agree declare the same. -/
theorem alike_render (h : s.Agrees s') (hs : s.IsNamed) (hs' : s'.IsNamed) (hmute : s.IsMute)
    (hmute' : s'.IsMute) {fingerprint : String}
    (hhex : ∀ c ∈ fingerprint.toList, isLowerHex c = true) (revision revision' : UInt64) :
  Alike (render ⟨fingerprint, revision, files, emit s files⟩).toList
    (render ⟨fingerprint, revision', files, emit s' files⟩).toList
  := by
  obtain ⟨hattributes, himports⟩ := hoisted_eq h hs hs' files fingerprint revision revision'
  have hfront : frontLines ⟨fingerprint, revision, files, emit s files⟩ =
      frontLines ⟨fingerprint, revision', files, emit s' files⟩ := by
    rw [frontLines, frontLines, hattributes, himports]
  apply (alike_body _ hhex).trans
  apply Alike.trans _ (alike_body _ hhex).symm
  rw [body_eq, body_eq, hfront]
  apply alike_types hs hs' hmute hmute' (emittedTypes_agree h files)
  · intro t
    apply mem_types_of_mem_emittedTypes
  · intro t
    apply mem_types_of_mem_emittedTypes

end Bundle

end LiveModels
