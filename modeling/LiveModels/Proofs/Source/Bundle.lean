import LiveModels.Proofs.Text.Affix
import LiveModels.Proofs.Text.Lines
import LiveModels.Proofs.Text.Number
import LiveModels.Source.Bundle

/-!
# Headers of bundles

The header of a bundle gives the fingerprint and the revision of the bundle, whatever stands in its
files, and replacing the revision in the text gives the text of the bundle with this revision.
-/

namespace LiveModels

open Text

theorem toList_unlines (ls : List String) :
  (unlines ls).toList = joinLines (ls.map String.toList)
  := by
  induction ls with
  | nil => rfl
  | cons l ls ih => simp_all [unlines, joinLines]

namespace Bundle

variable {b : Bundle}

/-- The lines of a bundle after its header. -/
def bodyLines (b : Bundle) : List String :=
  b.attributes ++ (if b.attributes.isEmpty then [] else [""]) ++ b.imports
    ++ b.sections.flatMap sectionLines ++ ["", "// EOF"]

/-- The text of a bundle after its header. -/
def body (b : Bundle) : List Char :=
  joinLines (b.bodyLines.map String.toList)

/-- What follows the header depends on the sections alone. -/
theorem body_congr {b b' : Bundle} (h : b.sections = b'.sections) :
  b.body = b'.body
  := by
  have hlines : b.allLines = b'.allLines := by rw [allLines, allLines, h]
  have hattributes : b.attributes = b'.attributes := by rw [attributes, attributes, hlines]
  have himports : b.imports = b'.imports := by rw [imports, imports, hlines]
  rw [body, body, bodyLines, bodyLines, hattributes, himports, h]

/-- The line of a header with a fingerprint. -/
def fingerprintLine (fingerprint : String) : List Char :=
  fingerprintLabel.toList ++ fingerprint.toList

theorem toList_render (b : Bundle) :
  b.render.toList = fingerprintLine b.fingerprint ++ '\n' ::
    ((revisionLine b.revision).toList ++ '\n' :: b.body)
  := by
  simp [render, toList_unlines, renderedLines, body, bodyLines, joinLines, fingerprintLine]

/-! ### Reading -/

theorem labelled?_append {label : String} {allowed : Char → Bool} {s : List Char} (hne : s ≠ [])
    (h : ∀ c ∈ s, allowed c = true) :
  labelled? label allowed (label.toList ++ s) = some s
  := by
  have hall : s.all allowed = true := List.all_eq_true.mpr h
  rw [labelled?, afterWord?_append]
  simp [hne, hall]

theorem eq_append_of_labelled? {label : String} {allowed : Char → Bool} {line s : List Char}
    (h : labelled? label allowed line = some s) :
  line = label.toList ++ s
  := by
  unfold labelled? at h
  split at h
  case h_1 rest hrest =>
    split at h
    · cases h
      apply eq_append_of_afterWord? hrest
    · cases h
  · cases h

theorem of_labelled? {label : String} {allowed : Char → Bool} {line s : List Char}
    (h : labelled? label allowed line = some s) :
  s ≠ [] ∧ ∀ c ∈ s, allowed c = true
  := by
  unfold labelled? at h
  split at h
  · split at h
    case isTrue hgiven =>
      cases h
      simpa using hgiven
    · cases h
  · cases h

theorem labelled?_fingerprint (h : b.fingerprint ≠ "")
    (hhex : ∀ c ∈ b.fingerprint.toList, isLowerHex c = true) :
  labelled? fingerprintLabel isLowerHex (fingerprintLine b.fingerprint) = some b.fingerprint.toList
  := by
  apply labelled?_append _ hhex
  intro hnil
  apply h
  rw [← String.toList_inj, hnil]
  rfl

theorem labelled?_revision (revision : UInt64) :
  labelled? revisionLabel isDecimalDigit (revisionLine revision).toList =
    some (natDigits revision.toNat)
  := by
  rw [revisionLine, String.toList_append, decimal, String.toList_ofList]
  apply labelled?_append (natDigits_ne_nil _)
  intro c hc
  have hdigit := isDigit_of_mem_natDigits hc
  have hascii : c.toNat < 0x80 := by
    simp only [Char.isDigit, Bool.and_eq_true, decide_eq_true_eq] at hdigit
    exact Nat.lt_of_le_of_lt hdigit.2 (by decide)
  rw [isDecimalDigit, if_pos hascii, hdigit]

theorem labelled?_revision_fingerprint (fingerprint : String) :
  labelled? revisionLabel isDecimalDigit (fingerprintLine fingerprint) = none
  := rfl

/-- The characters of a revision line are those of its label, and digits. -/
theorem not_mem_revisionLine {k : Char} (revision : UInt64) (hk : k ∉ revisionLabel.toList)
    (hdigit : k.isDigit = false) :
  k ∉ (revisionLine revision).toList
  := by
  intro hmem
  rw [revisionLine, String.toList_append, decimal, String.toList_ofList, List.mem_append] at hmem
  rcases hmem with hmem | hmem
  · apply hk hmem
  · rw [isDigit_of_mem_natDigits hmem] at hdigit
    cases hdigit

/-- The characters of a fingerprint line are those of its label, and hexadecimal digits. -/
theorem not_mem_fingerprintLine {k : Char} {fingerprint : String}
    (hhex : ∀ c ∈ fingerprint.toList, isLowerHex c = true) (hk : k ∉ fingerprintLabel.toList)
    (hdigit : isLowerHex k = false) :
  k ∉ fingerprintLine fingerprint
  := by
  intro hmem
  rcases List.mem_append.mp hmem with hmem | hmem
  · apply hk hmem
  · rw [hhex k hmem] at hdigit
    cases hdigit

/-- The pieces of the text of a bundle are the lines of its header, and the pieces of its body. -/
theorem pieces_render (hhex : ∀ c ∈ b.fingerprint.toList, isLowerHex c = true) :
  pieces '\n' b.render.toList = fingerprintLine b.fingerprint ::
    (revisionLine b.revision).toList :: pieces '\n' b.body
  := by
  have hfingerprint := pieces_of_not_mem (not_mem_fingerprintLine (k := '\n') hhex (by decide) rfl)
  have hrevision := pieces_of_not_mem (not_mem_revisionLine (k := '\n') b.revision (by decide) rfl)
  rw [toList_render, pieces_append_sep, hfingerprint,
    pieces_append_sep, hrevision]
  rfl

/-- The header of a bundle is read from its text. -/
theorem header?_render (h : b.fingerprint ≠ "")
    (hhex : ∀ c ∈ b.fingerprint.toList, isLowerHex c = true) :
  header? b.render = some ⟨b.fingerprint, b.revision⟩
  := by
  have hfingerprint : fingerprintOf? b.render.toList = some b.fingerprint.toList := by
    rw [fingerprintOf?, pieces_render hhex, List.findSome?_cons, labelled?_fingerprint h hhex]
  have hrevision : revisionDigits? b.render.toList = some (natDigits b.revision.toNat) := by
    rw [revisionDigits?, pieces_render hhex, List.findSome?_cons, labelled?_revision_fingerprint,
      List.findSome?_cons, labelled?_revision]
  simp [header?, hfingerprint, hrevision, parseWord?_natDigits]

/-- The text of a bundle with another revision in its header is that of the bundle with this
revision. -/
theorem restamp_render (hhex : ∀ c ∈ b.fingerprint.toList, isLowerHex c = true)
    (revision : UInt64) :
  restamp b.render revision = { b with revision := revision }.render
  := by
  have hjoin := join_pieces '\n' b.body
  obtain ⟨piece, others, hbody⟩ := List.exists_cons_of_ne_nil (pieces_ne_nil '\n' b.body)
  rw [hbody] at hjoin
  rw [restamp, pieces_render hhex, restampLines, labelled?_revision_fingerprint, restampLines,
    labelled?_revision, hbody]
  rw [← String.toList_inj, String.toList_ofList, toList_render]
  simp only [join, hjoin, List.append_assoc, List.singleton_append]
  rfl

/-! ### Restamping -/

/-- What a label on a line is followed by belongs to no line that begins with another label. -/
theorem labelled?_fingerprint_eq_none {line digits : List Char}
    (h : labelled? revisionLabel isDecimalDigit line = some digits) :
  labelled? fingerprintLabel isLowerHex line = none
  := by
  unfold labelled? at h
  split at h
  case h_1 rest hrest =>
    rw [eq_append_of_afterWord? hrest]
    rfl
  · cases h

/-- Restamped lines without line feeds have none either, and there are some if there were. -/
theorem restampLines_spec (revision : UInt64) {lines : List (List Char)} (hne : lines ≠ [])
    (h : ∀ line ∈ lines, '\n' ∉ line) :
  restampLines revision lines ≠ [] ∧ ∀ line ∈ restampLines revision lines, '\n' ∉ line
  := by
  induction lines with
  | nil => exact absurd rfl hne
  | cons line rest ih =>
    rw [List.forall_mem_cons] at h
    rw [restampLines]
    split
    · refine ⟨by simp, ?_⟩
      rw [List.forall_mem_cons]
      exact ⟨not_mem_revisionLine revision (by decide) rfl, h.2⟩
    · refine ⟨by simp, ?_⟩
      rw [List.forall_mem_cons]
      use h.1
      cases rest with
      | nil => simp [restampLines]
      | cons next others => apply (ih (by simp) h.2).2

/-- The pieces of a restamped text are the restamped pieces. -/
theorem pieces_restamp (text : String) (revision : UInt64) :
  pieces '\n' (restamp text revision).toList = restampLines revision (pieces '\n' text.toList)
  := by
  obtain ⟨hne, hfeed⟩ := restampLines_spec revision (pieces_ne_nil '\n' text.toList)
    fun line hline => (of_mem_pieces hline).1
  rw [restamp, String.toList_ofList, pieces_join hne hfeed]

/-- The fingerprint is not changed by restamping. -/
theorem findSome?_fingerprint_restampLines (revision : UInt64) (lines : List (List Char)) :
  (restampLines revision lines).findSome? (labelled? fingerprintLabel isLowerHex) =
    lines.findSome? (labelled? fingerprintLabel isLowerHex)
  := by
  induction lines with
  | nil => rfl
  | cons line rest ih =>
    rw [restampLines]
    split
    case h_1 digits hdigits =>
      rw [List.findSome?_cons, List.findSome?_cons,
        labelled?_fingerprint_eq_none (labelled?_revision revision),
        labelled?_fingerprint_eq_none hdigits]
    · rw [List.findSome?_cons, List.findSome?_cons, ih]

/-- The revision of restamped lines is the new one, if they had any. -/
theorem findSome?_revision_restampLines (revision : UInt64) {lines : List (List Char)}
    {digits : List Char} (h : lines.findSome? (labelled? revisionLabel isDecimalDigit) = some digits) :
  (restampLines revision lines).findSome? (labelled? revisionLabel isDecimalDigit) =
    some (natDigits revision.toNat)
  := by
  induction lines with
  | nil => cases h
  | cons line rest ih =>
    rw [List.findSome?_cons] at h
    rw [restampLines]
    split
    · rw [List.findSome?_cons, labelled?_revision]
    case h_2 hnone =>
      rw [hnone] at h
      rw [List.findSome?_cons, hnone]
      apply ih h

/-- A text that has a header has the same one with the new revision when it is restamped, whatever
else stands in it. -/
theorem header?_restamp {text : String} {header : Header} (h : header? text = some header)
    (revision : UInt64) :
  header? (restamp text revision) = some ⟨header.fingerprint, revision⟩
  := by
  obtain ⟨fingerprint, hfingerprint, h⟩ := Option.bind_eq_some_iff.mp h
  obtain ⟨digits, hdigits, h⟩ := Option.bind_eq_some_iff.mp h
  obtain ⟨old, -, h⟩ := Option.bind_eq_some_iff.mp h
  cases h
  have hsame : fingerprintOf? (restamp text revision).toList = some fingerprint := by
    rw [fingerprintOf?, pieces_restamp, findSome?_fingerprint_restampLines]
    apply hfingerprint
  have hnew : revisionDigits? (restamp text revision).toList = some (natDigits revision.toNat) := by
    rw [revisionDigits?, pieces_restamp]
    apply findSome?_revision_restampLines revision hdigits
  simp [header?, hsame, hnew, parseWord?_natDigits]

/-- Whether the lines of a text are the given ones around the digits on the first line that gives a
revision. -/
structure IsStamped (text : String) (before : List (List Char)) (digits : List Char)
    (after : List (List Char)) : Prop where
  pieces_eq : pieces '\n' text.toList = before ++ (revisionLabel.toList ++ digits) :: after
  first : ∀ line ∈ before, labelled? revisionLabel isDecimalDigit line = none
  ne_nil : digits ≠ []
  isDecimalDigit : ∀ c ∈ digits, isDecimalDigit c = true

/-- The lines around the first line that gives a revision stay when it is replaced. -/
theorem exists_of_findSome?_revision {lines : List (List Char)} {digits : List Char}
    (h : lines.findSome? (labelled? revisionLabel isDecimalDigit) = some digits) :
  ∃ before after, lines = before ++ (revisionLabel.toList ++ digits) :: after ∧
    (∀ line ∈ before, labelled? revisionLabel isDecimalDigit line = none) ∧
    ∀ revision, restampLines revision lines = before ++ (revisionLine revision).toList :: after
  := by
  induction lines with
  | nil => cases h
  | cons line rest ih =>
    rw [List.findSome?_cons] at h
    cases hline : labelled? revisionLabel isDecimalDigit line with
    | some found =>
      rw [hline] at h
      cases h
      refine ⟨[], rest, ?_, nofun, ?_⟩
      · rw [eq_append_of_labelled? hline]
        rfl
      · intro revision
        rw [restampLines, hline]
        rfl
    | none =>
      rw [hline] at h
      obtain ⟨before, after, hrest, hbefore, hrestamp⟩ := ih h
      refine ⟨line :: before, after, ?_, ?_, ?_⟩
      · rw [hrest, List.cons_append]
      · rw [List.forall_mem_cons]
        exact ⟨hline, hbefore⟩
      · intro revision
        rw [restampLines, hline, hrestamp, List.cons_append]

/-- A text that has a header differs from the restamped one in the digits of its revision only. -/
theorem exists_isStamped {text : String} {header : Header} (h : header? text = some header)
    (revision : UInt64) :
  ∃ before digits after, IsStamped text before digits after ∧
    IsStamped (restamp text revision) before (natDigits revision.toNat) after ∧
    parseWord? digits = some header.revision
  := by
  obtain ⟨fingerprint, -, h⟩ := Option.bind_eq_some_iff.mp h
  obtain ⟨digits, hdigits, h⟩ := Option.bind_eq_some_iff.mp h
  obtain ⟨old, hold, h⟩ := Option.bind_eq_some_iff.mp h
  cases h
  obtain ⟨before, after, hlines, hbefore, hrestamp⟩ := exists_of_findSome?_revision hdigits
  have hgiven : ∃ line, labelled? revisionLabel isDecimalDigit line = some digits := by
    obtain ⟨line, -, hline⟩ := List.exists_of_findSome?_eq_some hdigits
    exact ⟨line, hline⟩
  obtain ⟨line, hline⟩ := hgiven
  obtain ⟨hne, hall⟩ := of_labelled? hline
  obtain ⟨hne', hall'⟩ := of_labelled? (labelled?_revision revision)
  refine ⟨before, digits, after, ⟨hlines, hbefore, hne, hall⟩, ⟨?_, hbefore, hne', hall'⟩, hold⟩
  rw [pieces_restamp, hrestamp, revisionLine, String.toList_append, decimal, String.toList_ofList]

theorem restampLines_restampLines (revision revision' : UInt64) (lines : List (List Char)) :
  restampLines revision' (restampLines revision lines) = restampLines revision' lines
  := by
  induction lines with
  | nil => rfl
  | cons line rest ih =>
    cases hline : labelled? revisionLabel isDecimalDigit line with
    | some digits =>
      simp only [restampLines, hline, labelled?_revision]
    | none =>
      simp only [restampLines, hline, ih]

/-- When a text is restamped twice, nothing is left of the revision in between. -/
theorem restamp_restamp (text : String) (revision revision' : UInt64) :
  restamp (restamp text revision) revision' = restamp text revision'
  := by
  rw [restamp, pieces_restamp, restampLines_restampLines, ← restamp]

/-! ### Headers -/

/-- The text of a bundle has the header of the bundle, and restamping gives the text of the bundle
with another revision. Restamping changes no text that has a header but in the digits of its first
revision, which are those of the new revision then. -/
theorem header_laws :
  (∀ b : Bundle, b.fingerprint ≠ "" → (∀ c ∈ b.fingerprint.toList, isLowerHex c = true) →
    header? b.render = some ⟨b.fingerprint, b.revision⟩ ∧
      ∀ revision, restamp b.render revision = { b with revision := revision }.render) ∧
  ∀ text header, header? text = some header → ∀ revision,
    header? (restamp text revision) = some ⟨header.fingerprint, revision⟩ ∧
      (∃ before digits after, IsStamped text before digits after ∧
        IsStamped (restamp text revision) before (natDigits revision.toNat) after ∧
        parseWord? digits = some header.revision) ∧
      ∀ revision', restamp (restamp text revision) revision' = restamp text revision'
  := by
  constructor
  · intro b hne hhex
    use header?_render hne hhex
    intro revision
    apply restamp_render hhex
  · intro text header hheader revision
    use header?_restamp hheader revision, exists_isStamped hheader revision
    intro revision'
    apply restamp_restamp

/-- A bundle with a file that looks like the header of another one. -/
def misleading : Bundle :=
  ⟨"0badcafe", 3, [("Author.rs", "// fingerprint: 00\n// revision: 9\r\n// revision: 8\n")], ""⟩

theorem header_misleading :
  header? misleading.render = some ⟨"0badcafe", 3⟩ ∧
    restamp misleading.render 12 = { misleading with revision := 12 }.render ∧
    header? (restamp "use a;\r\n// revision: 007\r\n// revision: 007\n// fingerprint: ab" 12) =
      some ⟨"ab", 12⟩
  := by
  obtain ⟨hbundles, htexts⟩ := header_laws
  obtain ⟨hheader, hrestamp⟩ := hbundles misleading (by decide) (List.all_eq_true.mp rfl)
  have htext : header? "use a;\r\n// revision: 007\r\n// revision: 007\n// fingerprint: ab" =
      some ⟨"ab", 7⟩ := by
    decide +kernel
  exact ⟨hheader, hrestamp 12, (htexts _ _ htext 12).1⟩

end Bundle

end LiveModels
