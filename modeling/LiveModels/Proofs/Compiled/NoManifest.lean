import LiveModels.Cache.Store
import LiveModels.Proofs.Compiled.Manifest
import LiveModels.Proofs.Json.Lines
import LiveModels.Proofs.Source.Bundle

/-!
# Texts that are no manifests

What is written to the models directory besides modules is never taken for the manifest of one. A
bundle has a header, which is a line that begins with a slash, and a text that is JSON has no such
line. The other texts begin like no object and no array, or like an array that does not go on.
-/

namespace LiveModels

open Json

/-- A declaration is only read from a well-formed tree. -/
theorem Declaration.isWellFormed_of_ofJson {j : Json} {d : Declaration} (h : ofJson j = .ok d) :
  j.isWellFormed = true
  := by
  obtain ⟨members, hmembers, h⟩ := Result.bind_eq_ok_iff.mp h
  obtain ⟨fields, hfields, -⟩ := Result.bind_eq_ok_iff.mp h
  apply isWellFormed_of_asRecord hmembers
  intro m hm
  obtain ⟨f, f', hread⟩ := Result.exists_of_foldlM hfields hm
  unfold Fields.read at hread
  dsimp only at hread
  split at hread
  · obtain ⟨filled, hfilled, -⟩ := Result.bind_eq_ok_iff.mp hread
    obtain ⟨text, htext⟩ := exists_of_fill hfilled
    apply isWellFormed_of_asText htext
  · split at hread
    · obtain ⟨filled, hfilled, -⟩ := Result.bind_eq_ok_iff.mp hread
      obtain ⟨text, htext⟩ := exists_of_fill hfilled
      apply isWellFormed_of_asOptionalText htext
    · obtain ⟨u, hskip, -⟩ := Result.bind_eq_ok_iff.mp hread
      apply isWellFormed_of_skip hskip

namespace Manifest

/-- A manifest is only read from a well-formed tree. -/
theorem isWellFormed_of_ofJson {j : Json} {m : Manifest} (h : ofJson j = .ok m) :
  j.isWellFormed = true
  := by
  obtain ⟨members, hmembers, h⟩ := Result.bind_eq_ok_iff.mp h
  obtain ⟨fields, hfields, -⟩ := Result.bind_eq_ok_iff.mp h
  apply isWellFormed_of_asRecord hmembers
  intro m hm
  obtain ⟨f, f', hread⟩ := Result.exists_of_foldlM hfields hm
  unfold Fields.read at hread
  dsimp only at hread
  split at hread
  · obtain ⟨filled, hfilled, -⟩ := Result.bind_eq_ok_iff.mp hread
    obtain ⟨text, htext⟩ := exists_of_fill hfilled
    apply isWellFormed_of_asText htext
  · split at hread
    · obtain ⟨filled, hfilled, -⟩ := Result.bind_eq_ok_iff.mp hread
      obtain ⟨text, htext⟩ := exists_of_fill hfilled
      apply isWellFormed_of_asText htext
    · split at hread
      · obtain ⟨filled, hfilled, -⟩ := Result.bind_eq_ok_iff.mp hread
        obtain ⟨revision, hrevision⟩ := exists_of_fill hfilled
        obtain ⟨n, hn, -⟩ := Result.bind_eq_ok_iff.mp hrevision
        apply isWellFormed_of_asInteger hn
      · split at hread
        · obtain ⟨filled, hfilled, -⟩ := Result.bind_eq_ok_iff.mp hread
          obtain ⟨types, htypes⟩ := exists_of_fill hfilled
          apply isWellFormed_of_asList Declaration.isWellFormed_of_ofJson htypes
        · obtain ⟨u, hskip, -⟩ := Result.bind_eq_ok_iff.mp hread
          apply isWellFormed_of_skip hskip

end Manifest

/-- Whether a text is no manifest. -/
def IsNoManifest (text : String) : Prop :=
  ∀ m, Manifest.parse text ≠ .ok m

section

variable {text : String}

/-! ### Bundles -/

/-- A bundle is no manifest. -/
theorem isNoManifest_of_header? {header : Header} (h : Bundle.header? text = some header) :
  IsNoManifest text
  := by
  intro m hm
  have hcalm := isCalm_of_decode Manifest.isWellFormed_of_ofJson hm
  obtain ⟨fingerprint, hfingerprint, -⟩ := Option.bind_eq_some_iff.mp h
  obtain ⟨line, hline, hlabelled⟩ := List.exists_of_findSome?_eq_some hfingerprint
  apply head?_of_mem_pieces hcalm hline
  rw [Bundle.eq_append_of_labelled? hlabelled]
  rfl

/-! ### Other texts -/

/-- What is neither an array nor an object is no record. -/
theorem asRecord_readScalar (names : List String) (s : List Char) :
  ∃ fault, (readScalar s).1.asRecord names = .error fault
  := by
  have hnumeral : ∀ n : Numeral, ∃ fault, n.value.asRecord names = .error fault := by
    intro n
    have hdecimal : ∃ fault, n.decimal.asRecord names = .error fault := by
      unfold Numeral.decimal
      split <;> exact ⟨_, rfl⟩
    unfold Numeral.value
    dsimp only
    split
    · split
      · split
        · apply hdecimal
        · exact ⟨_, rfl⟩
      · split
        · exact ⟨_, rfl⟩
        · apply hdecimal
    · apply hdecimal
  have hword : ∀ (word : List Char) (b : Json), b = .null ∨ (∃ v, b = .bool v) →
      ∃ fault, (((Text.afterWord? word s).map fun r => (b, r)).getD (.broken, [])).1.asRecord names =
        .error fault := by
    intro word b hb
    cases Text.afterWord? word s with
    | none => exact ⟨_, rfl⟩
    | some r =>
      rcases hb with rfl | ⟨v, rfl⟩
      · exact ⟨_, rfl⟩
      · exact ⟨_, rfl⟩
  unfold readScalar
  split
  case h_1 =>
    split <;> exact ⟨_, rfl⟩
  case h_2 => exact hword _ _ (.inr ⟨_, rfl⟩)
  case h_3 => exact hword _ _ (.inr ⟨_, rfl⟩)
  case h_4 => exact hword _ _ (.inl rfl)
  case h_5 =>
    split
    case h_1 n last _ => apply hnumeral
    case h_2 => exact ⟨_, rfl⟩

/-- A text that begins with no separator and no opening bracket is no manifest. -/
theorem isNoManifest_of_head? (h : ∀ c ∈ text.toList.head?,
    isSeparator c = false ∧ c ≠ '[' ∧ c ≠ '{') :
  IsNoManifest text
  := by
  intro m hm
  have hrecord : ∃ fault, (Json.read text.toList).1.asRecord
      ["name", "fingerprint", "revision", "types"] = .error fault := by
    unfold Json.read
    cases htext : text.toList with
    | nil => exact ⟨_, rfl⟩
    | cons c rest =>
      obtain ⟨hseparator, harray, hobject⟩ := h c (by rw [htext]; rfl)
      rw [readValue_scalar _ hseparator harray hobject]
      apply asRecord_readScalar
  obtain ⟨fault, hfault⟩ := hrecord
  unfold Manifest.parse decode Manifest.ofJson at hm
  simp [hfault] at hm

theorem isNoManifest_of_head?_eq {c : Char} (h : text.toList.head? = some c)
    (hc : isSeparator c = false ∧ c ≠ '[' ∧ c ≠ '{') :
  IsNoManifest text
  := by
  apply isNoManifest_of_head?
  intro c' hc'
  rw [h] at hc'
  cases hc'
  exact hc

/-- Whether a character can begin no item of an array. -/
def BeginsNoItem (c : Char) : Prop :=
  isSeparator c = false ∧ c ∉ ['[', ']', '{', '"', 't', 'f', 'n', '-'] ∧ c.isDigit = false

instance (c : Char) : Decidable (BeginsNoItem c) :=
  inferInstanceAs (Decidable (_ ∧ _ ∧ _))

theorem readValue_of_beginsNoItem {c : Char} (hc : BeginsNoItem c) (fuel : Nat)
    (rest : List Char) :
  readValue (fuel + 1) (c :: rest) = (.broken, [])
  := by
  obtain ⟨hseparator, hplain, hdigit⟩ := hc
  simp only [List.mem_cons, List.not_mem_nil, or_false, not_or] at hplain
  obtain ⟨harray, -, hobject, hquote, ht, hf, hn, hsign⟩ := hplain
  rw [readValue_scalar fuel hseparator harray hobject]
  simp [readScalar, readNumeral, hquote, ht, hf, hn, hsign, hdigit]

/-- What begins like an array whose first item is none is no manifest. -/
theorem isNoManifest_of_beginsNoItem {c : Char} {rest : List Char} (hc : BeginsNoItem c)
    (h : text.toList = '[' :: c :: rest) :
  IsNoManifest text
  := by
  intro m hm
  have hclose : (skipSeparators (c :: rest)).head? ≠ some ']' := by
    rw [skipSeparators_cons hc.1]
    intro hhead
    cases hhead
    exact absurd hc.2.1 (by decide)
  have hread : (Json.read text.toList).1 = .array [.broken, .broken] := by
    unfold Json.read
    rw [h, readValue_array _ hclose]
    simp [readItems, readValue_of_beginsNoItem hc, skipSeparators]
  have hfault : Manifest.ofJson (.array [.broken, .broken]) = .error .syntactic := rfl
  unfold Manifest.parse decode at hm
  simp [hread, hfault] at hm

/-- The record of a failure is no manifest, as its code is no item of an array. -/
theorem isNoManifest_record (e : ModelsError) :
  IsNoManifest e.record
  := by
  have hhead : e.code.toList.head? ∈ ['S', 'C', 'L', 'E', 'I', 'W'].map some := by
    cases e <;> simp only [ModelsError.code] <;> decide
  have hletters : ['S', 'C', 'L', 'E', 'I', 'W'].all (fun c => decide (BeginsNoItem c)) = true := by
    decide
  obtain ⟨c, hc, hfirst⟩ := List.mem_map.mp hhead
  obtain ⟨code, hcode⟩ : ∃ code, e.code.toList = c :: code := by
    cases hcode : e.code.toList with
    | nil =>
      rw [hcode] at hfirst
      cases hfirst
    | cons d code =>
      rw [hcode] at hfirst
      cases hfirst
      use code
  have hrecord : e.record.toList = '[' :: c :: (code ++ ("] " ++ e.message).toList) := by
    simp [ModelsError.record, hcode]
  apply isNoManifest_of_beginsNoItem _ hrecord
  apply of_decide_eq_true (List.all_eq_true.mp hletters c hc)

theorem isNoManifest_empty :
  IsNoManifest ""
  := isNoManifest_of_head? (by simp)

theorem isNoManifest_emit (s : Snapshot) (files : UserFiles) :
  IsNoManifest (Emission.emit s files)
  := by
  have hhead : (Emission.emit s files).toList.head? = some 'u' := by
    rw [Emission.emit, Emission.emittedLines, toList_unlines, List.map_cons, Text.joinLines_cons,
      List.head?_append]
    rfl
  apply isNoManifest_of_head?_eq hhead (by decide)

theorem isNoManifest_relativePath (j : Cache.Job) :
  IsNoManifest j.relativePath
  := by
  have hhead : j.relativePath.toList.head? = some 'C' := by
    simp [Cache.Job.relativePath, compiledName]
  apply isNoManifest_of_head?_eq hhead (by decide)

/-- A fingerprint is no manifest. -/
theorem isNoManifest_of_isLowerHex (h : ∀ c ∈ text.toList, Text.isLowerHex c = true) :
  IsNoManifest text
  := by
  apply isNoManifest_of_head?
  intro c hc
  have hhex := h c (List.mem_of_mem_head? hc)
  refine ⟨?_, ?_, ?_⟩
  · rw [Bool.eq_false_iff]
    intro hseparator
    simp only [isSeparator, Bool.or_eq_true, beq_iff_eq] at hseparator
    rcases hseparator with ((rfl | rfl) | rfl) | rfl <;> revert hhex <;> decide
  · rintro rfl
    revert hhex
    decide
  · rintro rfl
    revert hhex
    decide

end

end LiveModels
