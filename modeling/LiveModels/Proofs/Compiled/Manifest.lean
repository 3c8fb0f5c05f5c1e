import LiveModels.Compiled.Manifest
import LiveModels.Proofs.Json.RoundTrip
import LiveModels.Proofs.Result

/-!
# Manifests are read back

The manifest that was written is the one that is read. A module that is loaded from the file of a
manifest is therefore the one that was compiled to that file.
-/

namespace LiveModels

open Json

namespace Declaration

/-- A declaration is what its tree denotes. -/
theorem ofJson_toJson (d : Declaration) :
  ofJson d.toJson = .ok d
  := by
  obtain ⟨typeName, aliasName⟩ := d
  cases aliasName <;> rfl

theorem isPlain_toJson (d : Declaration) :
  d.toJson.IsPlain
  := by
  obtain ⟨typeName, aliasName⟩ := d
  cases aliasName <;> simp [toJson, IsPlain, MembersPlain]

end Declaration

namespace Manifest

/-- Declarations are what their trees denote. -/
theorem mapM_ofJson_toJson (ds : List Declaration) :
  ds.mapM (Declaration.ofJson ∘ Declaration.toJson) = .ok ds
  := by
  induction ds with
  | nil => rfl
  | cons d rest ih => simp [Declaration.ofJson_toJson, ih]

theorem revisionOfJson_int (w : UInt64) :
  revisionOfJson (Json.int w.toNat) = .ok w
  := by
  have hword : w.toNat ≤ Text.largestWord := by
    have := w.toNat_lt
    simp only [Text.largestWord]
    omega
  simp [revisionOfJson, Json.int, asInteger, hword]

/-- A manifest is what its tree denotes. -/
theorem ofJson_toJson (m : Manifest) :
  ofJson m.toJson = .ok m
  := by
  simp [ofJson, toJson, asRecord, Fields.read, asText, fill, revisionOfJson_int, asList,
    mapM_ofJson_toJson, required, Except.map]

theorem isPlain_toJson (m : Manifest) :
  m.toJson.IsPlain
  := by
  have hword : m.revision.toNat ≤ Text.largestWord := by
    have := m.revision.toNat_lt
    simp only [Text.largestWord]
    omega
  have hleast : -0x8000000000000000 ≤ (m.revision.toNat : Int) := by omega
  have hdeclarations : ItemsPlain (m.types.map Declaration.toJson) := by
    rw [itemsPlain_iff, List.forall_mem_map]
    intro d _
    apply d.isPlain_toJson
  simp [toJson, IsPlain, MembersPlain, Json.int, hdeclarations, hword, hleast]

/-- A manifest is what its text denotes. -/
theorem parse_print (m : Manifest) :
  parse m.print = .ok m
  := by
  rw [parse, decode, print, read_pretty m.isPlain_toJson]
  simp [ofJson_toJson]

/-- The manifest of a source holds what its header says and what it declares. -/
theorem ofSource_eq_ok {moduleName source : String} {m : Manifest}
    (h : ofSource moduleName source = .ok m) :
  ∃ header, Bundle.header? source = some header ∧
    m = ⟨moduleName, header.fingerprint, header.revision, Declaration.declared source⟩
  := by
  unfold ofSource at h
  split at h
  · cases h
  · split at h
    · cases h
    case h_2 header hheader =>
      cases h
      use header, hheader

/-- A module that has been saved stands for its manifest. -/
theorem eq_toModule_of_save {m : Manifest} {tree : Tree} {output : Path} {module : Module}
    (h : (m.save tree output).2 = .ok module) :
  module = m.toModule output
  := by
  have hwrite : ∀ {tree : Tree}, (m.write tree output).2 = .ok module →
      module = m.toModule output := by
    intro tree hwrite
    unfold write at hwrite
    split at hwrite <;> cases hwrite
    rfl
  unfold save at h
  split at h
  · apply hwrite h
  · split at h
    · apply hwrite h
    · cases h

/-- A module that has been compiled stands for the manifest of its source. -/
theorem ofSource_of_compile {tree tree' : Tree} {moduleName source : String} {output : Path}
    {module : Module} (h : compile tree moduleName source output = (tree', .ok module)) :
  ∃ m, ofSource moduleName source = .ok m ∧ module = m.toModule output
  := by
  unfold compile at h
  split at h
  · cases h
  case h_2 m hm =>
    have hsaved : (m.save tree output).2 = .ok module := by rw [h]
    use m, hm, eq_toModule_of_save hsaved

/-- What is compiled without a failure is the module of the manifest of the source. -/
theorem compile_eq_of_ofSource {tree : Tree} {moduleName source : String} {output : Path}
    {m : Manifest} (hm : ofSource moduleName source = .ok m)
    (h : (compile tree moduleName source output).2.toOption.isSome = true) :
  compile tree moduleName source output =
    ((compile tree moduleName source output).1, .ok (m.toModule output))
  := by
  cases hcompile : compile tree moduleName source output with
  | mk tree' result =>
    rw [hcompile] at h
    cases result with
    | error e => cases h
    | ok module =>
      obtain ⟨m', hm', rfl⟩ := ofSource_of_compile hcompile
      cases hm.symm.trans hm'
      rfl

/-- A module that is loaded stands for the manifest whose text is at its path. -/
theorem load_eq_ok {tree : Tree} {location : Path} {module : Module}
    (h : load tree location = .ok module) :
  ∃ text m, tree.readText location = .ok text ∧ parse text = .ok m ∧ module = m.toModule location
  := by
  unfold load at h
  split at h
  · cases h
  case h_2 text hread =>
    split at h
    · cases h
    case h_2 m hm =>
      cases h
      use text, m

end Manifest

end LiveModels
