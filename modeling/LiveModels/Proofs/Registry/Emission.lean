import LiveModels.Proofs.Compiled.Manifest
import LiveModels.Proofs.Registry.Outcome
import LiveModels.Proofs.Snapshot.Outcome
import LiveModels.Proofs.Source.Sections

/-!
# Registries of emitted models

The bundle of the emitted source of a snapshot compiles to a module with a model for each type. The
module can be registered, and its registry maps types as the emitted source renders them.
-/

namespace LiveModels

open Text Declaration

namespace Registry

variable {s : Snapshot}

/-- The model that is registered for a type. -/
def entryOf (t : TypeDescriptor) : RegistryEntry where
  aliasName := t.aliasName
  typeName := t.bindingName
  type := .named t.bindingName
  constructor := ⟨true, [.element], t.bindingName⟩

/-- The entry of the model that is exported for a type. -/
theorem eq_entryOf {e : RegistryEntry} {t : TypeDescriptor} (h : e.Describes t.model.exported) :
  e = entryOf t
  := by
  obtain ⟨aliasName, typeName, type, c⟩ := e
  obtain ⟨rfl, rfl, rfl, hc⟩ := h
  cases hc
  rfl

/-- The models of types with different aliases are registered. -/
theorem ofTypes_models {ts : List TypeDescriptor}
    (hnodup : (ts.map fun t => lower t.aliasName).Nodup) :
  ofTypes (ts.map fun t => t.model.exported) = .ok ⟨ts.map entryOf⟩
  := by
  have hmodels : (ts.map fun t => t.model.exported).filter (·.isModel) =
      ts.map fun t => t.model.exported := by
    rw [List.filter_eq_self, List.forall_mem_map]
    intro t _
    rfl
  have hregistrable : ExportedType.AreRegistrable (ts.map fun t => t.model.exported) := by
    refine ⟨?_, ?_⟩
    · rw [List.forall_mem_map]
      intro t _
      rfl
    · rw [List.map_map]
      apply hnodup
  obtain ⟨⟨entries⟩, hr, hholds⟩ := exists_holds hregistrable
  rw [ofTypes, hmodels, hr]
  rw [Holds, List.forall₂_map_right_iff] at hholds
  have hentries : entries = ts.map entryOf := by
    rw [← List.forall₂_eq_eq_eq, List.forall₂_map_right_iff]
    exact hholds.imp fun _ _ => eq_entryOf
  rw [hentries]

/-- The models of a snapshot are found by the lower-case forms of their aliases. -/
theorem get?_byAlias_eq_some_iff (hs : s.IsNamed) {aliasName : String} {e : RegistryEntry} :
  get? ⟨s.byAlias.map entryOf⟩ aliasName = some e ↔
    ∃ t ∈ s.types, lower t.aliasName = lower aliasName ∧ entryOf t = e
  := by
  rw [get?_eq_some_iff]
  · rw [List.mem_map]
    constructor
    · rintro ⟨⟨t, ht, rfl⟩, hkey⟩
      exact ⟨t, Snapshot.mem_byAlias.mp ht, hkey, rfl⟩
    · rintro ⟨t, ht, hkey, rfl⟩
      exact ⟨⟨t, Snapshot.mem_byAlias.mpr ht, rfl⟩, hkey⟩
  · rw [List.map_map]
    exact ((List.mergeSort_perm _ _).map _).symm.nodup hs.nodup

/-- The registry of a snapshot resolves references to models as its emitted source does. -/
theorem resolve_eq (hs : s.IsNamed) :
  resolve ⟨s.byAlias.map entryOf⟩ = Emission.resolve s
  := by
  funext aliasName
  rw [resolve, Emission.resolve]
  cases hfind : get? ⟨s.byAlias.map entryOf⟩ aliasName with
  | some entry =>
    obtain ⟨t, ht, halias, rfl⟩ := (get?_byAlias_eq_some_iff hs).mp hfind
    have hname : s.bindingName? (lower aliasName) = some t.bindingName := by
      rw [Snapshot.bindingName?_eq_some_iff hs, ← halias]
      apply List.mem_map_of_mem (Snapshot.mem_byAlias.mpr ht)
    rw [hname]
    rfl
  | none =>
    have hname : s.bindingName? (lower aliasName) = none := by
      rw [Option.eq_none_iff_forall_ne_some]
      intro name hname
      obtain ⟨t, ht, heq⟩ := List.mem_map.mp ((Snapshot.bindingName?_eq_some_iff hs).mp hname)
      have hfound := (get?_byAlias_eq_some_iff hs).mpr
        ⟨t, Snapshot.mem_byAlias.mp ht, (Prod.mk.inj heq).1, rfl⟩
      cases hfind.symm.trans hfound
    rw [hname]

end Registry

/-! ### Built snapshots -/

theorem Snapshot.bindingName_ne_empty_of_ofView {view : SchemaView} {policy : NamingPolicy}
    {s : Snapshot} (h : ofView view policy = .ok s) {t : TypeDescriptor} (ht : t ∈ s.types) :
  t.bindingName ≠ ""
  := by
  obtain ⟨aliasName, displayName, hname⟩ := exists_bindingName_of_ofView h ht
  rw [hname]
  apply policy.bindingName_ne_empty

/-- What is built can be declared if it has aliases. -/
theorem Snapshot.areDeclarable_of_ofView {view : SchemaView} {policy : NamingPolicy} {s : Snapshot}
    (h : ofView view policy = .ok s) (haliases : ∀ t ∈ s.types, t.aliasName ≠ "") :
  Emission.AreDeclarable s
  := by
  intro t ht
  exact ⟨haliases t ht, bindingName_ne_empty_of_ofView h ht, ((isNamed_of_ofView h).types t ht).isWord⟩

/-- Whether manifests can be saved to a file. -/
def Tree.CanSave (tree : Tree) (output : Path) : Prop :=
  ∀ m : Manifest, ∃ module, (m.save tree output).2 = .ok module

/-- A source that has a header and asks for no compile error is compiled to what it declares. -/
theorem Manifest.ofSource_eq {source : String} {header : Header}
    (herror : hasError source.toList = false) (hheader : Bundle.header? source = some header)
    (name : String) :
  ofSource name source =
    .ok ⟨name, header.fingerprint, header.revision, Declaration.declared source⟩
  := by
  rw [hasError, Option.isSome_eq_false_iff, Option.isNone_iff_eq_none] at herror
  rw [ofSource, herror, hheader]

namespace Emission

variable {s : Snapshot} {fingerprint : String}

/-- The manifest with the models that are emitted for a snapshot beside no files of users. -/
def manifest (s : Snapshot) (name fingerprint : String) (revision : UInt64) : Manifest :=
  ⟨name, fingerprint, revision, (emittedTypes s []).map TypeDescriptor.model⟩

/-- The bundle of the emitted source of a snapshot is compiled to its models. -/
theorem ofSource_render (hs : s.IsNamed) (hdeclarable : AreDeclarable s)
    (hattribute : s.Avoids attributeWord) (herror : s.Avoids errorWord)
    (haliases : ∀ t ∈ s.types, ¬ errorWord <:+: t.aliasName.toList) (hne : fingerprint ≠ "")
    (hhex : ∀ c ∈ fingerprint.toList, isLowerHex c = true) (revision : UInt64) (name : String) :
  Manifest.ofSource name (Bundle.render ⟨fingerprint, revision, [], emit s []⟩) =
    .ok (manifest s name fingerprint revision)
  := by
  rw [Manifest.ofSource_eq (Bundle.hasError_render hs herror haliases hhex)
    (Bundle.header?_render hne hhex), Bundle.declared_render hs hdeclarable hattribute hhex, manifest]

/-- Without files of users a model is emitted for every type. -/
theorem emittedTypes_nil (s : Snapshot) :
  emittedTypes s [] = s.byAlias
  := by
  rw [emittedTypes, List.filter_eq_self]
  intro t _
  rfl

theorem nodup_byAlias (hs : s.IsNamed) :
  (s.byAlias.map fun t => lower t.aliasName).Nodup
  := ((List.mergeSort_perm _ _).map _).symm.nodup hs.nodup

/-- The module with the models of a snapshot can be registered. -/
theorem build_manifest (hs : s.IsNamed) (name fingerprint : String) (revision : UInt64)
    (location : Path) :
  Registry.build ((manifest s name fingerprint revision).toModule location) =
    .ok ⟨s.byAlias.map Registry.entryOf⟩
  := by
  rw [Registry.build, Manifest.toModule, manifest, emittedTypes_nil, List.map_map]
  apply Registry.ofTypes_models (nodup_byAlias hs)

/-- The emitted source of a snapshot that is built declares exactly the models of the types that no
user declares, in the order of their aliases. Its bundle compiles and can be registered, with one
model for each type, and the registry maps types to the texts that are emitted. -/
theorem emit_agrees {tree : Tree} {store : Store} {policy : NamingPolicy}
    (hbuild : Snapshot.build tree store policy = .ok s) (hnames : ∀ t ∈ s.types, t.aliasName ≠ "")
    (hattribute : s.Avoids attributeWord) :
  (∀ files, ∃ ts : List TypeDescriptor,
      (∀ t, t ∈ ts ↔ t ∈ s.types ∧ ¬ IsDeclared files t.aliasName) ∧
      (ts.Pairwise fun t t' => t.aliasName < t'.aliasName) ∧
      Declaration.declared (emit s files) = ts.map fun t => ⟨t.bindingName, some t.aliasName⟩) ∧
    (s.Avoids errorWord → (∀ t ∈ s.types, ¬ errorWord <:+: t.aliasName.toList) →
      ∀ fingerprint, fingerprint ≠ "" → (∀ c ∈ fingerprint.toList, isLowerHex c = true) →
      ∀ (revision : UInt64) (name : String) (tree : Tree) (output : Path), tree.CanSave output →
      ∃ tree' module registry,
        Manifest.compile tree name (Bundle.render ⟨fingerprint, revision, [], emit s []⟩) output =
            (tree', .ok module) ∧
        Registry.build module = .ok registry ∧
        (registry.entries.map fun e => (e.aliasName, e.typeName)).Perm
            (s.types.map fun t => (t.aliasName, t.bindingName)) ∧
        ∀ type, (registry.mapType type).text = (type.mapModels (resolve s)).text)
  := by
  obtain ⟨view, -, hview⟩ := Result.bind_eq_ok_iff.mp hbuild
  have hs := Snapshot.isNamed_of_ofView hview
  have hdeclarable := Snapshot.areDeclarable_of_ofView hview hnames
  constructor
  · intro files
    refine ⟨emittedTypes s files, fun t => mem_emittedTypes_iff, pairwise_emittedTypes hs files, ?_⟩
    apply declared_emit hdeclarable (hattribute.isFreeOf isMarked_attributeWord hs)
  · intro herror haliases fingerprint hne hhex revision name tree output hsave
    have hsource := ofSource_render hs hdeclarable hattribute herror haliases hne hhex revision name
    obtain ⟨module, hmodule⟩ := hsave (manifest s name fingerprint revision)
    obtain rfl := Manifest.eq_toModule_of_save hmodule
    refine ⟨((manifest s name fingerprint revision).save tree output).1, _,
      ⟨s.byAlias.map Registry.entryOf⟩, ?_, build_manifest hs name fingerprint revision output, ?_, ?_⟩
    · rw [Manifest.compile, hsource, ← hmodule]
    · rw [List.map_map]
      apply (List.mergeSort_perm _ _).map
    · intro type
      rw [Registry.mapType, Registry.resolve_eq hs]

/-- The types of the journal: a page with a title, and the element of which it is composed. -/
theorem exists_types_journal {s : Snapshot}
    (h : List.Forall₂ (Document.journal.Describes .rawAlias) Document.journal.stored s.types) :
  ∃ page seo title, s.types = [page, seo] ∧ page.properties = [title] ∧
    title.type = .named "String" ∧
    Document.journal.Describes .rawAlias (.content, ⟨1, "page", "Page", none, -1, false, [2],
      [⟨"title", "Title", none, "Textbox"⟩]⟩) page ∧
    Document.journal.Describes .rawAlias (.content, ⟨2, "seo", "Seo", none, -1, true, [], []⟩) seo
  := by
  have hstored : Document.journal.stored =
      Document.journal.contentTypes.map (Prod.mk .content) := by
    decide +kernel
  rw [hstored, Document.journal, List.map_cons, List.map_singleton] at h
  generalize s.types = ts at h ⊢
  obtain _ | ⟨ht, _ | ⟨hu, ⟨⟩⟩⟩ := h
  obtain ⟨title, _, htitle, hnil, hpage⟩ := List.forall₂_cons_left_iff.mp ht.properties
  obtain rfl := List.forall₂_nil_left_iff.mp hnil
  have htype : RuntimeType.named "String" = title.type := Option.some.inj htitle.type
  exact ⟨_, _, title, rfl, hpage, htype.symm, ht, hu⟩

/-- The types of the journal have aliases and mention no marked word. -/
theorem avoids_journal {word : List Char} (hword : IsMarked word) {s : Snapshot}
    (h : List.Forall₂ (Document.journal.Describes .rawAlias) Document.journal.stored s.types) :
  s.Avoids word ∧ ∀ t ∈ s.types, t.aliasName ≠ "" ∧ ¬ word <:+: t.aliasName.toList
  := by
  obtain ⟨page, seo, title, hs, hpage, htype, ht, hu⟩ := exists_types_journal h
  have hseo := List.forall₂_nil_left_iff.mp hu.properties
  have hplain : ∀ text ∈ ["page", "Page", "seo", "Seo", "String"], ¬ word <:+: text.toList := by
    intro text htext
    apply hword.not_infix
    · revert text
      decide
    · revert text
      decide
  simp only [List.forall_mem_cons] at hplain
  obtain ⟨hpage', hPage, hseo', hSeo, hString, -⟩ := hplain
  constructor
  · constructor
    · simp only [hs, List.forall_mem_cons, ht.displayName, hu.displayName]
      exact ⟨hPage, hSeo, List.forall_mem_nil _⟩
    · simp only [hs, List.forall_mem_cons, ht.description, hu.description]
      exact ⟨nofun, nofun, List.forall_mem_nil _⟩
    · simp only [hs, List.forall_mem_cons, hseo, hpage, htype, RuntimeType.mapModels,
        RuntimeType.text_named]
      exact ⟨⟨hString, List.forall_mem_nil _⟩, List.forall_mem_nil _, List.forall_mem_nil _⟩
  · simp only [hs, List.forall_mem_cons, ht.aliasName, hu.aliasName]
    exact ⟨⟨by decide, hpage'⟩, ⟨by decide, hseo'⟩, List.forall_mem_nil _⟩

theorem emit_journal_agrees :
  ∃ s, Snapshot.build ⟨[]⟩ (.memory Document.journal) .rawAlias = .ok s ∧
    (∃ ts : List TypeDescriptor, (∀ t, t ∈ ts ↔ t ∈ s.types ∧ ¬ IsDeclared [] t.aliasName) ∧
      (ts.Pairwise fun t t' => t.aliasName < t'.aliasName) ∧
      Declaration.declared (emit s []) = ts.map fun t => ⟨t.bindingName, some t.aliasName⟩) ∧
    ∃ tree module registry,
      Manifest.compile ⟨[]⟩ "models" (Bundle.render ⟨"ab", 1, [], emit s []⟩) ⟨"models.json"⟩ =
        (tree, .ok module) ∧
      Registry.build module = .ok registry ∧
      (registry.entries.map fun e => (e.aliasName, e.typeName)).Perm
        (s.types.map fun t => (t.aliasName, t.bindingName))
  := by
  obtain ⟨s, hs, hdescribes⟩ := Document.isConsistent_journal.exists_snapshot
  obtain ⟨hattribute, hnames⟩ := avoids_journal isMarked_attributeWord hdescribes
  obtain ⟨herror, haliases⟩ := avoids_journal isMarked_errorWord hdescribes
  have hbuild : Snapshot.build ⟨[]⟩ (.memory Document.journal) .rawAlias = .ok s := hs
  obtain ⟨hdeclares, hregisters⟩ := emit_agrees hbuild (fun t ht => (hnames t ht).1) hattribute
  have hsave : Tree.CanSave ⟨[]⟩ ⟨"models.json"⟩ := fun m => ⟨_, rfl⟩
  obtain ⟨tree, module, registry, hcompile, hregistry, hperm, -⟩ :=
    hregisters herror (fun t ht => (haliases t ht).2) "ab" (by decide)
      (List.all_eq_true.mp rfl) 1 "models" ⟨[]⟩ ⟨"models.json"⟩ hsave
  exact ⟨s, hs, hdeclares [], tree, module, registry, hcompile, hregistry, hperm⟩

end Emission

end LiveModels
