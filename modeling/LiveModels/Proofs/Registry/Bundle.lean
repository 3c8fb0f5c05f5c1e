import LiveModels.Proofs.Registry.Emission

/-!
# Registries of bundles

The bundle of the files of users and of the emitted source is compiled to a module, which exports
what its sections declare. It can be registered if and only if the files declare no alias twice. Its
registry serves the types of users for the aliases that they declare, and the binding names for all
others, so that it resolves references as the emitted source does unless users declare them under
other names.
-/

namespace LiveModels

open Text Declaration Emission

/-- What is compiled is what the source declares. -/
theorem Manifest.types_of_compile {tree tree' : Tree} {name source : String} {output : Path}
    {module : Module} (h : compile tree name source output = (tree', .ok module)) :
  module.types = (declared source).map Declaration.exported
  := by
  unfold compile at h
  split at h
  · cases h
  case h_2 m hm =>
    have hsave : (m.save tree output).2 = .ok module := by rw [h]
    rw [eq_toModule_of_save hsave]
    unfold ofSource at hm
    split at hm
    · cases hm
    · split at hm
      · cases hm
      · cases hm
        rfl

/-- The lower-case form of the alias that a declaration binds. -/
def Declaration.key (d : Declaration) : String :=
  lower d.effectiveAlias

theorem TypeDescriptor.key_model (t : TypeDescriptor) :
  t.model.key = lower t.aliasName
  := rfl

/-- All exported declarations are models. -/
theorem Module.models_of_types {module : Module} {ds : List Declaration}
    (h : module.types = ds.map Declaration.exported) :
  module.models = ds.map Declaration.exported
  := by
  rw [models, h, List.filter_eq_self, List.forall_mem_map]
  intro d _
  rfl

/-- Declarations can be registered together if and only if no alias is declared twice. -/
theorem areRegistrable_exported_iff {ds : List Declaration} :
  ExportedType.AreRegistrable (ds.map Declaration.exported) ↔ (ds.map Declaration.key).Nodup
  := by
  constructor
  · intro h
    have haliases := h.aliases
    rwa [List.map_map] at haliases
  · intro h
    refine ⟨?_, ?_⟩
    · rw [List.forall_mem_map]
      intro d _
      rfl
    · rwa [List.map_map]

/-- What the files of users declare. -/
def UserFiles.declarations (files : UserFiles) : List Declaration :=
  files.flatMap fun f => declared f.2

/-- What the files of users declare, and the models of the types that they do not declare. -/
def Emission.declarations (s : Snapshot) (files : UserFiles) : List Declaration :=
  files.declarations ++ (emittedTypes s files).map TypeDescriptor.model

/-- Whether the files of users give an alias the name that it has in the snapshot, if they declare a
model for it. -/
def KeepsName (s : Snapshot) (files : UserFiles) (aliasName : String) : Prop :=
  ∀ d ∈ files.declarations, d.key = lower aliasName →
    s.bindingName? (lower aliasName) = some d.typeName

/-- Whether an alias is declared under the name that it has in the snapshot, and under no other one. -/
def NamesAlike (s : Snapshot) (ds : List Declaration) (aliasName : String) : Prop :=
  ∀ name, s.bindingName? (lower aliasName) = some name ↔
    ∃ d ∈ ds, d.key = lower aliasName ∧ d.typeName = name

section

variable {s : Snapshot} {files : UserFiles} {ds : List Declaration} {module : Module} {r : Registry}
  {aliasName : String}

theorem isDeclared_iff :
  IsDeclared files aliasName ↔ ∃ d ∈ files.declarations, d.key = lower aliasName
  := by
  simp only [IsDeclared, UserFiles.declarations, List.mem_flatMap, Declaration.key]
  constructor
  · rintro ⟨f, hf, d, hd, heq⟩
    exact ⟨d, ⟨f, hf, hd⟩, heq⟩
  · rintro ⟨d, ⟨f, hf, hd⟩, heq⟩
    exact ⟨f, hf, d, hd, heq⟩

/-! ### Registration -/

/-- No two models are emitted for one alias. -/
theorem nodup_emittedTypes (hs : s.IsNamed) (files : UserFiles) :
  (((emittedTypes s files).map TypeDescriptor.model).map Declaration.key).Nodup
  := by
  rw [List.map_map]
  apply List.Nodup.sublist (List.Sublist.map _ List.filter_sublist) (nodup_byAlias hs)

/-- No alias is declared twice if the files of users declare none twice. -/
theorem nodup_declarations_iff (hs : s.IsNamed) :
  ((declarations s files).map Declaration.key).Nodup ↔
    (files.declarations.map Declaration.key).Nodup
  := by
  rw [declarations, List.map_append, List.nodup_append]
  constructor
  · rintro ⟨hfiles, -, -⟩
    apply hfiles
  · intro hfiles
    refine ⟨hfiles, nodup_emittedTypes hs files, ?_⟩
    intro k hk k' hk' heq
    obtain ⟨d, hd, rfl⟩ := List.mem_map.mp hk
    rw [List.map_map, List.mem_map] at hk'
    obtain ⟨t, ht, rfl⟩ := hk'
    apply (mem_emittedTypes_iff.mp ht).2
    rw [isDeclared_iff]
    exact ⟨d, hd, heq⟩

/-- A bundle can be registered if and only if the files of users declare no alias twice. -/
theorem exists_build_iff (hs : s.IsNamed)
    (htypes : module.types = (declarations s files).map Declaration.exported) :
  (∃ r, Registry.build module = .ok r) ↔ (files.declarations.map Declaration.key).Nodup
  := by
  rw [(Registry.build_exact module).1, Module.models_of_types htypes, areRegistrable_exported_iff,
    nodup_declarations_iff hs]

/-- An alias that is declared twice is declared by a user. -/
theorem isDeclared_of_duplicateAlias (hs : s.IsNamed)
    (htypes : module.types = (declarations s files).map Declaration.exported) {first second : String}
    (h : Registry.build module = .error (.duplicateAlias aliasName first second)) :
  IsDeclared files aliasName
  := by
  obtain ⟨before, t, after, hmodels, -, hfault⟩ := ((Registry.build_exact module).2.2 _).mp h
  cases hfault with
  | @duplicate t' _ ht' hkey =>
    rw [isDeclared_iff]
    by_contra hnone
    rw [Module.models_of_types htypes] at hmodels
    have hkeys : (declarations s files).map Declaration.key =
        before.map ExportedType.key ++ t.key :: after.map ExportedType.key := by
      rw [← List.map_cons, ← List.map_append, ← hmodels, List.map_map]
      rfl
    -- The key occurs before the second model with it, and is not that of a file.
    have htwice : 2 ≤ ((declarations s files).map Declaration.key).count t.key := by
      have hfirst : 0 < (before.map ExportedType.key).count t.key := by
        rw [List.count_pos_iff, ← hkey]
        apply List.mem_map_of_mem ht'
      rw [hkeys, List.count_append, List.count_cons_self]
      omega
    have hfiles : (files.declarations.map Declaration.key).count t.key = 0 := by
      rw [List.count_eq_zero]
      intro hmem
      obtain ⟨d, hd, hd'⟩ := List.mem_map.mp hmem
      exact hnone ⟨d, hd, hd'⟩
    have honce := List.nodup_iff_count_le_one.mp (nodup_emittedTypes hs files) t.key
    rw [declarations, List.map_append, List.count_append] at htwice
    omega

/-! ### Names -/

/-- What is declared is registered under its alias and its name. -/
theorem get?_of_mem_declarations (htypes : module.types = ds.map Declaration.exported)
    (hr : Registry.build module = .ok r) {d : Declaration} (hd : d ∈ ds)
    (hkey : d.key = lower aliasName) :
  ∃ e, r.get? aliasName = some e ∧ e.typeName = d.typeName ∧ e.type = .named d.typeName
  := by
  have hserves := (Registry.build_exact module).2.1 r hr
  rw [Module.models_of_types htypes] at hserves
  obtain ⟨e, he, hdescribes⟩ := hserves.get aliasName d.exported (List.mem_map_of_mem hd) hkey
  exact ⟨e, he, hdescribes.typeName, hdescribes.type⟩

theorem get?_eq_none_of_not_mem (htypes : module.types = ds.map Declaration.exported)
    (hr : Registry.build module = .ok r) (hkey : ∀ d ∈ ds, d.key ≠ lower aliasName) :
  r.get? aliasName = none
  := by
  have hserves := (Registry.build_exact module).2.1 r hr
  rw [Module.models_of_types htypes] at hserves
  apply hserves.get_unknown
  rw [List.forall_mem_map]
  apply hkey

/-- An alias has an entry if and only if it is declared. -/
theorem exists_get?_iff (htypes : module.types = ds.map Declaration.exported)
    (hr : Registry.build module = .ok r) :
  (∃ e, r.get? aliasName = some e) ↔ ∃ d ∈ ds, d.key = lower aliasName
  := by
  constructor
  · rintro ⟨e, he⟩
    by_contra hnone
    push Not at hnone
    rw [get?_eq_none_of_not_mem htypes hr hnone] at he
    cases he
  · rintro ⟨d, hd, hkey⟩
    obtain ⟨e, he, -⟩ := get?_of_mem_declarations htypes hr hd hkey
    exact ⟨e, he⟩

/-- The names under which an alias is declared are those under which it is registered. -/
theorem namesAlike_iff (htypes : module.types = ds.map Declaration.exported)
    (hr : Registry.build module = .ok r) :
  NamesAlike s ds aliasName ↔
    (r.get? aliasName).map (·.typeName) = s.bindingName? (lower aliasName)
  := by
  have hserved : ∀ name, (r.get? aliasName).map (·.typeName) = some name ↔
      ∃ d ∈ ds, d.key = lower aliasName ∧ d.typeName = name := by
    intro name
    constructor
    · intro h
      obtain ⟨e, he, rfl⟩ := Option.map_eq_some_iff.mp h
      obtain ⟨d, hd, hkey⟩ := (exists_get?_iff htypes hr).mp ⟨e, he⟩
      obtain ⟨e', he', hname, -⟩ := get?_of_mem_declarations htypes hr hd hkey
      obtain rfl := Option.some.inj (he.symm.trans he')
      exact ⟨d, hd, hkey, hname.symm⟩
    · rintro ⟨d, hd, hkey, rfl⟩
      obtain ⟨e, he, hname, -⟩ := get?_of_mem_declarations htypes hr hd hkey
      rw [he, Option.map_some, hname]
  constructor
  · intro h
    ext name
    rw [hserved, h name]
  · intro h name
    rw [← h, hserved]

/-- The registry resolves a reference as the emitted source does if and only if its alias is declared
under the name that it has in the snapshot. -/
theorem resolve_eq_iff (htypes : module.types = ds.map Declaration.exported)
    (hr : Registry.build module = .ok r) :
  r.resolve aliasName = resolve s aliasName ↔ NamesAlike s ds aliasName
  := by
  rw [namesAlike_iff htypes hr, Registry.resolve, resolve]
  cases he : r.get? aliasName with
  | none => cases s.bindingName? (lower aliasName) <;> simp
  | some e =>
    obtain ⟨d, hd, hkey⟩ := (exists_get?_iff htypes hr).mp ⟨e, he⟩
    obtain ⟨e', he', hname, htype⟩ := get?_of_mem_declarations htypes hr hd hkey
    obtain rfl := Option.some.inj (he.symm.trans he')
    cases s.bindingName? (lower aliasName) <;> simp [htype, hname]

/-- The declaration for the alias of a type is that of a user, or the emitted one. -/
theorem exists_declaration {t : TypeDescriptor} (ht : t ∈ s.types) (files : UserFiles) :
  ∃ d ∈ declarations s files, d.key = lower t.aliasName ∧ (d ∈ files.declarations ∨ d = t.model)
  := by
  by_cases hdeclared : IsDeclared files t.aliasName
  · obtain ⟨d, hd, hkey⟩ := isDeclared_iff.mp hdeclared
    exact ⟨d, List.mem_append_left _ hd, hkey, .inl hd⟩
  · have hmem := mem_emittedTypes_iff.mpr ⟨ht, hdeclared⟩
    exact ⟨t.model, List.mem_append_right _ (List.mem_map_of_mem hmem), rfl, .inr rfl⟩

theorem bindingName?_of_mem (hs : s.IsNamed) {t : TypeDescriptor} (ht : t ∈ s.types) :
  s.bindingName? (lower t.aliasName) = some t.bindingName
  := (Snapshot.bindingName?_eq_some_iff hs).mpr (List.mem_map_of_mem (Snapshot.mem_byAlias.mpr ht))

/-- If the files of users keep the name of an alias, it is that of all declarations for the alias. -/
theorem KeepsName.typeName (h : KeepsName s files aliasName) (hs : s.IsNamed) {d : Declaration}
    (hd : d ∈ declarations s files) (hkey : d.key = lower aliasName) :
  s.bindingName? (lower aliasName) = some d.typeName
  := by
  rcases List.mem_append.mp hd with hd | hd
  · apply h d hd hkey
  · obtain ⟨t, ht, rfl⟩ := List.mem_map.mp hd
    rw [← hkey, TypeDescriptor.key_model, bindingName?_of_mem hs (mem_types_of_mem_emittedTypes ht)]
    rfl

/-- What is declared by the files of users and the emitted source names an alias as the snapshot does
if and only if the files keep its name. -/
theorem namesAlike_declarations_iff (hs : s.IsNamed) :
  NamesAlike s (declarations s files) aliasName ↔ KeepsName s files aliasName
  := by
  constructor
  · intro h d hd hkey
    apply (h d.typeName).mpr
    exact ⟨d, List.mem_append_left _ hd, hkey, rfl⟩
  · intro hkeeps name
    constructor
    · intro hname
      obtain ⟨t, ht, heq⟩ := List.mem_map.mp ((Snapshot.bindingName?_eq_some_iff hs).mp hname)
      obtain ⟨d, hd, hkey, -⟩ := exists_declaration (Snapshot.mem_byAlias.mp ht) files
      have hkey' := hkey.trans (Prod.mk.inj heq).1
      have hsame := (hkeeps.typeName hs hd hkey').symm.trans hname
      exact ⟨d, hd, hkey', Option.some.inj hsame⟩
    · rintro ⟨d, hd, hkey, rfl⟩
      apply hkeeps.typeName hs hd hkey

end

/-! ### Bundles -/

section

variable {s : Snapshot} {files : UserFiles}

/-- The bundle of separate files and of emitted source is compiled to what the files declare and the
emitted models, if no text in it mentions a compile error. -/
theorem Emission.exists_compile (hs : s.IsNamed) (hdeclarable : AreDeclarable s)
    (hattribute : s.Avoids attributeWord) (herror : s.Avoids errorWord)
    (haliases : ∀ t ∈ s.types, ¬ errorWord <:+: t.aliasName.toList) {fingerprint : String}
    (hne : fingerprint ≠ "") (hhex : ∀ c ∈ fingerprint.toList, isLowerHex c = true)
    (hfiles : ∀ f ∈ files, ¬ attributeWord <:+: f.1.toList ∧ Bundle.IsSeparate f.2.toList)
    (hclear : ∀ f ∈ files, ¬ errorWord <:+: f.1.toList ∧ ¬ errorWord <:+: f.2.toList)
    (revision : UInt64) (name : String) {tree : Tree} {output : Path} (hsave : tree.CanSave output) :
  declared (Bundle.render ⟨fingerprint, revision, files, emit s files⟩) = declarations s files ∧
    ∃ tree' module,
      Manifest.compile tree name (Bundle.render ⟨fingerprint, revision, files, emit s files⟩) output =
        (tree', .ok module) ∧
      module.types = (declarations s files).map Declaration.exported
  := by
  have hscan : declared (Bundle.render ⟨fingerprint, revision, files, emit s files⟩) =
      declarations s files :=
    Bundle.declared_render_emit hs hdeclarable hattribute
      (Bundle.not_infix_of_isLowerHex isMarked_attributeWord hhex)
      (fun f hf => (hfiles f hf).1) fun f hf => (hfiles f hf).2.carries
  have hquiet : hasError (Bundle.render ⟨fingerprint, revision, files, emit s files⟩).toList = false :=
    Bundle.hasError_render_emit hs herror haliases hhex hclear
  have hsource := Manifest.ofSource_eq hquiet (Bundle.header?_render hne hhex) name
  obtain ⟨module, hmodule⟩ :=
    hsave ⟨name, fingerprint, revision, declarations s files⟩
  refine ⟨hscan, (Manifest.save ⟨name, fingerprint, revision, declarations s files⟩ tree output).1,
    module, ?_, ?_⟩
  · rw [Manifest.compile, hsource, hscan, ← hmodule]
  · rw [Manifest.eq_toModule_of_save hmodule]
    rfl

/-- Scanning commutes with bundling. A bundle whose files are separate declares what its sections
declare one after the other, if the last section is separate as well or the emitted source of a
snapshot. In the second case its module exports the same, can be registered if and only if the files
declare no alias twice, and wants no alias twice that the files do not declare. -/
theorem Bundle.scanning_commutes {b : Bundle}
    (hfingerprint : ¬ attributeWord <:+: b.fingerprint.toList)
    (hfiles : ∀ f ∈ b.files, ¬ attributeWord <:+: f.1.toList ∧ IsSeparate f.2.toList) :
  (IsSeparate b.generated.toList → declared b.render = b.sections.flatMap fun s => declared s.2) ∧
    ∀ {tree : Tree} {store : Store} {policy : NamingPolicy} {s : Snapshot},
      Snapshot.build tree store policy = .ok s → (∀ t ∈ s.types, t.aliasName ≠ "") →
      s.Avoids attributeWord → b.generated = emit s b.files →
      (declared b.render = b.sections.flatMap fun s => declared s.2) ∧
        ∀ {tree tree' : Tree} {name : String} {output : Path} {module : Module},
          Manifest.compile tree name b.render output = (tree', .ok module) →
          module.types = (b.sections.flatMap fun s => declared s.2).map Declaration.exported ∧
            ((∃ r, Registry.build module = .ok r) ↔
              (b.files.declarations.map Declaration.key).Nodup) ∧
            ∀ aliasName first second,
              Registry.build module = .error (.duplicateAlias aliasName first second) →
              IsDeclared b.files aliasName
  := by
  have hnames := fun f hf => (hfiles f hf).1
  have hcarries : ∀ f ∈ b.files, Carries f.2.toList := fun f hf => (hfiles f hf).2.carries
  constructor
  · intro hgenerated
    apply declared_render_of_carries hfingerprint
    · rw [sections, List.forall_mem_append, List.forall_mem_singleton]
      exact ⟨hnames, not_infix_generatedName isMarked_attributeWord⟩
    · rw [sections, List.forall_mem_append, List.forall_mem_singleton]
      exact ⟨hcarries, hgenerated.carries⟩
  · intro tree store policy s hbuild haliases havoids hgenerated
    obtain ⟨fingerprint, revision, files, generated⟩ := b
    obtain rfl : generated = emit s files := hgenerated
    obtain ⟨view, -, hview⟩ := Result.bind_eq_ok_iff.mp hbuild
    have hs := Snapshot.isNamed_of_ofView hview
    have hdeclarable := Snapshot.areDeclarable_of_ofView hview haliases
    have hscan : declared (render ⟨fingerprint, revision, files, emit s files⟩) =
        declarations s files :=
      declared_render_emit hs hdeclarable havoids hfingerprint hnames hcarries
    have hsections : ((sections ⟨fingerprint, revision, files, emit s files⟩).flatMap fun s =>
        declared s.2) = declarations s files := by
      rw [sections, List.flatMap_append, List.flatMap_singleton,
        declared_emit hdeclarable (havoids.isFreeOf isMarked_attributeWord hs)]
      rfl
    rw [hsections]
    use hscan
    intro tree tree' name output module hcompile
    have htypes : module.types = (declarations s files).map Declaration.exported := by
      rw [Manifest.types_of_compile hcompile, hscan]
    refine ⟨htypes, exists_build_iff hs htypes, ?_⟩
    intro aliasName first second
    apply isDeclared_of_duplicateAlias hs htypes

/-- A file of a user with an import and other line ends, which declares a model for the element of
the journal under another name. -/
def redeclared : UserFiles :=
  [("Search.rs",
    "//! Search.\r\nuse std::fmt;\r\n\r\n#[model(alias = \"SEO\")]\r\npub struct SearchData;\r\n")]

theorem isSeparate_redeclared :
  ∀ f ∈ redeclared, ¬ attributeWord <:+: f.1.toList ∧ Bundle.IsSeparate f.2.toList
  := by
  rw [redeclared, List.forall_mem_singleton]
  refine ⟨by decide, ?_⟩
  apply Bundle.IsSeparate.of_lines ["//! Search.".toList, "use std::fmt;".toList]
    ["".toList, "#[model(alias = \"SEO\")]".toList, "pub struct SearchData;".toList]
  · decide +kernel
  · decide +kernel
  · decide +kernel
  · decide +kernel

theorem declarations_redeclared :
  redeclared.declarations = [⟨"SearchData", some "SEO"⟩]
  := by
  decide +kernel

/-- The bundle of the journal and of a file that declares a model for its element is compiled and can
be registered. -/
theorem exists_registry_redeclared :
  ∃ s page seo tree module r, Snapshot.build ⟨[]⟩ (.memory Document.journal) .rawAlias = .ok s ∧
    (page ∈ emittedTypes s redeclared ∧ s.mixinsOf page = [seo] ∧ seo.aliasName = "seo" ∧
      seo.bindingName = "seo") ∧
    declared (Bundle.render ⟨"ab", 1, redeclared, emit s redeclared⟩) = declarations s redeclared ∧
    Manifest.compile ⟨[]⟩ "models" (Bundle.render ⟨"ab", 1, redeclared, emit s redeclared⟩)
      ⟨"models.json"⟩ = (tree, .ok module) ∧
    module.types = (declarations s redeclared).map Declaration.exported ∧
    Registry.build module = .ok r
  := by
  obtain ⟨s, hbuild, hdescribes⟩ := Document.build_journal.2
  obtain ⟨view, -, hview⟩ := Result.bind_eq_ok_iff.mp hbuild
  have hs := Snapshot.isNamed_of_ofView hview
  obtain ⟨hattribute, hnames⟩ := avoids_journal isMarked_attributeWord hdescribes
  obtain ⟨herror, haliases⟩ := avoids_journal isMarked_errorWord hdescribes
  have hdeclarable := Snapshot.areDeclarable_of_ofView hview fun t ht => (hnames t ht).1
  obtain ⟨page, seo, title, htypes, -, -, hpage, hseo⟩ := exists_types_journal hdescribes
  have hemitted : page ∈ emittedTypes s redeclared := by
    rw [mem_emittedTypes_iff, isDeclared_iff, declarations_redeclared, htypes, hpage.aliasName]
    exact ⟨List.mem_cons_self, by decide +kernel⟩
  have hmixins : page.mixins = [2] := by
    have hnodup : page.mixins.Nodup := hpage.ordered.imp ne_of_lt
    rw [← List.perm_singleton, List.perm_ext_iff_of_nodup hnodup (List.nodup_singleton 2)]
    intro id
    rw [hpage.mixins id, Document.IsComposed, List.mem_singleton]
    simp only
    omega
  have hmixed : s.mixinsOf page = [seo] := by
    simp [Snapshot.mixinsOf, hmixins, Snapshot.get?, htypes, hseo.id]
  have hname : seo.bindingName = "seo" := by
    rw [hseo.bindingName]
    decide +kernel
  have hclear : ∀ f ∈ redeclared, ¬ errorWord <:+: f.1.toList ∧ ¬ errorWord <:+: f.2.toList := by
    decide +kernel
  have hsave : Tree.CanSave ⟨[]⟩ ⟨"models.json"⟩ := fun m => ⟨_, rfl⟩
  have hhex : ∀ c ∈ "ab".toList, isLowerHex c = true := List.all_eq_true.mp rfl
  obtain ⟨hscan, tree, module, hcompile, hexported⟩ := exists_compile hs hdeclarable hattribute herror
    (fun t ht => (haliases t ht).2) (by decide) hhex isSeparate_redeclared hclear 1 "models" hsave
  obtain ⟨r, hr⟩ := (exists_build_iff hs hexported).mpr (by
    rw [declarations_redeclared]
    decide +kernel)
  exact ⟨s, page, seo, tree, module, r, hbuild, ⟨hemitted, hmixed, hseo.aliasName, hname⟩, hscan,
    hcompile, hexported, hr⟩

theorem scanning_redeclared_commutes :
  ∃ s tree module, Snapshot.build ⟨[]⟩ (.memory Document.journal) .rawAlias = .ok s ∧
    Manifest.compile ⟨[]⟩ "models" (Bundle.render ⟨"ab", 1, redeclared, emit s redeclared⟩)
      ⟨"models.json"⟩ = (tree, .ok module) ∧
    module.types = ((redeclared ++ [(Bundle.generatedName, emit s redeclared)]).flatMap fun f =>
      declared f.2).map Declaration.exported ∧
    (declared (Bundle.render ⟨"ab", 1, redeclared, emit s redeclared⟩) =
      (redeclared ++ [(Bundle.generatedName, emit s redeclared)]).flatMap fun f => declared f.2) ∧
    declared (Bundle.render ⟨"ab", 1, redeclared, "use std::fmt;\r\n"⟩) =
      [⟨"SearchData", some "SEO"⟩]
  := by
  obtain ⟨s, _, _, tree, module, _, hbuild, -, -, hcompile, -⟩ := exists_registry_redeclared
  obtain ⟨s', hbuild', hdescribes⟩ := Document.build_journal.2
  obtain rfl := Except.ok.inj (hbuild.symm.trans hbuild')
  obtain ⟨hattribute, hnames⟩ := avoids_journal isMarked_attributeWord hdescribes
  have hab : ¬ attributeWord <:+: "ab".toList := by decide
  have hgenerated : Bundle.IsSeparate "use std::fmt;\r\n".toList := by
    apply Bundle.IsSeparate.of_lines ["use std::fmt;".toList] []
    · decide +kernel
    · decide +kernel
    · decide +kernel
    · exact List.forall_mem_nil _
  obtain ⟨-, hemitted⟩ :=
    @Bundle.scanning_commutes ⟨"ab", 1, redeclared, emit s redeclared⟩ hab isSeparate_redeclared
  obtain ⟨hplain, -⟩ :=
    @Bundle.scanning_commutes ⟨"ab", 1, redeclared, "use std::fmt;\r\n"⟩ hab isSeparate_redeclared
  obtain ⟨hscan, hexports⟩ := hemitted hbuild (fun t ht => (hnames t ht).1) hattribute rfl
  refine ⟨s, tree, module, hbuild, hcompile, (hexports hcompile).1, hscan, ?_⟩
  rw [hplain hgenerated]
  decide +kernel

-- The import moves away from between the attribute and the structure.
example :
  declared (Bundle.render
      ⟨"ab", 1, [("Page.rs", "#[model]\nuse std::fmt;\npub struct Page;\n")], ""⟩) =
      [⟨"Page", none⟩] ∧
    declared "#[model]\nuse std::fmt;\npub struct Page;\n" = []
  := by
  decide +kernel

/-- The name under which a registry serves an alias. -/
def Registry.nameOf (r : Registry) (aliasName : String) : String :=
  ((r.get? aliasName).map (·.typeName)).getD ""

theorem Registry.nameOf_of_get? {r : Registry} {aliasName : String} {e : RegistryEntry}
    (h : r.get? aliasName = some e) :
  r.nameOf aliasName = e.typeName
  := by
  rw [nameOf, h]
  rfl

theorem Registry.nameOf_eq_iff {r : Registry} {aliasName name : String} (hne : name ≠ "") :
  r.nameOf aliasName = name ↔ (r.get? aliasName).map (·.typeName) = some name
  := by
  rw [nameOf]
  cases (r.get? aliasName).map (·.typeName) with
  | none => simp [hne.symm]
  | some served => simp

/-- The notes on a type with the names that a registry serves. -/
def servedNotes (r : Registry) (s : Snapshot) (t : TypeDescriptor) : List String :=
  ["// kind: " ++ t.kind.label]
    ++ ((s.baseOf? t).map fun u => "// extends: " ++ r.nameOf u.aliasName).toList
    ++ (match s.mixinsOf t with
      | [] => []
      | mixins => ["// mixes: " ++ ", ".intercalate (mixins.map fun u => r.nameOf u.aliasName)])
    ++ t.properties.map fun p =>
      "// property " ++ p.bindingName ++ ": " ++ (r.mapType p.type).text

/-- Whether a type is the base or a mixin of another one. -/
def IsLinked (s : Snapshot) (t u : TypeDescriptor) : Prop :=
  s.baseOf? t = some u ∨ u ∈ s.mixinsOf t

theorem mem_types_of_isLinked {t u : TypeDescriptor} (h : IsLinked s t u) :
  u ∈ s.types
  := by
  have hget : ∀ id, s.get? id = some u → u ∈ s.types := by
    intro id hu
    apply List.mem_reverse.mp (List.mem_of_find?_eq_some hu)
  rcases h with h | h
  · obtain ⟨id, -, hid⟩ := Option.bind_eq_some_iff.mp h
    apply hget id hid
  · obtain ⟨id, -, hid⟩ := List.mem_filterMap.mp h
    apply hget id hid

/-- The notes on a type name what the registry serves if the files of users keep the names of all
aliases in them. -/
theorem notes_eq_servedNotes {r : Registry} {t : TypeDescriptor}
    (hproperties : ∀ p ∈ t.properties, r.mapType p.type = p.type.mapModels (resolve s))
    (hlinks : ∀ u, IsLinked s t u → r.nameOf u.aliasName = u.bindingName) :
  notes s t = servedNotes r s t
  := by
  have hbase : (s.baseOf? t).map (fun u => "// extends: " ++ u.bindingName) =
      (s.baseOf? t).map fun u => "// extends: " ++ r.nameOf u.aliasName := by
    apply Option.map_congr
    intro u hu
    rw [hlinks u (.inl hu)]
  have hmixins : (s.mixinsOf t).map (·.bindingName) =
      (s.mixinsOf t).map fun u => r.nameOf u.aliasName := by
    apply List.map_congr_left
    intro u hu
    rw [hlinks u (.inr hu)]
  have hnotes : t.properties.map (propertyNote s) = t.properties.map fun p =>
      "// property " ++ p.bindingName ++ ": " ++ (r.mapType p.type).text := by
    apply List.map_congr_left
    intro p hp
    rw [hproperties p hp]
    rfl
  unfold notes servedNotes
  rw [hbase, hnotes]
  generalize s.mixinsOf t = mixins at hmixins
  cases mixins with
  | nil => rfl
  | cons u us => simp only [hmixins]

/-- The emitted source names the types that the registry of its bundle serves, except for aliases that
the bundle declares under another name than the binding name, or not at all: a reference in the note on
a property is resolved as the registry resolves it, and a base or a mixin has the name of its entry, if
and only if the bundle declares the alias under its binding name. If the bundle declares what its files
declare and the emitted models, then all bases and mixins have entries, and it is up to the files of
users to keep the names. -/
theorem Emission.names_served_types {tree : Tree} {store : Store} {policy : NamingPolicy}
    (hbuild : Snapshot.build tree store policy = .ok s) {fingerprint : String} {revision : UInt64}
    {ds : List Declaration}
    (hds : declared (Bundle.render ⟨fingerprint, revision, files, emit s files⟩) = ds)
    {directory directory' : Tree} {name : String} {output : Path} {module : Module}
    (hcompile : Manifest.compile directory name
      (Bundle.render ⟨fingerprint, revision, files, emit s files⟩) output =
        (directory', .ok module))
    {r : Registry} (hr : Registry.build module = .ok r) (t : TypeDescriptor) :
  (∀ p ∈ t.properties, r.mapType p.type = p.type.mapModels (resolve s) ↔
      ∀ aliasName, p.type.innermost = .model aliasName → NamesAlike s ds aliasName) ∧
    (∀ u, IsLinked s t u →
      ((∃ e, r.get? u.aliasName = some e ∧ r.nameOf u.aliasName = e.typeName) ↔
          ∃ d ∈ ds, d.key = lower u.aliasName) ∧
        (r.nameOf u.aliasName = u.bindingName ↔ NamesAlike s ds u.aliasName)) ∧
    ((∀ p ∈ t.properties, ∀ aliasName, p.type.innermost = .model aliasName →
        NamesAlike s ds aliasName) →
      (∀ u, IsLinked s t u → NamesAlike s ds u.aliasName) → notes s t = servedNotes r s t) ∧
    (ds = declarations s files →
      (∀ aliasName, NamesAlike s ds aliasName ↔ KeepsName s files aliasName) ∧
        ∀ u, IsLinked s t u → ∃ d ∈ ds, d.key = lower u.aliasName)
  := by
  obtain ⟨view, -, hview⟩ := Result.bind_eq_ok_iff.mp hbuild
  have hs := Snapshot.isNamed_of_ofView hview
  have htypes : module.types = ds.map Declaration.exported := by
    rw [Manifest.types_of_compile hcompile, hds]
  have hproperties : ∀ p ∈ t.properties, r.mapType p.type = p.type.mapModels (resolve s) ↔
      ∀ aliasName, p.type.innermost = .model aliasName → NamesAlike s ds aliasName := by
    intro p _
    rw [Registry.mapType, RuntimeType.mapModels_eq_iff]
    simp only [resolve_eq_iff htypes hr]
  have hlinks : ∀ u, IsLinked s t u →
      (r.nameOf u.aliasName = u.bindingName ↔ NamesAlike s ds u.aliasName) := by
    intro u hu
    have hmem := mem_types_of_isLinked hu
    rw [namesAlike_iff htypes hr, bindingName?_of_mem hs hmem]
    exact Registry.nameOf_eq_iff (Snapshot.bindingName_ne_empty_of_ofView hview hmem)
  refine ⟨hproperties, ?_, ?_, ?_⟩
  · intro u hu
    refine ⟨?_, hlinks u hu⟩
    rw [← exists_get?_iff htypes hr]
    constructor
    · rintro ⟨e, he, -⟩
      exact ⟨e, he⟩
    · rintro ⟨e, he⟩
      exact ⟨e, he, Registry.nameOf_of_get? he⟩
  · intro hkept hkept'
    apply notes_eq_servedNotes
    · intro p hp
      apply (hproperties p hp).mpr (hkept p hp)
    · intro u hu
      apply (hlinks u hu).mpr (hkept' u hu)
  · rintro rfl
    refine ⟨fun _ => namesAlike_declarations_iff hs, ?_⟩
    intro u hu
    obtain ⟨d, hd, hkey, -⟩ := exists_declaration (mem_types_of_isLinked hu) files
    exact ⟨d, hd, hkey⟩

theorem journal_names_served_types :
  ∃ s tree module r, Snapshot.build ⟨[]⟩ (.memory Document.journal) .rawAlias = .ok s ∧
    Manifest.compile ⟨[]⟩ "models" (Bundle.render ⟨"ab", 1, redeclared, emit s redeclared⟩)
      ⟨"models.json"⟩ = (tree, .ok module) ∧
    Registry.build module = .ok r ∧
    ∀ t ∈ emittedTypes s redeclared, ∀ u, IsLinked s t u →
      (∃ e, r.get? u.aliasName = some e ∧ r.nameOf u.aliasName = e.typeName) ∧
        (r.nameOf u.aliasName = u.bindingName ↔ KeepsName s redeclared u.aliasName)
  := by
  obtain ⟨s, _, _, tree, module, r, hbuild, -, hscan, hcompile, -, hr⟩ := exists_registry_redeclared
  refine ⟨s, tree, module, r, hbuild, hcompile, hr, ?_⟩
  intro t _ u hu
  obtain ⟨-, hlinks, -, hcommutes⟩ := names_served_types hbuild hscan hcompile hr t
  obtain ⟨hkeeps, hentries⟩ := hcommutes rfl
  obtain ⟨hentry, hname⟩ := hlinks u hu
  exact ⟨hentry.mpr (hentries u hu), hname.trans (hkeeps u.aliasName)⟩

/-- A page of the journal is said to mix in `seo`, although the registry serves the element with this
alias as `SearchData`. -/
theorem redeclared_is_misnamed :
  ∃ s t u tree module r, Snapshot.build ⟨[]⟩ (.memory Document.journal) .rawAlias = .ok s ∧
    Manifest.compile ⟨[]⟩ "models" (Bundle.render ⟨"ab", 1, redeclared, emit s redeclared⟩)
      ⟨"models.json"⟩ = (tree, .ok module) ∧
    Registry.build module = .ok r ∧ t ∈ emittedTypes s redeclared ∧ s.mixinsOf t = [u] ∧
    "// mixes: seo" ∈ notes s t ∧ (r.get? u.aliasName).map (·.typeName) = some "SearchData"
  := by
  obtain ⟨s, page, seo, tree, module, r, hbuild, ⟨hpage, hmixed, halias, hname⟩, -, hcompile, htypes,
    hr⟩ := exists_registry_redeclared
  refine ⟨s, page, seo, tree, module, r, hbuild, hcompile, hr, hpage, hmixed, ?_, ?_⟩
  · simp [notes, hmixed, hname]
  · have hdeclared : ⟨"SearchData", some "SEO"⟩ ∈ declarations s redeclared := by
      rw [declarations, declarations_redeclared]
      apply List.mem_cons_self
    have hkey : Declaration.key ⟨"SearchData", some "SEO"⟩ = lower seo.aliasName := by
      rw [halias]
      decide +kernel
    obtain ⟨e, he, hserved, -⟩ := get?_of_mem_declarations htypes hr hdeclared hkey
    rw [he, Option.map_some, hserved]

end

end LiveModels
