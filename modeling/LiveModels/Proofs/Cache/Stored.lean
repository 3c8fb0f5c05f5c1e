import LiveModels.Cache.Store
import LiveModels.Proofs.Cache.Artifact
import LiveModels.Proofs.Compiled.Manifest
import LiveModels.Proofs.Text.Blank
import LiveModels.Proofs.Text.Number

/-!
# Storing a generation

What storing a generation does to the models directory, step by step and whether or not it gets to
its end: artifacts are replaced, one module is written to the directory of compiled modules, and
from that directory other entries are removed.
-/

namespace LiveModels.Cache

open LiveModels.Tree

variable {c : Cache} {t t' : Tree} {p : Place} {j : Job}
variable {kind : Place → Option Node → Prop}

/-! ### Modules of jobs -/

theorem Job.toList_moduleName (j : Job) :
  j.moduleName.toList = "generated.".toList ++ j.fingerprint.toList ++ ".".toList ++
    Text.natDigits j.revision.toNat ++ ".module".toList
  := by
  simp [moduleName, Text.decimal]

/-- The characters of the name of a module. -/
theorem Job.mem_moduleName (h : ∀ d ∈ j.fingerprint.toList, Text.isLowerHex d = true) {d : Char}
    (hd : d ∈ j.moduleName.toList) :
  d ∈ "generated.".toList ∨ d ∈ ".module".toList ∨ Text.isLowerHex d = true
  := by
  rw [toList_moduleName] at hd
  simp only [List.mem_append] at hd
  rcases hd with (((hd | hd) | hd) | hd) | hd
  · apply Or.inl hd
  · apply Or.inr (Or.inr (h d hd))
  · apply Or.inl
    rw [show d = '.' by simpa using hd]
    decide
  · apply Or.inr (Or.inr _)
    simp [Text.isLowerHex, Text.isDigit_of_mem_natDigits hd]
  · apply Or.inr (Or.inl hd)

/-- The path of a module is noted without white space around it. -/
theorem Job.trimmed_relativePath (h : ∀ d ∈ j.fingerprint.toList, Text.isLowerHex d = true) :
  Text.trimmed j.relativePath = j.relativePath
  := by
  have hplain : ∀ text ∈ [compiledName, "/", "generated.", ".module"], ∀ d ∈ text.toList,
      Text.isBlank d = false := by
    simp only [List.forall_mem_cons, ← Bool.not_eq_true', ← List.all_eq_true]
    decide +kernel
  apply Text.trimmed_eq_self
  intro d hd
  rw [relativePath, String.toList_append, String.toList_append, List.mem_append,
    List.mem_append] at hd
  rcases hd with (hd | hd) | hd
  · apply hplain _ (by simp) d hd
  · apply hplain _ (by simp) d hd
  · rcases mem_moduleName h hd with hd | hd | hd
    · apply hplain _ (by simp) d hd
    · apply hplain _ (by simp) d hd
    · apply Text.isBlank_of_isLowerHex hd

/-- The name of a module leads to one entry of a directory. -/
theorem Job.isStep_moduleName (h : ∀ d ∈ j.fingerprint.toList, Text.isLowerHex d = true) :
  IsStep j.moduleName
  := by
  have hlength : 17 ≤ j.moduleName.toList.length := by
    rw [toList_moduleName]
    simp only [List.length_append]
    have hfront : "generated.".toList.length = 10 := rfl
    have hlast : ".module".toList.length = 7 := rfl
    omega
  constructor
  · rintro hempty
    simp [hempty] at hlength
  · intro hslash
    rcases mem_moduleName h hslash with hd | hd | hd <;> revert hd <;> decide
  · intro hnull
    rcases mem_moduleName h hnull with hd | hd | hd <;> revert hd <;> decide
  · intro hdot
    simp [hdot] at hlength
  · intro hdots
    simp [hdots] at hlength

variable (hj : IsStep j.moduleName)

include hj

/-- The module of a job lies in the directory of compiled modules. -/
theorem output_eq (c : Cache) :
  c.output j = c.compiledPath.join j.moduleName
  := by
  rw [output, compiledPath, Path.join_join _ isName_compiledName.toIsStep hj.isAbsolute_eq]
  rfl

theorem parent?_output (c : Cache) :
  (c.output j).parent? = some c.compiledPath
  := by
  rw [output_eq hj, compiledPath, Path.parent?_join_join _ isName_compiledName.toIsStep hj]

omit hj

/-! ### Steps -/

theorem becomes_runSteps {steps : List Step} (hs : t.Sound) (h : t.Leads c.directory p)
    (hkind : ∀ s ∈ steps, kind (p ++ [s.artifact.fileName]) (some (.file (.text s.text)))) :
  Becomes kind t (c.runSteps steps t).1
  := by
  induction steps generalizing t with
  | nil => apply Becomes.refl hs
  | cons s rest ih =>
    have hstep := becomes_replace hs h (hkind s List.mem_cons_self)
    simp only [runSteps, Step.run]
    split
    case h_1 t₁ done ht₁ =>
      rw [ht₁] at hstep
      apply hstep.trans
      apply ih hstep.sound (h.mono hstep.keeps)
      intro s' hs'
      apply hkind s' (List.mem_cons_of_mem _ hs')
    case h_2 t₁ e ht₁ =>
      rw [ht₁] at hstep
      apply hstep

/-! ### Compiling -/

/-- Writing a manifest sets one file in the directory of compiled modules. -/
theorem write_output_cases (m : Manifest) (hj : IsStep j.moduleName)
    (h : t.Leads c.directory p) :
  (∃ e, m.write t (c.output j) = (t, .error e)) ∨
    IsName j.moduleName ∧ t.get? (p ++ [compiledName]) = some .directory ∧
    t.get? (p ++ [compiledName] ++ [j.moduleName]) ≠ some .directory ∧
    m.write t (c.output j) =
      (t.set (p ++ [compiledName] ++ [j.moduleName]) (.file (.text m.print)),
        .ok (m.toModule (c.output j)))
  := by
  rw [Manifest.write]
  split
  case h_2 fault hfault =>
    apply Or.inl ⟨_, rfl⟩
  case h_1 t₁ hwrite =>
    rw [output_eq hj] at hwrite
    obtain ⟨-, hname, q, hleads, hfree, rfl⟩ := exists_leads_of_write hj hwrite
    obtain ⟨rfl, -⟩ := h.eq_of_join isName_compiledName.toIsStep hleads
    exact .inr ⟨hname, hleads.directory, hfree, rfl⟩

/-- Making the directory of compiled modules changes nothing else. -/
theorem becomes_makeCompiled (hs : t.Sound) (h : t.Leads c.directory p)
    (hdirectory : kind (p ++ [compiledName]) (some .directory)) :
  Becomes kind t (t.makeDirectories c.compiledPath).1
  := by
  rcases h.makeDirectories_join isName_compiledName with heq | ⟨hfree, heq⟩
  · rw [compiledPath, heq]
    apply Becomes.refl hs
  · rw [compiledPath, heq]
    apply hs.becomes_set h.directory isName_compiledName (.inl rfl) hdirectory

/-- The models directory stays where it is when the directory of compiled modules is made. -/
theorem leads_makeCompiled (h : t.Leads c.directory p) :
  (t.makeDirectories c.compiledPath).1.Leads c.directory p
  := by
  rcases h.makeDirectories_join isName_compiledName with heq | ⟨hfree, heq⟩
  · rw [compiledPath, heq]
    apply h
  · rw [compiledPath, heq]
    apply h.mono
    intro q hq
    apply get?_set_of_free hfree hq

/-- Compiling writes the manifest of the source as a whole, or fails and makes no more than the
directory of compiled modules. -/
theorem compile_cases (moduleName : String) (hj : IsStep j.moduleName) (h : t.Leads c.directory p) :
  (∃ e, Manifest.compile t moduleName j.source (c.output j) = (t, .error e)) ∨
    (∃ e, Manifest.compile t moduleName j.source (c.output j) =
      ((t.makeDirectories c.compiledPath).1, .error e)) ∨
    ∃ m, Manifest.ofSource moduleName j.source = .ok m ∧ IsName j.moduleName ∧
      (t.makeDirectories c.compiledPath).1.get? (p ++ [compiledName]) = some .directory ∧
      (t.makeDirectories c.compiledPath).1.get? (p ++ [compiledName] ++ [j.moduleName]) ≠
        some .directory ∧
      Manifest.compile t moduleName j.source (c.output j) =
        ((t.makeDirectories c.compiledPath).1.set (p ++ [compiledName] ++ [j.moduleName])
          (.file (.text m.print)), .ok (m.toModule (c.output j)))
  := by
  have hmade := leads_makeCompiled h
  simp only [Manifest.compile]
  split
  case h_1 e _ =>
    apply Or.inl ⟨e, rfl⟩
  case h_2 m hm =>
    apply Or.inr
    rw [Manifest.save, parent?_output hj]
    simp only
    split
    case h_1 t₁ done ht₁ =>
      rw [ht₁] at hmade ⊢
      rcases write_output_cases m hj hmade with ⟨e, heq⟩ | ⟨hname, hd, hfree, heq⟩
      · apply Or.inl ⟨e, heq⟩
      · exact .inr ⟨m, hm, hname, hd, hfree, heq⟩
    case h_2 t₁ fault ht₁ =>
      rw [ht₁]
      apply Or.inl ⟨_, rfl⟩

theorem becomes_compile (moduleName : String) (hj : IsStep j.moduleName) (hs : t.Sound)
    (h : t.Leads c.directory p) (hdirectory : kind (p ++ [compiledName]) (some .directory))
    (hmodule : ∀ m, Manifest.ofSource moduleName j.source = .ok m →
      kind (p ++ [compiledName] ++ [j.moduleName]) (some (.file (.text m.print)))) :
  Becomes kind t (Manifest.compile t moduleName j.source (c.output j)).1
  := by
  have hmade := becomes_makeCompiled hs h hdirectory
  rcases compile_cases moduleName hj h with ⟨e, heq⟩ | ⟨e, heq⟩ | ⟨m, hm, hname, hd, hfree, heq⟩
  · rw [heq]
    apply Becomes.refl hs
  · rw [heq]
    apply hmade
  · rw [heq]
    apply hmade.trans
    apply hmade.sound.becomes_set hd hname (.inr hfree) (hmodule m hm)

/-! ### Removing old modules -/

theorem withEnding_join {d : Path} {name ending : String} (hname : IsStep name) :
  (d.join name).withEnding ending = d.join (name ++ ending)
  := by
  have hboth : (Path.mk (name ++ ending)).isAbsolute = false := by
    obtain ⟨ch, rest, hch⟩ := List.exists_cons_of_ne_nil hname.toList_ne_nil
    have habsolute := hname.isAbsolute_eq
    simp only [Path.isAbsolute, hch] at habsolute
    simpa [Path.isAbsolute, hch] using habsolute
  simp [Path.join, Path.withEnding, hname.isAbsolute_eq, hboth, String.append_assoc]

theorem isStep_withEnding {name : String} (hname : IsStep name) :
  IsStep (name ++ removalEnding)
  := by
  have hlength : 7 ≤ (name ++ removalEnding).toList.length := by
    rw [String.toList_append, List.length_append]
    apply Nat.le_add_left
  constructor
  · intro hempty
    simp [hempty] at hlength
  · simp [hname.no_slash, removalEnding]
  · simp [hname.no_null, removalEnding]
  · intro hdot
    simp [hdot] at hlength
  · intro hdots
    simp [hdots] at hlength

/-- Removing an entry erases one file, or makes one that marks it. -/
theorem becomes_pruneEntry {name : String} (hs : t.Sound)
    (h : t.Leads c.compiledPath (p ++ [compiledName])) (hname : IsStep name)
    (hgone : kind (p ++ [compiledName] ++ [name]) none)
    (hmarked : kind (p ++ [compiledName] ++ [name ++ removalEnding]) (some (.file (.text "")))) :
  Becomes kind t (c.pruneEntry t name)
  := by
  have hremove : ∀ t₁, t.removeFile (c.compiledPath.join name) = .ok t₁ → Becomes kind t t₁ := by
    intro t₁ ht₁
    obtain ⟨q, content, hleads, hfile, rfl⟩ := exists_leads_of_removeFile hname ht₁
    rw [h.eq hleads] at hfile ⊢
    apply hs.becomes_erase hfile hgone
  have hmark : ∀ t₁, t.write ((c.compiledPath.join name).withEnding removalEnding) (.text "") =
      .ok t₁ → Becomes kind t t₁ := by
    intro t₁ ht₁
    rw [withEnding_join hname] at ht₁
    obtain ⟨-, hname', q, hleads, hfree, rfl⟩ := exists_leads_of_write (isStep_withEnding hname) ht₁
    rw [h.eq hleads] at hfree ⊢
    apply hs.becomes_set h.directory hname' (.inr hfree) hmarked
  simp only [pruneEntry]
  split
  · split
    · apply Becomes.refl hs
    · cases hresult : t.removeFile (c.compiledPath.join name) with
      | error fault => apply Becomes.refl hs
      | ok t₁ => apply hremove t₁ hresult
  · split
    case h_1 t₁ ht₁ =>
      apply hremove t₁ ht₁
    case h_2 =>
      cases hresult : t.write ((c.compiledPath.join name).withEnding removalEnding) (.text "") with
      | error fault => apply Becomes.refl hs
      | ok t₁ => apply hmark t₁ hresult

theorem becomes_pruneEntries {names : List String} (hs : t.Sound)
    (h : t.Leads c.compiledPath (p ++ [compiledName])) (hnames : ∀ name ∈ names, IsStep name)
    (hgone : ∀ name ∈ names, kind (p ++ [compiledName] ++ [name]) none)
    (hmarked : ∀ name ∈ names,
      kind (p ++ [compiledName] ++ [name ++ removalEnding]) (some (.file (.text "")))) :
  Becomes kind t (names.foldl c.pruneEntry t)
  := by
  induction names generalizing t with
  | nil => apply Becomes.refl hs
  | cons name rest ih =>
    have hentry : Becomes kind t (c.pruneEntry t name) :=
      becomes_pruneEntry hs h (hnames name List.mem_cons_self) (hgone name List.mem_cons_self)
        (hmarked name List.mem_cons_self)
    apply hentry.trans
    apply ih hentry.sound (h.mono hentry.keeps)
    · intro name' hname'
      apply hnames name' (List.mem_cons_of_mem _ hname')
    · intro name' hname'
      apply hgone name' (List.mem_cons_of_mem _ hname')
    · intro name' hname'
      apply hmarked name' (List.mem_cons_of_mem _ hname')

/-- The entries that are removed when a module is kept, in their order. -/
def outdated (c : Cache) (t : Tree) (keep : Path) : List String :=
  match t.list c.compiledPath with
  | .error _ => []
  | .ok entries =>
    (entries.filter fun e => (c.compiledPath.join e.1).names ≠ keep.names).map (·.1)

theorem prune_eq (c : Cache) (t : Tree) (keep : Path) :
  c.prune t keep = (c.outdated t keep).foldl c.pruneEntry t
  := by
  rw [prune, outdated]
  cases t.list c.compiledPath with
  | error fault => rfl
  | ok entries => rw [List.foldl_map]

/-- What is removed has a name and is not the module that is kept. -/
theorem mem_outdated {keep : Path} {name : String} (hs : t.Sound) (h : t.Leads c.directory p)
    (hmem : name ∈ c.outdated t keep) :
  IsName name ∧ t.Leads c.compiledPath (p ++ [compiledName]) ∧
    (∃ n, t.get? (p ++ [compiledName] ++ [name]) = some n) ∧
    (c.compiledPath.join name).names ≠ keep.names
  := by
  rw [outdated] at hmem
  split at hmem
  · cases hmem
  case h_2 entries hlist =>
    obtain ⟨⟨name', n⟩, hentry, rfl⟩ := List.mem_map.mp hmem
    rw [List.mem_filter, decide_eq_true_eq] at hentry
    obtain ⟨q, hleads, rfl⟩ := exists_leads_of_list hlist
    obtain ⟨rfl, -⟩ := h.eq_of_join isName_compiledName.toIsStep hleads
    have hget := hs.mem_children.mp hentry.1
    exact ⟨hs.isName_of_get? hget, hleads, ⟨n, hget⟩, hentry.2⟩

theorem ne_moduleName_of_mem_outdated {name : String} (hs : t.Sound) (h : t.Leads c.directory p)
    (hj : IsStep j.moduleName) (hmem : name ∈ c.outdated t (c.output j)) :
  name ≠ j.moduleName
  := by
  rintro rfl
  apply (mem_outdated hs h hmem).2.2.2
  rw [output_eq hj]

/-- Entries that are not the kept module may be removed in any order. -/
theorem becomes_pruneOutdated {keep : Path} {names : List String} (hs : t.Sound)
    (h : t.Leads c.directory p) (houtdated : ∀ name ∈ names, name ∈ c.outdated t keep)
    (hgone : ∀ name ∈ names, kind (p ++ [compiledName] ++ [name]) none)
    (hmarked : ∀ name ∈ names,
      kind (p ++ [compiledName] ++ [name ++ removalEnding]) (some (.file (.text "")))) :
  Becomes kind t (names.foldl c.pruneEntry t)
  := by
  cases hnames : names with
  | nil => apply Becomes.refl hs
  | cons name rest =>
    rw [← hnames]
    have hmem : name ∈ c.outdated t keep := houtdated name (by simp [hnames])
    apply becomes_pruneEntries hs (mem_outdated hs h hmem).2.1 _ hgone hmarked
    intro name' hname'
    apply (mem_outdated hs h (houtdated name' hname')).1.toIsStep

theorem becomes_prune {keep : Path} (hs : t.Sound) (h : t.Leads c.directory p)
    (hgone : ∀ name ∈ c.outdated t keep, kind (p ++ [compiledName] ++ [name]) none)
    (hmarked : ∀ name ∈ c.outdated t keep,
      kind (p ++ [compiledName] ++ [name ++ removalEnding]) (some (.file (.text "")))) :
  Becomes kind t (c.prune t keep)
  := by
  rw [prune_eq]
  apply becomes_pruneOutdated hs h (fun _ hname => hname) hgone hmarked

/-! ### Whole jobs -/

/-- Staging writes the emitted source and the bundle. -/
theorem Job.artifact_of_mem_stage {step : Step} (h : step ∈ j.stage) :
  step.artifact ∈ [Artifact.generated, .bundle]
  := by
  simp only [Job.stage, List.mem_append, Option.mem_toList, Option.map_eq_some_iff,
    List.mem_singleton] at h
  rcases h with ⟨text, -, rfl⟩ | rfl
  · apply List.mem_cons_self
  · apply List.mem_cons_of_mem _ (List.mem_singleton_self _)

/-- Whether what a job does in the models directory is of a kind: it writes artifacts and its module,
and removes other modules or marks them for removal. -/
structure Job.IsWithin (j : Job) (p : Place) (kind : Place → Option Node → Prop) : Prop where
  artifact : ∀ a ∈ [Artifact.generated, .bundle, .pointer, .marker], ∀ n,
    kind (p ++ [a.fileName]) (some n)
  directory : kind (p ++ [compiledName]) (some .directory)
  module : ∀ n, kind (p ++ [compiledName] ++ [j.moduleName]) (some n)
  removed : ∀ name, name ≠ j.moduleName → kind (p ++ [compiledName] ++ [name]) none
  marked : ∀ name, name ≠ j.moduleName →
    kind (p ++ [compiledName] ++ [name ++ removalEnding]) (some (.file (.text "")))

/-- Jobs are of a kind if all changes in the directory of compiled modules are. -/
theorem Job.IsWithin.of_compiled
    (hartifact : ∀ a ∈ [Artifact.generated, .bundle, .pointer, .marker], ∀ n,
      kind (p ++ [a.fileName]) (some n))
    (hcompiled : ∀ rest n, kind (p ++ compiledName :: rest) n) :
  j.IsWithin p kind
  := by
  have hentry : ∀ name n, kind (p ++ [compiledName] ++ [name]) n := by
    intro name n
    rw [List.append_assoc]
    apply hcompiled
  exact ⟨hartifact, hcompiled [] _, fun n => hentry _ _, fun name _ => hentry _ _,
    fun name _ => hentry _ _⟩

section

variable (hs : t.Sound) (h : t.Leads c.directory p) (hkind : j.IsWithin p kind)

include hs h hkind

theorem becomes_stage :
  Becomes kind t (c.stage t j).1
  := by
  apply becomes_runSteps hs h
  intro step hstep
  apply hkind.artifact
  apply List.mem_append_left [.pointer, .marker] (Job.artifact_of_mem_stage hstep)

theorem becomes_complete (moduleName : String) (hj : IsStep j.moduleName) :
  Becomes kind t (c.complete t j moduleName).1
  := by
  have hcompile := becomes_compile moduleName hj hs h hkind.directory fun m _ => hkind.module _
  unfold complete
  split
  case h_1 t₁ e ht₁ =>
    rw [ht₁] at hcompile
    apply hcompile
  case h_2 t₁ module ht₁ =>
    rw [ht₁] at hcompile
    have h₁ := h.mono hcompile.keeps
    have hcommit : Becomes kind t₁ (c.runSteps j.commit t₁).1 := by
      apply becomes_runSteps hcompile.sound h₁
      intro step hstep
      simp only [Job.commit, List.mem_cons, List.not_mem_nil, or_false] at hstep
      rcases hstep with rfl | rfl
      · apply hkind.artifact _ (by simp)
      · apply hkind.artifact _ (by simp)
    split
    case h_1 t₂ e ht₂ =>
      rw [ht₂] at hcommit
      apply hcompile.trans hcommit
    case h_2 t₂ done ht₂ =>
      rw [ht₂] at hcommit
      have h₂ := h₁.mono hcommit.keeps
      apply (hcompile.trans hcommit).trans
      apply becomes_prune hcommit.sound h₂
      · intro name hname
        apply hkind.removed name (ne_moduleName_of_mem_outdated hcommit.sound h₂ hj hname)
      · intro name hname
        apply hkind.marked name (ne_moduleName_of_mem_outdated hcommit.sound h₂ hj hname)

end

/-! ### Loading -/

variable {location : Path} {fingerprint source : String} {m : Module}

theorem choose_eq_module_iff {module : Option Module} {bundle : Option String} :
  choose module bundle = .module m source ↔ module = some m ∧ bundle.getD "" = source
  := by
  cases module with
  | none => cases bundle <;> simp [choose]
  | some m' => simp [choose]

/-- A module is found if and only if the marker gives the fingerprint and the pointer leads to it. -/
theorem exists_tryLoad_eq_module_iff :
  (∃ source, c.tryLoad t fingerprint = .module m source) ↔
    c.isMarked t fingerprint = true ∧
      ∃ location, c.modulePath? t = some location ∧ moduleFor? t fingerprint location = some m
  := by
  rw [tryLoad]
  split
  case isTrue hmarked =>
    simp [choose_eq_module_iff, hmarked, Option.bind_eq_some_iff]
  case isFalse hmarked => simp [hmarked]

/-- The path of the module in use is that of the pointer, if a file that is not marked is there. -/
theorem modulePath?_eq_some_iff :
  c.modulePath? t = some location ↔
    ∃ text, c.read? t .pointer = some text ∧ location = c.directory.join (Text.trimmed text) ∧
      t.hasFile location = true ∧ t.has (location.withEnding removalEnding) = false
  := by
  rw [modulePath?]
  cases c.read? t .pointer with
  | none => simp
  | some text =>
    simp only [Option.ite_none_right_eq_some, Option.some.injEq, Bool.and_eq_true,
      Bool.not_eq_eq_eq_not, Bool.not_true]
    constructor
    · rintro ⟨⟨hfile, hmark⟩, rfl⟩
      exact ⟨text, rfl, rfl, hfile, hmark⟩
    · rintro ⟨_, rfl, rfl, hfile, hmark⟩
      exact ⟨⟨hfile, hmark⟩, rfl⟩

/-- A module that is found at a path for a fingerprint stands for a manifest with it. -/
theorem moduleFor?_eq_some {module : Module}
    (h : moduleFor? t fingerprint location = some module) :
  ∃ text m, t.readText location = .ok text ∧ Manifest.parse text = .ok m ∧
    module = m.toModule location ∧ m.fingerprint = fingerprint
  := by
  unfold moduleFor? at h
  split at h
  case h_2 => cases h
  case h_1 loaded hloaded =>
    obtain ⟨text, m, hread, hm, rfl⟩ := Manifest.load_eq_ok hloaded
    rw [Option.ite_none_right_eq_some] at h
    obtain ⟨hfingerprint, hsome⟩ := h
    cases hsome
    use text, m, hread, hm, rfl, hfingerprint

/-- A manifest that can be read for its fingerprint gives its module. -/
theorem moduleFor?_eq_of_parse {text : String} {m : Manifest} (hread : t.readText location = .ok text)
    (hm : Manifest.parse text = .ok m) :
  moduleFor? t m.fingerprint location = some (m.toModule location)
  := by
  simp only [moduleFor?, Manifest.load, hread, hm, Manifest.toModule, if_true]

end LiveModels.Cache
