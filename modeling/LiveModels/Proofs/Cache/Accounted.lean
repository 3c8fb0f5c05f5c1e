import LiveModels.Proofs.Cache.Stored

/-!
# Directories that are accounted for

A models directory in which builds alone have written is accounted for: every bundle in it is one of
the sources that have been made, every module has been compiled from one of them, and the pointer
leads to the place of a module. In such a directory no operation of a build fails, as no directory
stands where a file has to be written, and what an operation writes can be accounted for again.
-/

namespace LiveModels.Cache

open LiveModels.Tree

variable {c : Cache} {t t' : Tree} {p q : Place} {n : Option Node} {j : Job}
variable {made made' : String → Prop}

/-! ### Names of modules -/

/-- Whether the fingerprint of a job is a hash. -/
structure Job.IsHashed (j : Job) : Prop where
  length : j.fingerprint.toList.length = 8
  digits : ∀ d ∈ j.fingerprint.toList, Text.isLowerHex d = true

theorem toNat_lt_of_isLowerHex {d : Char} (h : Text.isLowerHex d = true) :
  d.toNat < 0x80
  := by
  simp only [Text.isLowerHex, Bool.or_eq_true, Bool.and_eq_true, decide_eq_true_eq,
    Char.isDigit] at h
  rcases h with ⟨-, hle⟩ | ⟨-, hle⟩
  · exact Nat.lt_of_le_of_lt hle (by decide)
  · exact Nat.lt_of_le_of_lt hle (by decide)

/-- The name of a module is short. -/
theorem Job.IsHashed.utf8ByteSize_le (h : j.IsHashed) :
  j.moduleName.utf8ByteSize ≤ 46
  := by
  have hplain : ∀ text ∈ ["generated.", ".module"], ∀ d ∈ text.toList, d.toNat < 0x80 := by
    simp
  have hascii : ∀ d ∈ j.moduleName.toList, d.toNat < 0x80 := by
    intro d hd
    rcases Job.mem_moduleName h.digits hd with hd | hd | hd
    · apply hplain _ (by simp) d hd
    · apply hplain _ (by simp) d hd
    · apply toNat_lt_of_isLowerHex hd
  have hdigits : (Text.natDigits j.revision.toNat).length ≤ 20 := by
    apply Text.length_natDigits_le (by decide)
    have hword := j.revision.toNat_lt
    omega
  have hfront : "generated.".toList.length = 10 := rfl
  have hdot : ".".toList.length = 1 := rfl
  have hlast : ".module".toList.length = 7 := rfl
  rw [utf8ByteSize_of_ascii hascii, Job.toList_moduleName]
  simp only [List.length_append, h.length, hfront, hdot, hlast]
  omega

theorem Job.IsHashed.isName_moduleName (h : j.IsHashed) :
  IsName j.moduleName
  := by
  use Job.isStep_moduleName h.digits
  apply h.utf8ByteSize_le.trans
  decide

/-! ### What can be accounted for -/

/-- Whether a node can be accounted for at a place, by sources that have been made. -/
structure Accounts (made : String → Prop) (p q : Place) (n : Option Node) : Prop where
  artifact : ∀ a, q = p ++ [Artifact.fileName a] → n ≠ some .directory
  compiled : q = p ++ [compiledName] → ∀ content, n ≠ some (.file content)
  bundle : q = p ++ [Artifact.bundle.fileName] → ∀ text, n = some (.file (.text text)) → made text
  pointer : q = p ++ [Artifact.pointer.fileName] → ∀ text, n = some (.file (.text text)) →
    ∃ j : Job, j.IsHashed ∧ text = j.relativePath
  module : ∀ name, q = p ++ [compiledName] ++ [name] → n ≠ some .directory ∧
    ∀ text m, n = some (.file (.text text)) → Manifest.parse text = .ok m →
      ∃ moduleName source, made source ∧ Manifest.ofSource moduleName source = .ok m

theorem fileName_inj {a b : Artifact} (h : p ++ [a.fileName] = p ++ [b.fileName]) :
  a = b
  := by
  rw [List.append_cancel_left_eq, List.singleton_inj, Artifact.fileName_inj] at h
  apply h

theorem compiledName_ne (a : Artifact) :
  p ++ [compiledName] ≠ p ++ [a.fileName]
  := by
  rw [Ne, List.append_cancel_left_eq, List.singleton_inj]
  apply a.fileName_ne_compiledName.symm

theorem module_ne (name other : String) :
  p ++ [compiledName] ++ [name] ≠ p ++ [other]
  := by
  intro h
  have hlength := congrArg List.length h
  simp at hlength

namespace Accounts

/-- What is gone needs no account. -/
theorem none (made : String → Prop) (p q : Place) :
  Accounts made p q none
  := by
  constructor <;> simp

theorem mono (h : Accounts made p q n) (hmade : ∀ source, made source → made' source) :
  Accounts made' p q n
  := by
  constructor
  · apply h.artifact
  · apply h.compiled
  · intro hq text hn
    apply hmade _ (h.bundle hq text hn)
  · apply h.pointer
  · intro name hq
    use (h.module name hq).1
    intro text m hn hm
    obtain ⟨moduleName, source, hsource, hof⟩ := (h.module name hq).2 text m hn hm
    exact ⟨moduleName, source, hmade _ hsource, hof⟩

/-- What stands neither for an artifact nor among the compiled modules needs no account. -/
theorem of_ne (hartifact : ∀ a, q ≠ p ++ [Artifact.fileName a]) (hcompiled : q ≠ p ++ [compiledName])
    (hmodule : ∀ name, q ≠ p ++ [compiledName] ++ [name]) :
  Accounts made p q n
  := by
  constructor
  · intro a hq
    exact absurd hq (hartifact a)
  · intro hq
    exact absurd hq hcompiled
  · intro hq
    exact absurd hq (hartifact _)
  · intro hq
    exact absurd hq (hartifact _)
  · intro name hq
    exact absurd hq (hmodule name)

/-- An artifact can be accounted for, if the bundle is a source that has been made and the pointer
leads to the place of a module. -/
theorem of_artifact {a : Artifact} {text : String} (hbundle : a = .bundle → made text)
    (hpointer : a = .pointer → ∃ j : Job, j.IsHashed ∧ text = j.relativePath) :
  Accounts made p (p ++ [a.fileName]) (some (.file (.text text)))
  := by
  constructor
  · simp
  · intro hq
    exact absurd hq.symm (compiledName_ne a)
  · intro hq text' hn
    cases hn
    apply hbundle (fileName_inj hq)
  · intro hq text' hn
    cases hn
    apply hpointer (fileName_inj hq)
  · intro name hq
    exact absurd hq.symm (module_ne name _)

theorem of_compiled :
  Accounts made p (p ++ [compiledName]) (some .directory)
  := by
  constructor
  · intro a hq
    exact absurd hq (compiledName_ne a)
  · simp
  · simp
  · simp
  · intro name hq
    exact absurd hq.symm (module_ne name _)

/-- A module can be accounted for, if its manifest is that of a source that has been made. -/
theorem of_module {name text : String}
    (h : ∀ m, Manifest.parse text = .ok m →
      ∃ moduleName source, made source ∧ Manifest.ofSource moduleName source = .ok m) :
  Accounts made p (p ++ [compiledName] ++ [name]) (some (.file (.text text)))
  := by
  constructor
  · simp
  · intro hq
    exact absurd hq (module_ne name _)
  · intro hq
    exact absurd hq (module_ne name _)
  · intro hq
    exact absurd hq (module_ne name _)
  · intro name' _
    refine ⟨by simp, ?_⟩
    intro text' m hn
    cases hn
    apply h m

end Accounts

/-- Whether a models directory is accounted for by sources that have been made. Its path leaves room
for the names of artifacts and modules. -/
structure Accounted (made : String → Prop) (c : Cache) (p : Place) (t : Tree) : Prop where
  sound : t.Sound
  leads : t.Leads c.directory p
  fits : c.directory.Fits 64
  accounts : ∀ q, Accounts made p q (t.get? q)

namespace Accounted

theorem mono (h : Accounted made c p t) (hmade : ∀ source, made source → made' source) :
  Accounted made' c p t
  := ⟨h.sound, h.leads, h.fits, fun q => (h.accounts q).mono hmade⟩

/-- A directory stays accounted for by changes that can be accounted for. -/
theorem of_becomes (h : Accounted made c p t) (hbecomes : Becomes (Accounts made p) t t') :
  Accounted made c p t'
  := by
  constructor
  · apply hbecomes.sound
  · apply h.leads.mono hbecomes.keeps
  · apply h.fits
  · intro q
    rcases hbecomes.gives q with heq | hkind
    · rw [heq]
      apply h.accounts
    · apply hkind

/-! ### Artifacts -/

theorem faultOf?_path (h : Accounted made c p t) (a : Artifact) :
  faultOf? (c.path a) = Option.none
  := by
  have hsize : a.fileName.utf8ByteSize + 1 ≤ 64 := by
    cases a <;> decide
  apply (h.fits.join a.isName.toIsStep hsize).faultOf?_eq_none

/-- Replacing an artifact does not fail. -/
theorem replace_eq (h : Accounted made c p t) (a : Artifact) (text : String) :
  c.replace t a text = (t.set (p ++ [a.fileName]) (.file (.text text)), .ok ())
  := by
  have hwrite := h.leads.write_join a.isName (h.faultOf?_path a) ((h.accounts _).artifact a rfl)
    (.text text)
  have hleads := (leads_parent_iff c a).mpr h.leads
  have hmake := hleads.makeDirectories_eq_ok (faultOf?_parent (h.faultOf?_path a))
  simp only [Cache.replace, hmake, path, hwrite]

theorem replace (h : Accounted made c p t) {a : Artifact} {text : String}
    (haccounts : Accounts made p (p ++ [a.fileName]) (some (.file (.text text)))) :
  ∃ t', c.replace t a text = (t', .ok ()) ∧ Accounted made c p t'
  := by
  have hbecomes : Becomes (Accounts made p) t (c.replace t a text).1 :=
    becomes_replace h.sound h.leads haccounts
  rw [h.replace_eq] at hbecomes ⊢
  exact ⟨_, rfl, h.of_becomes hbecomes⟩

theorem discard (h : Accounted made c p t) (a : Artifact) :
  Accounted made c p (c.discard t a).1
  := h.of_becomes (becomes_discard h.sound h.leads (.none _ _ _))

/-- Taking the lock does not fail, if no other has it. -/
theorem acquireLock (h : Accounted made c p t) (timeout : Nat) :
  ∃ t', c.acquireLock t false timeout = (t', .ok ()) ∧ Accounted made c p t'
  := by
  have hbecomes : Becomes (Accounts made p) t (c.acquireLock t false timeout).1 := by
    apply becomes_acquireLock h.sound h.leads
    apply Accounts.of_artifact (by simp) (by simp)
  have hdone : (c.acquireLock t false timeout).2 = .ok () := by
    have hnode := h.leads.node_join Artifact.lock.isName (h.faultOf?_path .lock)
    have hfree := (h.accounts _).artifact .lock rfl
    have hwrite := h.leads.write_join Artifact.lock.isName (h.faultOf?_path .lock) hfree (.text "")
    rw [Cache.acquireLock, h.leads.makeDirectories_eq_ok h.fits.faultOf?_eq_none]
    simp only [path, hnode]
    cases hget : t.get? (p ++ [Artifact.lock.fileName]) with
    | none => simp [hwrite]
    | some node =>
      cases node with
      | directory => exact absurd hget hfree
      | file content => simp
  use (c.acquireLock t false timeout).1
  rw [← hdone]
  exact ⟨rfl, h.of_becomes hbecomes⟩

/-- Steps do not fail, if what they write can be accounted for. -/
theorem runSteps {steps : List Step} (h : Accounted made c p t)
    (hsteps : ∀ s ∈ steps,
      Accounts made p (p ++ [s.artifact.fileName]) (some (.file (.text s.text)))) :
  ∃ t', c.runSteps steps t = (t', .ok ()) ∧ Accounted made c p t'
  := by
  induction steps generalizing t with
  | nil => exact ⟨t, rfl, h⟩
  | cons s rest ih =>
    rw [List.forall_mem_cons] at hsteps
    obtain ⟨t₁, hreplace, h₁⟩ := h.replace hsteps.1
    obtain ⟨t₂, hrest, h₂⟩ := ih h₁ hsteps.2
    refine ⟨t₂, ?_, h₂⟩
    simp only [Cache.runSteps, Step.run, hreplace, hrest]

/-! ### Storing -/

/-- What comes before the compilation does not fail. -/
theorem stage (h : Accounted made c p t) (hsource : made j.source) :
  ∃ t', c.stage t j = (t', .ok ()) ∧ Accounted made c p t'
  := by
  apply h.runSteps
  intro s hs
  simp only [Job.stage, List.mem_append, Option.mem_toList, Option.map_eq_some_iff,
    List.mem_singleton] at hs
  rcases hs with ⟨text, -, rfl⟩ | rfl
  · apply Accounts.of_artifact (by simp) (by simp)
  · apply Accounts.of_artifact (fun _ => hsource) (by simp)

/-- Writing a manifest to the place of a module does not fail. -/
theorem save_eq (h : Accounted made c p t) (hj : j.IsHashed) (m : Manifest) :
  (m.save t (c.output j)).2 = .ok (m.toModule (c.output j))
  := by
  have hname := hj.isName_moduleName
  have hcompiled : compiledName.utf8ByteSize = 8 := rfl
  have hroom := hj.utf8ByteSize_le
  have hfits := h.fits.join isName_compiledName.toIsStep (by omega)
  have hmodule := hfits.join hname.toIsStep (by omega)
  obtain ⟨t₁, hmake⟩ := h.leads.exists_makeDirectories_join isName_compiledName
    hfits.faultOf?_eq_none ((h.accounts _).compiled rfl)
  have hmade : Becomes (Accounts made p) t (t.makeDirectories c.compiledPath).1 :=
    becomes_makeCompiled h.sound h.leads Accounts.of_compiled
  rw [compiledPath, hmake] at hmade
  have h₁ := h.of_becomes hmade
  obtain ⟨q, hleads⟩ := exists_leads_of_makeDirectories hmake
  obtain ⟨rfl, -⟩ := h₁.leads.eq_of_join isName_compiledName.toIsStep hleads
  have hwrite := hleads.write_join hname hmodule.faultOf?_eq_none
    ((h₁.accounts _).module _ rfl).1 (.text m.print)
  have hparent := parent?_output hname.toIsStep c
  rw [output_eq hname.toIsStep, compiledPath] at hparent ⊢
  simp only [Manifest.save, hparent, hmake, Manifest.write, hwrite]

/-- Compiling fails only if the source is refused. -/
theorem compile (h : Accounted made c p t) (hj : j.IsHashed) (hsource : made j.source)
    (moduleName : String) :
  ∃ t', Manifest.compile t moduleName j.source (c.output j) =
      (t', (Manifest.ofSource moduleName j.source).map fun m => m.toModule (c.output j)) ∧
    Accounted made c p t'
  := by
  have hbecomes : Becomes (Accounts made p) t
      (Manifest.compile t moduleName j.source (c.output j)).1 := by
    apply becomes_compile moduleName hj.isName_moduleName.toIsStep h.sound h.leads
    · apply Accounts.of_compiled
    · intro m hm
      apply Accounts.of_module
      intro m' hm'
      rw [Manifest.parse_print] at hm'
      cases hm'
      exact ⟨moduleName, j.source, hsource, hm⟩
  refine ⟨_, ?_, h.of_becomes hbecomes⟩
  apply Prod.ext
  · rfl
  · rw [Manifest.compile]
    cases hof : Manifest.ofSource moduleName j.source with
    | error e => rfl
    | ok m => apply h.save_eq hj m

/-- Making a compiled source the generation in use fails only if the source is refused. -/
theorem complete (h : Accounted made c p t) (hj : j.IsHashed) (hsource : made j.source)
    (moduleName : String) :
  ∃ t', c.complete t j moduleName =
      (t', ((Manifest.ofSource moduleName j.source).map fun m => m.toModule (c.output j)).mapError
        .compile) ∧
    Accounted made c p t'
  := by
  obtain ⟨t₁, hcompile, h₁⟩ := h.compile hj hsource moduleName
  simp only [Cache.complete, hcompile]
  cases hof : Manifest.ofSource moduleName j.source with
  | error e => exact ⟨t₁, rfl, h₁⟩
  | ok m =>
    obtain ⟨t₂, hcommit, h₂⟩ : ∃ t', c.runSteps j.commit t₁ = (t', .ok ()) ∧ Accounted made c p t' := by
      apply h₁.runSteps
      intro s hs
      simp only [Job.commit, List.mem_cons, List.not_mem_nil, or_false] at hs
      rcases hs with rfl | rfl
      · apply Accounts.of_artifact (by simp) (fun _ => ⟨j, hj, rfl⟩)
      · apply Accounts.of_artifact (by simp) (by simp)
    refine ⟨c.prune t₂ (c.output j), ?_, ?_⟩
    · simp only [Except.map, hcommit, Except.mapError]
    · apply h₂.of_becomes
      apply becomes_prune h₂.sound h₂.leads
      · intro name _
        apply Accounts.none
      · intro name _
        apply Accounts.of_module
        intro m hm
        cases hm

/-! ### Loading -/

/-- The bundle that is found is a source that has been made. -/
theorem made_of_bundleFor? (h : Accounted made c p t) {fingerprint text : String}
    (hbundle : c.bundleFor? t fingerprint = some text) :
  made text
  := by
  rw [bundleFor?, Option.filter_eq_some_iff] at hbundle
  obtain ⟨-, hget⟩ := (read?_eq_some_iff h.leads).mp hbundle.1
  apply (h.accounts _).bundle rfl text hget

/-- The module that is found has been compiled from a source that has been made. -/
theorem exists_source_of_moduleFor? (h : Accounted made c p t) {location : Path}
    (hlocation : c.modulePath? t = some location) {fingerprint : String} {module : Module}
    (hmodule : moduleFor? t fingerprint location = some module) :
  ∃ moduleName source m, made source ∧ Manifest.ofSource moduleName source = .ok m ∧
    module = m.toModule location ∧ m.fingerprint = fingerprint
  := by
  obtain ⟨j, hj, rfl⟩ : ∃ j : Job, j.IsHashed ∧ location = c.output j := by
    obtain ⟨text, hread, rfl, -, -⟩ := modulePath?_eq_some_iff.mp hlocation
    obtain ⟨-, hget⟩ := (read?_eq_some_iff h.leads).mp hread
    obtain ⟨j, hj, rfl⟩ := (h.accounts _).pointer rfl text hget
    use j, hj
    rw [Job.trimmed_relativePath hj.digits, output]
  obtain ⟨text, m, hread, hm, rfl, hfingerprint⟩ := moduleFor?_eq_some hmodule
  have hname := hj.isName_moduleName.toIsStep
  have hnode := readText_eq_ok_iff.mp hread
  rw [output_eq hname] at hnode
  obtain ⟨-, -, q, hleads, hget⟩ := exists_leads_of_node hname hnode
  obtain ⟨rfl, -⟩ := h.leads.eq_of_join isName_compiledName.toIsStep hleads
  obtain ⟨moduleName, source, hsource, hof⟩ := ((h.accounts _).module _ rfl).2 text m hget hm
  exact ⟨moduleName, source, m, hsource, hof, rfl, hfingerprint⟩

end Accounted

end LiveModels.Cache
