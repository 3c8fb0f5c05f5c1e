import LiveModels.Proofs.Cache.Stored
import LiveModels.Proofs.Source.Bundle

/-!
# Stored generations are found again

What has been stored is found for its fingerprint, and nothing is found for another one: the marker,
the pointer, the bundle and the module are read as they were written. Only a mark for removal beside
the module keeps it from being found.
-/

namespace LiveModels

open Text

namespace Cache

open LiveModels.Tree

variable {c : Cache} {t t' : Tree} {p : Place} {j : Job} {m : Manifest} {module : Module}
variable {name : String} {kind : Place → Option Node → Prop}

/-! ### Artifacts -/

/-- An artifact that has been replaced is read. -/
theorem read?_replace {a : Artifact} {text : String} (hs : t.Sound)
    (h : c.replace t a text = (t', .ok ())) :
  c.read? t' a = some text
  := by
  have hmake := (hs.becomes_makeDirectories (c.parent a)).sound
  unfold replace at h
  split at h
  · cases h
  case h_2 t₁ _ ht₁ =>
    rw [ht₁] at hmake
    split at h
    · cases h
    case h_2 t₂ hwrite =>
      cases h
      rw [read?, path, readText_of_write hmake a.isName.toIsStep hwrite]
      rfl

/-- An artifact is read as before when another one is replaced. -/
theorem read?_replace_of_ne {a b : Artifact} {text text' : String} (hs : t.Sound)
    (hread : c.read? t b = some text) (hne : a ≠ b) (h : c.replace t a text' = (t', .ok ())) :
  c.read? t' b = some text
  := by
  obtain ⟨p, hleads, -⟩ := exists_leads_of_read? hread
  have hbecomes : Becomes (fun q _ => q = p ++ [a.fileName]) t (c.replace t a text').1 :=
    becomes_replace hs hleads rfl
  rw [h] at hbecomes
  rw [read?_eq_of_becomes hleads hbecomes, hread]
  intro _ heq
  apply hne
  have hname : b.fileName = a.fileName := by simpa using heq
  apply (Artifact.fileName_inj.mp hname).symm

/-! ### Steps -/

theorem sound_runSteps (hs : t.Sound) (steps : List Step) :
  (c.runSteps steps t).1.Sound
  := by
  induction steps generalizing t with
  | nil => apply hs
  | cons s rest ih =>
    have hstep := sound_replace (c := c) hs s.artifact s.text
    simp only [runSteps, Step.run]
    split
    case h_1 t₁ _ ht₁ =>
      rw [ht₁] at hstep
      apply ih hstep
    case h_2 t₁ e ht₁ =>
      rw [ht₁] at hstep
      apply hstep

/-- The last of some steps is made after the others. -/
theorem exists_of_runSteps_concat (steps : List Step) {s : Step}
    (h : c.runSteps (steps ++ [s]) t = (t', .ok ())) :
  ∃ t₁, c.runSteps steps t = (t₁, .ok ()) ∧ c.replace t₁ s.artifact s.text = (t', .ok ())
  := by
  induction steps generalizing t with
  | nil =>
    use t, rfl
    simp only [List.nil_append, runSteps, Step.run] at h
    split at h
    case h_1 t₁ _ ht₁ =>
      cases h
      apply ht₁
    · cases h
  | cons first rest ih =>
    simp only [List.cons_append, runSteps] at h ⊢
    split at h
    case h_1 t₁ _ ht₁ =>
      apply ih h
    · cases h

/-! ### Compiling -/

/-- A module that has been compiled is read. -/
theorem readText_compile (hs : t.Sound) (hj : IsStep j.moduleName)
    (h : Manifest.compile t name j.source (c.output j) = (t', .ok module)) :
  ∃ m, Manifest.ofSource name j.source = .ok m ∧ module = m.toModule (c.output j) ∧
    t'.readText (c.output j) = .ok m.print
  := by
  obtain ⟨m, hm, hmodule⟩ := Manifest.ofSource_of_compile h
  use m, hm, hmodule
  have hmake := (hs.becomes_makeDirectories c.compiledPath).sound
  rw [Manifest.compile, hm] at h
  simp only [Manifest.save, parent?_output hj] at h
  split at h
  case h_1 t₁ _ ht₁ =>
    rw [ht₁] at hmake
    unfold Manifest.write at h
    split at h
    case h_1 t₂ hwrite =>
      cases h
      rw [output_eq hj] at hwrite ⊢
      apply readText_of_write hmake hj hwrite
    · cases h
  · cases h

/-- Artifacts are read as before when a module is compiled. -/
theorem read?_compile {a : Artifact} {text : String} (hs : t.Sound) (hj : IsStep j.moduleName)
    (hread : c.read? t a = some text)
    (h : Manifest.compile t name j.source (c.output j) = (t', .ok module)) :
  c.read? t' a = some text ∧ t'.Sound
  := by
  obtain ⟨p, hleads, -⟩ := exists_leads_of_read? hread
  have hbecomes : Becomes (fun q _ => ∃ rest, q = p ++ compiledName :: rest) t
      (Manifest.compile t name j.source (c.output j)).1 :=
    becomes_compile name hj hs hleads ⟨[], rfl⟩ fun _ _ => ⟨[j.moduleName], by simp⟩
  rw [h] at hbecomes
  refine ⟨?_, hbecomes.sound⟩
  rw [read?_eq_of_becomes hleads hbecomes, hread]
  rintro _ ⟨rest, heq⟩
  apply a.fileName_ne_compiledName
  have hcons := List.append_cancel_left heq
  injection hcons

/-- The module of a job is read as before when an artifact is replaced. -/
theorem readText_output_replace {a b : Artifact} {text text' s : String} (hs : t.Sound)
    (hj : IsStep j.moduleName) (hread : c.read? t b = some text)
    (houtput : t.readText (c.output j) = .ok s) (h : c.replace t a text' = (t', .ok ())) :
  t'.readText (c.output j) = .ok s
  := by
  obtain ⟨p, hleads, -⟩ := exists_leads_of_read? hread
  have hbecomes : Becomes (fun q _ => q = p ++ [a.fileName]) t (c.replace t a text').1 :=
    becomes_replace hs hleads rfl
  rw [h] at hbecomes
  rw [output_eq hj] at houtput ⊢
  apply readText_of_becomes hj houtput hbecomes
  intro q n hq heq
  obtain ⟨rfl, -⟩ := hleads.eq_of_join isName_compiledName.toIsStep hq
  have hlength := congrArg List.length heq
  simp at hlength

/-! ### Storing -/

/-- What is in the models directory once a job has been stored: the marker, the pointer and the
bundle of the job, and its module. -/
structure Holds (c : Cache) (j : Job) (m : Manifest) (t : Tree) : Prop where
  marker : c.read? t .marker = some j.fingerprint
  pointer : c.read? t .pointer = some j.relativePath
  bundle : c.read? t .bundle = some j.source
  module : t.readText (c.output j) = .ok m.print

/-- What has been stored is still there if its places are spared. -/
theorem Holds.of_becomes (h : Holds c j m t) (hj : IsStep j.moduleName)
    (hleads : t.Leads c.directory p) (hbecomes : Becomes kind t t')
    (hartifact : ∀ a ∈ [Artifact.marker, .pointer, .bundle], ∀ n, ¬ kind (p ++ [a.fileName]) n)
    (hmodule : ∀ n, ¬ kind (p ++ [compiledName] ++ [j.moduleName]) n) :
  Holds c j m t'
  := by
  constructor
  · rw [read?_eq_of_becomes hleads hbecomes (hartifact .marker (by simp)), h.marker]
  · rw [read?_eq_of_becomes hleads hbecomes (hartifact .pointer (by simp)), h.pointer]
  · rw [read?_eq_of_becomes hleads hbecomes (hartifact .bundle (by simp)), h.bundle]
  · have hread := h.module
    rw [output_eq hj] at hread ⊢
    apply readText_of_becomes hj hread hbecomes
    intro q n hq
    obtain ⟨rfl, -⟩ := hleads.eq_of_join isName_compiledName.toIsStep hq
    apply hmodule

/-- The pruning of old modules spares the module that is kept. -/
theorem Holds.prune (h : Holds c j m t) (hs : t.Sound) (hj : IsStep j.moduleName) :
  Holds c j m (c.prune t (c.output j)) ∧ (c.prune t (c.output j)).Sound
  := by
  obtain ⟨p, hleads, -⟩ := exists_leads_of_read? h.marker
  have hbecomes : Becomes (fun q _ => ∃ name, q = p ++ [compiledName] ++ [name] ∧
      name ≠ j.moduleName) t (c.prune t (c.output j)) := by
    apply becomes_prune hs hleads
    · intro name hname
      exact ⟨name, rfl, ne_moduleName_of_mem_outdated hs hleads hj hname⟩
    · intro name _
      refine ⟨name ++ removalEnding, rfl, ?_⟩
      intro heq
      have hlist := congrArg String.toList heq
      rw [String.toList_append, Job.toList_moduleName] at hlist
      have hlength : removalEnding.toList.length = ".module".toList.length := by decide
      have hending := List.append_inj_right' hlist hlength
      revert hending
      decide
  refine ⟨h.of_becomes hj hleads hbecomes ?_ ?_, hbecomes.sound⟩
  · rintro a - n ⟨name, heq, -⟩
    have hlength := congrArg List.length heq
    simp at hlength
  · rintro n ⟨name, heq, hne⟩
    apply hne
    simpa using heq.symm

/-- A job whose bundle has been staged is in the models directory once it is completed. -/
theorem holds_of_complete (hs : t.Sound) (hj : IsStep j.moduleName)
    (hbundle : c.read? t .bundle = some j.source) (h : c.complete t j name = (t', .ok module)) :
  ∃ m, Manifest.ofSource name j.source = .ok m ∧ module = m.toModule (c.output j) ∧
    Holds c j m t' ∧ t'.Sound
  := by
  unfold complete at h
  split at h
  · cases h
  case h_2 t₁ module' hcompile =>
    obtain ⟨m, hm, hmodule, houtput₁⟩ := readText_compile hs hj hcompile
    obtain ⟨hbundle₁, hs₁⟩ := read?_compile hs hj hbundle hcompile
    split at h
    · cases h
    case h_2 t₃ _ hcommit =>
      cases h
      use m, hm, hmodule
      obtain ⟨t₂, hpointer, hmarker⟩ := exists_of_runSteps_concat [⟨.pointer, _⟩] hcommit
      obtain ⟨_, hnone, hpointer⟩ := exists_of_runSteps_concat [] hpointer
      cases hnone
      have hs₂ : t₂.Sound := by
        have hsound := sound_replace (c := c) hs₁ .pointer j.relativePath
        rwa [hpointer] at hsound
      have hs₃ : t₃.Sound := by
        have hsound := sound_replace (c := c) hs₂ .marker j.fingerprint
        rwa [hmarker] at hsound
      have hpointer₂ := read?_replace hs₁ hpointer
      have hbundle₂ := read?_replace_of_ne hs₁ hbundle₁ (show Artifact.pointer ≠ .bundle by decide)
        hpointer
      have houtput₂ := readText_output_replace hs₁ hj hbundle₁ houtput₁ hpointer
      have hholds : Holds c j m t₃ := {
        marker := read?_replace hs₂ hmarker
        pointer := read?_replace_of_ne hs₂ hpointer₂ (show Artifact.marker ≠ .pointer by decide)
          hmarker
        bundle := read?_replace_of_ne hs₂ hbundle₂ (show Artifact.marker ≠ .bundle by decide) hmarker
        module := readText_output_replace hs₂ hj hbundle₂ houtput₂ hmarker }
      apply hholds.prune hs₃ hj

/-- The bundle of a job is read once the job has been staged. -/
theorem read?_stage (hs : t.Sound) (h : c.stage t j = (t', .ok ())) :
  c.read? t' .bundle = some j.source ∧ t'.Sound
  := by
  obtain ⟨t₁, hgenerated, hbundle⟩ := exists_of_runSteps_concat _ h
  have hs₁ : t₁.Sound := by
    have hsound := sound_runSteps (c := c) hs (j.generated.map fun text => ⟨.generated, text⟩).toList
    rwa [hgenerated] at hsound
  have hs₂ : t'.Sound := by
    have hsound := sound_replace (c := c) hs₁ .bundle j.source
    rwa [hbundle] at hsound
  exact ⟨read?_replace hs₁ hbundle, hs₂⟩

/-- A job that has been stored is in the models directory. -/
theorem holds_of_run (hs : t.Sound) (hj : IsStep j.moduleName)
    (h : c.run t j name = (t', .ok module)) :
  ∃ m, Manifest.ofSource name j.source = .ok m ∧ module = m.toModule (c.output j) ∧
    Holds c j m t' ∧ t'.Sound
  := by
  unfold run at h
  split at h
  · cases h
  case h_2 t₁ _ hstage =>
    obtain ⟨hbundle, hs₁⟩ := read?_stage hs hstage
    apply holds_of_complete hs₁ hj hbundle h

/-! ### Loading -/

/-- Whether a bundle is stored for a fingerprint, and the marker says so. -/
structure IsStored (c : Cache) (t : Tree) (fingerprint : String) : Prop where
  marked : c.isMarked t fingerprint = true
  bundle : ∃ source, c.bundleFor? t fingerprint = some source

/-- A bundle stays stored while the marker and the bundle are spared. -/
theorem IsStored.of_becomes {fingerprint : String} (h : IsStored c t fingerprint)
    (hleads : t.Leads c.directory p) (hbecomes : Becomes kind t t')
    (hkind : ∀ a ∈ [Artifact.marker, .bundle], ∀ n, ¬ kind (p ++ [a.fileName]) n) :
  IsStored c t' fingerprint
  := by
  obtain ⟨hmarked, hbundle⟩ := h
  constructor
  · rwa [isMarked, read?_eq_of_becomes hleads hbecomes (hkind .marker (by simp))]
  · rwa [bundleFor?, read?_eq_of_becomes hleads hbecomes (hkind .bundle (by simp))]

theorem Holds.isMarked_iff (h : Holds c j m t)
    (hhex : ∀ d ∈ j.fingerprint.toList, isLowerHex d = true) {fingerprint : String} :
  c.isMarked t fingerprint = true ↔ fingerprint = j.fingerprint
  := by
  have htrimmed : trimmed j.fingerprint = j.fingerprint :=
    trimmed_eq_self fun d hd => isBlank_of_isLowerHex (hhex d hd)
  rw [isMarked, h.marker, Option.map_some, htrimmed, beq_iff_eq, Option.some.injEq]
  apply eq_comm

theorem Holds.bundleFor?_eq {header : Header} (h : Holds c j m t)
    (hheader : Bundle.header? j.source = some header) (hj : header.fingerprint = j.fingerprint) :
  c.bundleFor? t j.fingerprint = some j.source
  := by
  rw [bundleFor?, h.bundle, Option.filter_some, if_pos]
  rw [hheader, Option.map_some, hj, beq_self_eq_true]

/-- The bundle of a job that has been stored is stored for its fingerprint. -/
theorem Holds.isStored {header : Header} (h : Holds c j m t)
    (hhex : ∀ d ∈ j.fingerprint.toList, isLowerHex d = true)
    (hheader : Bundle.header? j.source = some header) (hj : header.fingerprint = j.fingerprint) :
  IsStored c t j.fingerprint
  := ⟨(h.isMarked_iff hhex).mpr rfl, j.source, h.bundleFor?_eq hheader hj⟩

/-- What is in the models directory is found for its fingerprint, unless its module is marked for
removal, and nothing is found for another fingerprint. -/
theorem Holds.tryLoad_eq {header : Header} (h : Holds c j m t)
    (hhex : ∀ d ∈ j.fingerprint.toList, isLowerHex d = true)
    (hheader : Bundle.header? j.source = some header) (hj : header.fingerprint = j.fingerprint)
    (hm : Manifest.ofSource name j.source = .ok m)
    (hmark : t.has ((c.output j).withEnding removalEnding) = false) :
  c.tryLoad t j.fingerprint = .module (m.toModule (c.output j)) j.source ∧
    ∀ fingerprint, fingerprint ≠ j.fingerprint → c.tryLoad t fingerprint = .miss
  := by
  constructor
  · have hfile : t.hasFile (c.output j) = true := by
      rw [hasFile, readText_eq_ok_iff.mp h.module]
    have hpath : c.modulePath? t = some (c.output j) := by
      apply modulePath?_eq_some_iff.mpr
      refine ⟨j.relativePath, h.pointer, ?_, hfile, hmark⟩
      rw [Job.trimmed_relativePath hhex, output]
    have hfingerprint : m.fingerprint = j.fingerprint := by
      obtain ⟨header', hheader', rfl⟩ := Manifest.ofSource_eq_ok hm
      rw [hheader] at hheader'
      cases hheader'
      apply hj
    have hmodule : moduleFor? t j.fingerprint (c.output j) = some (m.toModule (c.output j)) := by
      rw [← hfingerprint]
      apply moduleFor?_eq_of_parse h.module m.parse_print
    rw [tryLoad, if_pos ((h.isMarked_iff hhex).mpr rfl), hpath, Option.bind_some, hmodule,
      h.bundleFor?_eq hheader hj]
    rfl
  · intro fingerprint hne
    rw [tryLoad, if_neg]
    rwa [h.isMarked_iff hhex]

/-! ### Round trip -/

/-- Whether a module that was stored with the bundle of a text is found for its fingerprint alone,
as it was returned. -/
structure IsFound (c : Cache) (t : Tree) (header : Header) (name source : String)
    (module : Module) : Prop where
  name : module.name = name
  fingerprint : module.fingerprint = header.fingerprint
  revision : module.revision = header.revision
  types : module.types = (Declaration.declared source).map Declaration.exported
  found : c.tryLoad t header.fingerprint = .module module source
  missed : ∀ fingerprint, fingerprint ≠ header.fingerprint → c.tryLoad t fingerprint = .miss

/-- A job for what the header of its source says is found after it has been stored. -/
theorem isFound_of_run {header : Header} (hs : t.Sound)
    (hhex : ∀ d ∈ j.fingerprint.toList, isLowerHex d = true)
    (hheader : Bundle.header? j.source = some header) (hj : header.fingerprint = j.fingerprint)
    (h : c.run t j name = (t', .ok module))
    (hmark : t'.has (module.location.withEnding removalEnding) = false) :
  IsFound c t' header name j.source module
  := by
  obtain ⟨m, hm, rfl, hholds, -⟩ := holds_of_run hs (Job.isStep_moduleName hhex) h
  obtain ⟨hfound, hmissed⟩ := hholds.tryLoad_eq hhex hheader hj hm hmark
  obtain ⟨header', hheader', rfl⟩ := Manifest.ofSource_eq_ok hm
  rw [hheader] at hheader'
  cases hheader'
  rw [← hj] at hfound hmissed
  exact ⟨rfl, rfl, rfl, rfl, hfound, hmissed⟩

/-- A bundle that has been stored is found for its fingerprint alone, unless its module is marked
for removal, and so is a stored text that has been stored again with another revision. -/
theorem store_then_load {fingerprint : String} (hs : t.Sound) (hne : fingerprint ≠ "")
    (hhex : ∀ d ∈ fingerprint.toList, isLowerHex d = true) (name : String) :
  (∀ (revision : UInt64) (files : UserFiles) (generated : String) (t' : Tree) (module : Module),
      c.store t ⟨fingerprint, revision, files, generated⟩ name = (t', .ok module) →
      t'.has (module.location.withEnding removalEnding) = false →
      IsFound c t' ⟨fingerprint, revision⟩ name
        (Bundle.render ⟨fingerprint, revision, files, generated⟩) module) ∧
    ∀ (text : String) (old revision : UInt64) (t' : Tree) (module : Module),
      Bundle.header? text = some ⟨fingerprint, old⟩ →
      c.storeSource t fingerprint (Bundle.restamp text revision) name = (t', .ok module) →
      t'.has (module.location.withEnding removalEnding) = false →
      IsFound c t' ⟨fingerprint, revision⟩ name (Bundle.restamp text revision) module
  := by
  constructor
  · intro revision files generated t' module hstore hmark
    have hheader := Bundle.header?_render (b := ⟨fingerprint, revision, files, generated⟩) hne hhex
    rw [store] at hstore
    exact isFound_of_run (j := .ofBundle ⟨fingerprint, revision, files, generated⟩) hs hhex hheader
      rfl hstore hmark
  · intro text old revision t' module hheader hstore hmark
    have hrestamped := Bundle.header?_restamp hheader revision
    rw [storeSource, Job.ofSource, hrestamped] at hstore
    exact isFound_of_run (j := ⟨fingerprint, revision, Bundle.restamp text revision, none⟩) hs hhex
      hrestamped rfl hstore hmark

/-- A bundle with one declaration. -/
def leaf : Bundle :=
  ⟨"ab", 1, [], "pub struct Page;"⟩

/-- What is left when the bundle has been stored where nothing was before. -/
def filed : Tree × Except ModelsError Module :=
  store ⟨⟨"m"⟩⟩ ⟨[]⟩ leaf "pages"

theorem leaf_is_found :
  ∃ tree module, store ⟨⟨"m"⟩⟩ ⟨[]⟩ leaf "pages" = (tree, .ok module) ∧
    tree.has (module.location.withEnding removalEnding) = false ∧
    tryLoad ⟨⟨"m"⟩⟩ tree "ab" = .module module leaf.render ∧
    tryLoad ⟨⟨"m"⟩⟩ tree "ba" = .miss
  := by
  have hstored : (filed.2.toOption.any fun module =>
      !filed.1.has (module.location.withEnding removalEnding)) = true := by
    decide +kernel
  cases hfiled : filed with
  | mk tree result =>
    cases result with
    | error e =>
      rw [hfiled] at hstored
      cases hstored
    | ok module =>
      rw [hfiled] at hstored
      have hmark : tree.has (module.location.withEnding removalEnding) = false := by
        rwa [Except.toOption, Option.any_some, Bool.not_eq_true'] at hstored
      have hhex : ∀ d ∈ "ab".toList, isLowerHex d = true := List.all_eq_true.mp rfl
      have hfound := (store_then_load sound_nil (by decide) hhex "pages").1 1 [] "pub struct Page;"
        tree module hfiled hmark
      exact ⟨tree, module, hfiled, hmark, hfound.found, hfound.missed "ba" (by decide)⟩

end Cache

end LiveModels
