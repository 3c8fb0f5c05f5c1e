import LiveModels.Proofs.Cache.RoundTrip
import LiveModels.Proofs.Cache.Spared

/-!
# Refused texts

When a text is refused by the compiler, the emitted source and the bundle have been written already.
Nothing else has, and so the module that was found before is found again. Its bundle is gone, unless
the refused text was made for the same fingerprint.

Two kinds of states are not covered. The pointer may name the emitted source or the bundle in place
of a compiled module, and a path that leads back may pass through a directory that did not exist
before.
-/

namespace LiveModels.Cache

open LiveModels.Tree

variable {c : Cache} {t t' : Tree} {p : Place} {j : Job} {name text : String} {e : CompileError}

/-! ### Attempts -/

/-- An attempt to store a text that is refused when it is compiled, with the files after it. -/
inductive Refuses (c : Cache) (t : Tree) : String → Tree → Prop
  | store {b : Bundle} {name : String} {e : CompileError} {t' : Tree}
    (hrefused : Manifest.ofSource name b.render = .error e)
    (hstore : c.store t b name = (t', .error (.compile e))) :
    Refuses c t b.render t'
  | storeSource {fingerprint text name : String} {e : CompileError} {t' : Tree}
    (hrefused : Manifest.ofSource name text = .error e)
    (hstore : c.storeSource t fingerprint text name = (t', .error (.compile e))) :
    Refuses c t text t'

/-- Steps never fail as a compilation does. -/
theorem runSteps_ne_compile (steps : List Step) :
  c.runSteps steps t ≠ (t', .error (.compile e))
  := by
  induction steps generalizing t with
  | nil => exact nofun
  | cons step rest ih =>
    rw [runSteps]
    split
    · apply ih
    case h_2 t₁ e' hstep =>
      intro heq
      cases heq
      unfold Step.run replace at hstep
      split at hstep
      · cases hstep
      · split at hstep <;> cases hstep

/-- A job whose source is refused is staged and nothing more. -/
theorem run_eq_refused_iff (hrefused : Manifest.ofSource name j.source = .error e) :
  c.run t j name = (t', .error (.compile e)) ↔ c.stage t j = (t', .ok ())
  := by
  unfold run
  constructor
  · intro h
    split at h
    case h_1 t₁ e' hstage =>
      cases h
      exact absurd hstage (runSteps_ne_compile _)
    case h_2 t₁ _ hstage =>
      simp only [complete, Manifest.compile, hrefused] at h
      cases h
      exact hstage
  · intro h
    simp only [h, complete, Manifest.compile, hrefused]

/-- An attempt that is refused stages the text, which is not empty. -/
theorem Refuses.exists_stage (h : Refuses c t text t') :
  ∃ j : Job, j.source = text ∧ text ≠ "" ∧ c.stage t j = (t', .ok ())
  := by
  cases h with
  | @store b name e t' hrefused hstore =>
    refine ⟨.ofBundle b, rfl, ?_, (run_eq_refused_iff (j := .ofBundle b) hrefused).mp hstore⟩
    intro hempty
    have hlist := Bundle.toList_render b
    rw [hempty] at hlist
    cases hlist
  | @storeSource fingerprint text name e t' hrefused hstore =>
    cases hheader : Bundle.header? text with
    | none =>
      simp only [Cache.storeSource, Job.ofSource, hheader] at hstore
      cases hstore
    | some header =>
      simp only [Cache.storeSource, Job.ofSource, hheader] at hstore
      let j : Job := ⟨fingerprint, header.revision, text, none⟩
      refine ⟨j, rfl, ?_, (run_eq_refused_iff (j := j) hrefused).mp hstore⟩
      rintro rfl
      cases hheader

/-! ### Directories -/

/-- Staging makes the models directory before anything else. -/
theorem stage_of_makeDirectories (h : c.stage t j = (t', .ok ())) :
  ∃ p, (t.makeDirectories (c.parent .bundle)).1.Leads c.directory p ∧
    c.stage (t.makeDirectories (c.parent .bundle)).1 j = (t', .ok ())
  := by
  have hreplace : ∀ {a : Artifact} {text : String} {t₁ : Tree}, c.replace t a text = (t₁, .ok ()) →
      ∃ p, (t.makeDirectories (c.parent .bundle)).1.Leads c.directory p ∧
        c.replace (t.makeDirectories (c.parent .bundle)).1 a text = (t₁, .ok ()) := by
    intro a text t₁ heq
    unfold replace at heq ⊢
    rw [c.parent_eq a .bundle] at heq ⊢
    split at heq
    · cases heq
    case h_2 made _ hmade =>
      obtain ⟨p, hp⟩ := exists_leads_of_makeDirectories hmade
      split at heq
      · cases heq
      case h_2 written hwrite =>
        obtain ⟨hfault, -⟩ := exists_leads_of_write a.isName.toIsStep hwrite
        have hsame := hp.makeDirectories_eq_ok (c.parent_eq a .bundle ▸ faultOf?_parent hfault)
        refine ⟨p, by rwa [hmade, ← leads_parent_iff c .bundle], ?_⟩
        rw [hmade, hsame]
        simp only [hwrite]
        exact heq
  obtain ⟨step, rest, hsteps⟩ : ∃ step rest, j.stage = step :: rest := by
    cases hgenerated : j.generated with
    | none => exact ⟨_, _, by rw [Job.stage, hgenerated]; rfl⟩
    | some emitted => exact ⟨_, _, by rw [Job.stage, hgenerated]; rfl⟩
  rw [stage, hsteps, runSteps] at h
  split at h
  case h_1 t₁ _ hstep =>
    obtain ⟨p, hp, hmade⟩ := hreplace hstep
    refine ⟨p, hp, ?_⟩
    rw [stage, hsteps, runSteps, Step.run, hmade]
    apply h
  · cases h

/-- Staging writes the emitted source and the bundle in the models directory, once that has been
made. -/
theorem becomes_of_stage (hs : t.Sound) (h : c.stage t j = (t', .ok ())) :
  ∃ p, (t.makeDirectories (c.parent .bundle)).1.Leads c.directory p ∧
    Becomes (Touches [.generated, .bundle] p) (t.makeDirectories (c.parent .bundle)).1 t'
  := by
  obtain ⟨p, hp, hstage⟩ := stage_of_makeDirectories h
  have hbecomes : Becomes (Touches [.generated, .bundle] p) (t.makeDirectories (c.parent .bundle)).1
      (c.stage (t.makeDirectories (c.parent .bundle)).1 j).1 := by
    apply becomes_runSteps (hs.becomes_makeDirectories (c.parent .bundle)).sound hp
    intro step hstep
    exact ⟨nofun, step.artifact, Job.artifact_of_mem_stage hstep, rfl⟩
  rw [hstage] at hbecomes
  exact ⟨p, hp, hbecomes⟩

/-- Where a path never leads back, no artifact appears when the models directory is made. -/
theorem exists_leads_of_read?_made (hs : t.Sound) (hforward : ".." ∉ c.directory.steps)
    {a : Artifact} (h : c.read? (t.makeDirectories (c.parent .bundle)).1 a = some text) :
  ∃ p, t.Leads c.directory p
  := by
  obtain ⟨p, hp, hget⟩ := exists_leads_of_read? h
  have hmade := hs.becomes_makeDirectories (c.parent .bundle)
  have hbefore : t.get? (p ++ [a.fileName]) = some (.file (.text text)) := by
    rw [← hget, hmade.get?_eq]
    rw [hget]
    exact nofun
  -- What has been there lies in directories that have been there.
  have hentry := (hs.get?_eq_some_iff (by simp)).mp hbefore
  have hway : ∀ q, q <+: p → t.get? q = some .directory := by
    intro q hq
    apply hs.get?_of_prefix hentry (hq.trans (List.prefix_append _ _))
    rintro rfl
    have hlength := hq.length_le
    simp at hlength
  exact ⟨p, walk_of_prefix hp.walk hforward hway, hway p List.prefix_rfl⟩

/-! ### What is left -/

/-- Whether the header of a text gives a fingerprint. -/
def carries (text fingerprint : String) : Bool :=
  (Bundle.header? text).map (·.fingerprint) == some fingerprint

/-- No text is found as a source but for the fingerprint of its header. -/
theorem carries_of_tryLoad {fingerprint : String} {m : Module} (hne : text ≠ "")
    (h : c.tryLoad t fingerprint = .module m text ∨ c.tryLoad t fingerprint = .source text) :
  carries text fingerprint = true
  := by
  have hbundle : c.bundleFor? t fingerprint = some text := by
    unfold tryLoad at h
    split at h
    · rcases h with h | h
      · obtain ⟨-, hsource⟩ := choose_eq_module_iff.mp h
        cases hbundle : c.bundleFor? t fingerprint with
        | none => exact absurd (hbundle ▸ hsource).symm hne
        | some found => rw [← hsource, hbundle, Option.getD_some]
      · exact (choose_eq_source_iff.mp h).2
    · rcases h with h | h <;> cases h
  rw [bundleFor?, Option.filter_eq_some_iff] at hbundle
  exact hbundle.2

/-- What an attempt leaves that was refused for a text. -/
structure Spares (c : Cache) (t t' : Tree) (text : String) : Prop where
  /-- Nothing changes but the emitted source and the bundle, apart from directories that are made on
  the way to the models directory. -/
  files : ∃ p, t'.Leads c.directory p ∧ ∀ q, q ≠ p ++ [Artifact.generated.fileName] →
    q ≠ p ++ [Artifact.bundle.fileName] →
    t'.get? q = t.get? q ∨ q <+: p ∧ t'.get? q = some .directory
  artifacts : ∀ a, a ≠ .generated → a ≠ .bundle → c.read? t' a = c.read? t a
  module : ¬ c.PointsTo t .generated → ¬ c.PointsTo t .bundle →
    ∀ fingerprint m source, c.tryLoad t fingerprint = .module m source →
      c.tryLoad t' fingerprint = .module m (if carries text fingerprint then text else "")
  miss : ¬ c.PointsTo t .generated → ¬ c.PointsTo t .bundle →
    ∀ fingerprint, carries text fingerprint = false → c.tryLoad t fingerprint = .miss →
      c.tryLoad t' fingerprint = .miss
  /-- Whatever becomes of the files later, the text is found for its own fingerprint only. -/
  source : ∀ (later : Tree) fingerprint m,
    c.tryLoad later fingerprint = .module m text ∨ c.tryLoad later fingerprint = .source text →
      carries text fingerprint = true

/-- The bundle that is found once a job has been staged. -/
theorem bundleFor?_of_stage (hs : t.Sound) (h : c.stage t j = (t', .ok ())) (fingerprint : String) :
  c.bundleFor? t' fingerprint =
    if carries j.source fingerprint then some j.source else none
  := by
  rw [bundleFor?, (read?_stage hs h).1, Option.filter_some]
  rfl

/-- An attempt that is refused in a directory that exists spares what is there. -/
theorem spares_of_leads (hs : t.Sound) (hp : t.Leads c.directory p) (hne : j.source ≠ "")
    (h : c.stage t j = (t', .ok ())) :
  Spares c t t' j.source
  := by
  obtain ⟨q, hq, hbecomes⟩ := becomes_of_stage hs h
  rw [((leads_parent_iff c .bundle).mpr hp).makeDirectories] at hq hbecomes
  rw [hp.eq hq] at hbecomes
  have hbundle := bundleFor?_of_stage hs h
  have hmarked : ∀ fingerprint, c.isMarked t' fingerprint = c.isMarked t fingerprint :=
    fun _ => isMarked_eq_of_touches hp hbecomes (by simp)
  have hmodule : ¬ c.PointsTo t .generated → ¬ c.PointsTo t .bundle →
      ∀ fingerprint, c.module? t' fingerprint = c.module? t fingerprint := by
    intro hgenerated hbundle fingerprint
    apply module?_eq_of_touches hp hbecomes (by simp)
    simpa using ⟨hgenerated, hbundle⟩
  constructor
  · refine ⟨p, hp.mono hbecomes.keeps, ?_⟩
    intro q hgenerated hbundle
    left
    apply get?_eq_of_touches hbecomes
    simpa using ⟨hgenerated, hbundle⟩
  · intro a hgenerated hbundle
    apply read?_eq_of_touches hp hbecomes
    simp [hgenerated, hbundle]
  · intro hgenerated hpointer fingerprint m source hfound
    obtain ⟨hmark, hm⟩ := exists_tryLoad_eq_module?_iff.mp ⟨source, hfound⟩
    rw [tryLoad_of_marked (by rw [hmarked, hmark]), hmodule hgenerated hpointer, hm, hbundle]
    split <;> rfl
  · intro hgenerated hpointer fingerprint hcarries hmiss
    by_cases hmark : c.isMarked t fingerprint = true
    · rw [tryLoad_of_marked hmark, choose_eq_miss_iff] at hmiss
      rw [tryLoad_of_marked (by rw [hmarked, hmark]), hmodule hgenerated hpointer, hmiss.1, hbundle,
        hcarries]
      rfl
    · apply tryLoad_of_not_marked
      rwa [hmarked]
  · intro later fingerprint m hfound
    apply carries_of_tryLoad hne hfound

/-- An attempt that is refused where no directory has been finds nothing to spare. -/
theorem spares_of_forward (hs : t.Sound) (hforward : ".." ∉ c.directory.steps)
    (hmissing : ¬ ∃ p, t.Leads c.directory p) (hne : j.source ≠ "")
    (h : c.stage t j = (t', .ok ())) :
  Spares c t t' j.source
  := by
  obtain ⟨p, hp, hbecomes⟩ := becomes_of_stage hs h
  have hmade := hs.becomes_makeDirectories_of_forward (forward_parent .bundle hforward)
  have hnames := walk_eq_names hforward hp.walk
  have hbefore : ∀ a, c.read? t a = none := by
    intro a
    rw [Option.eq_none_iff_forall_ne_some]
    intro text hread
    obtain ⟨q, hq, -⟩ := exists_leads_of_read? hread
    exact hmissing ⟨q, hq⟩
  have hafter : ∀ a, a ∉ [Artifact.generated, .bundle] → c.read? t' a = none := by
    intro a ha
    rw [read?_eq_of_touches hp hbecomes ha, Option.eq_none_iff_forall_ne_some]
    intro text hread
    exact hmissing (exists_leads_of_read?_made hs hforward hread)
  have hmiss : ∀ {tree : Tree} fingerprint, c.read? tree .marker = none →
      c.tryLoad tree fingerprint = .miss := by
    intro tree fingerprint hread
    apply tryLoad_of_not_marked
    simp [isMarked, hread]
  constructor
  · refine ⟨p, hp.mono hbecomes.keeps, ?_⟩
    intro q hgenerated hbundle
    have hsame : t'.get? q = (t.makeDirectories (c.parent .bundle)).1.get? q := by
      apply get?_eq_of_touches hbecomes
      simpa using ⟨hgenerated, hbundle⟩
    rw [hsame, hnames, ← names_parent c .bundle]
    rcases hmade.gives q with heq | ⟨hdirectory, hbegin⟩
    · exact .inl heq
    · exact .inr ⟨hbegin, hdirectory⟩
  · intro a hgenerated hbundle
    rw [hbefore, hafter a (by simp [hgenerated, hbundle])]
  · intro _ _ fingerprint m source hfound
    rw [hmiss fingerprint (hbefore .marker)] at hfound
    cases hfound
  · intro _ _ fingerprint _ _
    apply hmiss fingerprint (hafter .marker (by simp))
  · intro later fingerprint m hfound
    apply carries_of_tryLoad hne hfound

/-- When a text is refused, everything that was found before is found again, and the text is found
for its own fingerprint only, if the models directory exists or its path never leads back. -/
theorem Refuses.spares (hs : t.Sound)
    (hdirectory : (∃ p, t.Leads c.directory p) ∨ ".." ∉ c.directory.steps)
    (h : Refuses c t text t') :
  Spares c t t' text
  := by
  obtain ⟨j, rfl, hne, hstage⟩ := h.exists_stage
  by_cases hleads : ∃ p, t.Leads c.directory p
  · obtain ⟨p, hp⟩ := hleads
    apply spares_of_leads hs hp hne hstage
  · apply spares_of_forward hs (hdirectory.resolve_left hleads) hleads hne hstage

/-! ### Directories with a module -/

/-- A models directory `m` with files. -/
def holding (files : List (String × String)) : Tree :=
  files.foldl (fun t f => t.set (["m"] ++ [f.1]) (.file (.text f.2)))
    (Tree.set ⟨[]⟩ ["m"] .directory)

/-- The text of a module without models. -/
def emptyModule : String :=
  "\x7b\"name\":\"\",\"fingerprint\":\"ab\",\"revision\":1,\"types\":[]\x7d"

/-- A directory with a module that is in use. -/
def kept : Tree :=
  holding [(Artifact.marker.fileName, "ab"), (Artifact.pointer.fileName, "old.module"),
    ("old.module", emptyModule)]

/-- A directory in which the bundle is in use as a module. -/
def keptAsBundle : Tree :=
  holding [(Artifact.marker.fileName, "ab"), (Artifact.pointer.fileName, Artifact.bundle.fileName),
    (Artifact.bundle.fileName, emptyModule)]

/-- A directory in which the emitted source would be used as a module, if there were one. -/
def keptNowhere : Tree :=
  holding [(Artifact.marker.fileName, "ab"), (Artifact.pointer.fileName, Artifact.generated.fileName)]

theorem sound_kept :
  kept.Sound ∧ keptAsBundle.Sound ∧ keptNowhere.Sound
  := by
  decide +kernel

/-- A stored text that asks for a compile error. -/
def faultyText : String :=
  "// fingerprint: cd\n// revision: 2\ncompile_error!(\"\")"

/-- A bundle whose emitted source is a module, with a file that asks for a compile error. -/
def faultyBundle : Bundle :=
  ⟨"cd", 2, [("a.rs", "compile_error!(\"\")")], emptyModule⟩

/-- The text of this bundle. -/
def faultyBundleText : String :=
  "// fingerprint: cd\n// revision: 2\n\n// FILE: a.rs\ncompile_error!(\"\")\n\n"
    ++ "// FILE: models.generated.rs\n" ++ emptyModule ++ "\n\n// EOF\n"

theorem render_faultyBundle :
  faultyBundle.render = faultyBundleText
  := by
  decide +kernel

/-- The models directory at a path. -/
def cacheAt (path : String) : Cache :=
  ⟨⟨path⟩⟩

/-- The module without models, as it is loaded from a path. -/
def emptyModuleAt (path : String) : Module :=
  ⟨"", ⟨path⟩, "ab", 1, []⟩

/-- Whether this module is found at a path, and no source with it. -/
def isEmptyModule (path : String) : Lookup → Bool
  | .module ⟨name, location, fingerprint, revision, []⟩ source =>
    name == "" && location.text == path && fingerprint == "ab" && revision == 1 && source == ""
  | _ => false

/-- Whether nothing is found. -/
def isMiss : Lookup → Bool
  | .miss => true
  | _ => false

theorem eq_module_of_isEmptyModule {found : Lookup} {path : String}
    (h : isEmptyModule path found = true) :
  found = .module (emptyModuleAt path) ""
  := by
  unfold isEmptyModule at h
  split at h
  case h_1 name location fingerprint revision source =>
    simp only [Bool.and_eq_true, beq_iff_eq] at h
    obtain ⟨⟨⟨⟨rfl, rfl⟩, rfl⟩, rfl⟩, rfl⟩ := h
    rfl
  case h_2 => cases h

theorem eq_miss_of_isMiss {found : Lookup} (h : isMiss found = true) :
  found = .miss
  := by
  cases found with
  | miss => rfl
  | module m source => cases h
  | source text => cases h

/-- The job of storing the text. -/
def faultyJob : Job :=
  ⟨"cd", 2, faultyText, none⟩

/-- The job of storing the bundle. -/
def faultyBundleJob : Job :=
  ⟨"cd", 2, faultyBundleText, some emptyModule⟩

/-- The files once a job has been staged in the models directory at a path. -/
def stagedAt (path : String) (t : Tree) (j : Job) : Tree :=
  ((cacheAt path).stage t j).1

theorem stage_eq_stagedAt {path : String}
    (h : ((cacheAt path).stage t j).2.toOption = some ()) :
  (cacheAt path).stage t j = (stagedAt path t j, .ok ())
  := by
  unfold stagedAt
  generalize (cacheAt path).stage t j = result at h
  obtain ⟨t', (e' | ⟨⟨⟩⟩)⟩ := result
  · cases h
  · rfl

theorem refuses_faultyText {path : String}
    (h : ((cacheAt path).stage t faultyJob).2.toOption = some ()) :
  Refuses (cacheAt path) t faultyText (stagedAt path t faultyJob)
  := by
  have hrefused : Manifest.ofSource "" faultyText = .error ⟨"", ""⟩ := by decide +kernel
  have hheader : Bundle.header? faultyText = some ⟨"cd", 2⟩ := by decide +kernel
  have hstore : (cacheAt path).storeSource t "cd" faultyText "" =
      (stagedAt path t faultyJob, .error (.compile ⟨"", ""⟩)) := by
    simp only [Cache.storeSource, Job.ofSource, hheader]
    apply (run_eq_refused_iff (j := faultyJob) hrefused).mpr (stage_eq_stagedAt h)
  exact .storeSource hrefused hstore

theorem refuses_faultyBundle
    (h : ((cacheAt "m").stage t faultyBundleJob).2.toOption = some ()) :
  Refuses (cacheAt "m") t faultyBundle.render (stagedAt "m" t faultyBundleJob)
  := by
  have hrefused : Manifest.ofSource "" faultyBundleText = .error ⟨"", ""⟩ := by decide +kernel
  apply Refuses.store
  · rw [render_faultyBundle, hrefused]
  · rw [Cache.store, Job.ofBundle, render_faultyBundle]
    apply (run_eq_refused_iff (j := faultyBundleJob) hrefused).mpr (stage_eq_stagedAt h)

/-- In a directory with a module that is in use, a refused text changes nothing about the module. -/
theorem spares_kept :
  Refuses (cacheAt "m") kept faultyText (stagedAt "m" kept faultyJob) ∧
    Spares (cacheAt "m") kept (stagedAt "m" kept faultyJob) faultyText ∧
    (cacheAt "m").tryLoad (stagedAt "m" kept faultyJob) "ab" =
      .module (emptyModuleAt "m/old.module") ""
  := by
  have hrefuses : Refuses (cacheAt "m") kept faultyText (stagedAt "m" kept faultyJob) :=
    refuses_faultyText (by decide +kernel)
  have hspares := hrefuses.spares sound_kept.1 (.inr (by decide))
  have hpoints : ∀ a : Artifact, a.fileName ≠ "old.module" → ¬ (cacheAt "m").PointsTo kept a := by
    intro a ha
    have hread : (cacheAt "m").read? kept .pointer = some "old.module" := by decide +kernel
    apply not_pointsTo (q := ["m", "old.module"]) hread (by decide +kernel)
    simpa using ha.symm
  have hfound : (cacheAt "m").tryLoad kept "ab" = .module (emptyModuleAt "m/old.module") "" := by
    apply eq_module_of_isEmptyModule
    decide +kernel
  have hcarries : carries faultyText "ab" = false := by decide +kernel
  have hafter := hspares.module (hpoints _ (by decide)) (hpoints _ (by decide)) "ab" _ _ hfound
  rw [hcarries] at hafter
  exact ⟨hrefuses, hspares, hafter⟩

/-- A refused text takes the place of a module that is kept as the bundle; it brings an emitted
source with it that is found as a module; and it makes a directory through which a path leads back
to a module that has not been found before. -/
theorem refusals_spoil :
  (Refuses (cacheAt "m") keptAsBundle faultyText (stagedAt "m" keptAsBundle faultyJob) ∧
    carries faultyText "ab" = false ∧
    (cacheAt "m").tryLoad keptAsBundle "ab" = .module (emptyModuleAt "m/all.generated.rs") "" ∧
    (cacheAt "m").tryLoad (stagedAt "m" keptAsBundle faultyJob) "ab" = .miss) ∧
  (Refuses (cacheAt "m") keptNowhere faultyBundle.render
      (stagedAt "m" keptNowhere faultyBundleJob) ∧
    carries faultyBundle.render "ab" = false ∧
    (cacheAt "m").tryLoad keptNowhere "ab" = .miss ∧
    (cacheAt "m").tryLoad (stagedAt "m" keptNowhere faultyBundleJob) "ab" =
      .module (emptyModuleAt "m/models.generated.rs") "") ∧
  (Refuses (cacheAt "x/../m") kept faultyText (stagedAt "x/../m" kept faultyJob) ∧
    carries faultyText "ab" = false ∧
    (cacheAt "x/../m").tryLoad kept "ab" = .miss ∧
    (cacheAt "x/../m").tryLoad (stagedAt "x/../m" kept faultyJob) "ab" =
      .module (emptyModuleAt "x/../m/old.module") "")
  := by
  have hcarries : carries faultyText "ab" = false := by decide +kernel
  refine ⟨⟨?_, hcarries, ?_, ?_⟩, ⟨?_, ?_, ?_, ?_⟩, ⟨?_, hcarries, ?_, ?_⟩⟩
  · apply refuses_faultyText
    decide +kernel
  · apply eq_module_of_isEmptyModule
    decide +kernel
  · apply eq_miss_of_isMiss
    decide +kernel
  · apply refuses_faultyBundle
    decide +kernel
  · rw [render_faultyBundle]
    decide +kernel
  · apply eq_miss_of_isMiss
    decide +kernel
  · apply eq_module_of_isEmptyModule
    decide +kernel
  · apply refuses_faultyText
    decide +kernel
  · apply eq_miss_of_isMiss
    decide +kernel
  · apply eq_module_of_isEmptyModule
    decide +kernel

end LiveModels.Cache
