import LiveModels.Proofs.Reload.History

/-!
# What is unchanged is not compiled again

Once a build has succeeded, the next builds reuse its module as long as the schema and the files of
users stay as they are. Between one build and the next a service changes nothing in the models
directory but the noted error and the out-of-date flag, and so whatever has been there before, the
marker, the pointer and the module of the first build are found by the next one.

There are two modules for which this fails. One is marked for removal by a file that was there before
the first build: as the mark is not removed when the module is compiled, the next build does not
accept the module. The other is a module that was found in place of the noted error or the
out-of-date flag.
-/

namespace LiveModels.Service

open LiveModels.Tree

variable {p : Place} {t₀ : Tree} {s s' : Service} {c : Capture} {first g : Generation} {n : Nat}

/-! ### Modules that are found -/

/-- Whether two generations have the same models, for the same fingerprint. -/
structure Renews (g first : Generation) : Prop where
  fingerprint : g.fingerprint = first.fingerprint
  module : g.module = first.module
  registry : g.registry = first.registry

/-- Whether a service finds the module of a generation when it builds for a capture: the files of
users are the captured ones, the lock is free, and the module is stored apart from what is noted. -/
structure Reuses (t₀ : Tree) (c : Capture) (first : Generation) (n : Nat) (p : Place) (s : Service) :
    Prop where
  since : Becomes (IsWork p) t₀ s.tree
  leads : t₀.Leads s.coordinator.cache.directory p
  lock : ∃ content, t₀.node (s.coordinator.cache.path .lock) = .ok (.file content)
  files : s.coordinator.cache.userFiles t₀ = .ok c.files
  fingerprint : first.fingerprint = some c.fingerprint
  found : ∃ m, first.module = some m ∧ Registry.build m = .ok first.registry ∧
    s.Finds c.fingerprint m ∧ ∀ a ∈ [Artifact.error, .outOfDate],
      s.tree.place m.location m.location.route ≠ .ok (p ++ [a.fileName])
  lockHeld : s.lockHeld = false
  load : ∀ message, .fail message ∉ s.coordinator.script.load
  compiles : s.coordinator.compiles = n

namespace Reuses

/-- What is noted is of no account for what is found. -/
theorem of_notes (h : Reuses t₀ c first n p s) (hnotes : Becomes (Cache.IsNote p) s.tree s'.tree)
    (hcache : s'.coordinator.cache = s.coordinator.cache)
    (hscript : s'.coordinator.script = s.coordinator.script) (hlock : s'.lockHeld = s.lockHeld)
    (hcompiles : s'.coordinator.compiles = s.coordinator.compiles) :
  Reuses t₀ c first n p s'
  := by
  obtain ⟨m, hm, hregistry, hfound, hplace⟩ := h.found
  constructor
  · apply h.since.trans
    apply hnotes.mono fun _ _ => isWork_of_isNote
  · rw [hcache]
    apply h.leads
  · rw [hcache]
    apply h.lock
  · rw [hcache]
    apply h.files
  · apply h.fingerprint
  · refine ⟨m, hm, hregistry, ?_, ?_⟩
    · rw [Finds, hcache]
      apply Cache.exists_tryLoad_of_notes (h.leads.mono h.since.keeps) hnotes hfound hplace
    · intro a ha hnode
      apply hplace a ha
      apply (hnotes.place_eq_ok_iff fun q h => h.1 rfl).mp hnode
  · rw [hlock]
    apply h.lockHeld
  · rw [hscript]
    apply h.load
  · rw [hcompiles]
    apply h.compiles

/-- The lock is taken without a change. -/
theorem entered_eq (h : Reuses t₀ c first n p s) :
  s.coordinator.cache.acquireLock s.tree s.lockHeld s.coordinator.options.lockTimeout =
    (s.tree, .ok ())
  := by
  obtain ⟨content, hnode⟩ := h.lock
  obtain ⟨hfault, hname, q, hq, hget⟩ := exists_leads_of_node Artifact.lock.isName.toIsStep hnode
  rw [h.leads.eq hq] at hget
  have hp := h.leads.mono h.since.keeps
  have hsame : s.tree.get? (p ++ [Artifact.lock.fileName]) = some (.file content) := by
    rw [h.since.get?_eq, hget]
    rintro (⟨a, ha, heq⟩ | ⟨rest, heq⟩)
    · have hname : Artifact.lock.fileName = a.fileName := by simpa using heq
      exact ha (Artifact.fileName_inj.mp hname).symm
    · simp [(Artifact.fileName_ne_compiledName .lock)] at heq
  have hlock : s.tree.node (s.coordinator.cache.path .lock) = .ok (.file content) := by
    rw [Cache.path, hp.node_join Artifact.lock.isName hfault, hsame]
    rfl
  rw [h.lockHeld]
  apply Cache.acquireLock_of_node hp hlock

/-- The files of users stay as they were captured. -/
theorem userFiles_eq (h : Reuses t₀ c first n p s) (hs : t₀.Sound) :
  s.coordinator.cache.userFiles s.tree = .ok c.files
  := by
  rw [← h.files]
  apply Cache.userFiles_eq_of_becomes hs h.leads h.since fun _ _ => isOwn_of_isWork

/-- The module is found when it is looked up. -/
theorem lookUp (h : Reuses t₀ c first n p s) :
  ∃ s' m source, s.lookUp c.fingerprint = (s', .module m source) ∧ first.module = some m ∧
    Registry.build m = .ok first.registry ∧ Reuses t₀ c first n p s'
  := by
  obtain ⟨m, hm, hregistry, hfound, hplace⟩ := h.found
  have hp := h.leads.mono h.since.keeps
  have hcall := notes_call h.since.sound hp .load
  have hbuilds := builds_call .load s
  have hcompiles := compiles_load s
  have hnone : (s.call .load).2 = none := call_eq_none h.load
  cases hloaded : s.call .load with
  | mk s₁ failure =>
    rw [hloaded] at hcall hbuilds hcompiles hnone
    cases hnone
    have hreuses := h.of_notes hcall hbuilds.cache hbuilds.script hbuilds.lockHeld hcompiles
    obtain ⟨hmarked, location, hpath, hmodule⟩ := Cache.exists_tryLoad_eq_module_iff.mp hfound
    have hfound₁ := Cache.exists_tryLoad_of_notes hp hcall hfound hplace
    obtain ⟨-, location₁, -, hmodule₁⟩ := Cache.exists_tryLoad_eq_module_iff.mp hfound₁
    have hlocation : location = location₁ := by
      obtain ⟨_, _, -, -, rfl, -⟩ := Cache.moduleFor?_eq_some hmodule
      obtain ⟨_, _, -, -, heq, -⟩ := Cache.moduleFor?_eq_some hmodule₁
      apply congrArg Module.location heq
    refine ⟨s₁, m, (s.coordinator.cache.bundleFor? s.tree c.fingerprint).getD "", ?_, hm, hregistry,
      hreuses⟩
    simp only [Service.lookUp, hmarked, if_true, hpath, hloaded, hlocation, hmodule₁]
    rfl

/-- A build for what was captured reuses the module. -/
theorem rebuild (h : Reuses t₀ c first n p s) (hinput : s.input = .ok c) :
  ∃ s' g, s.rebuild = (s', .ok g) ∧ Renews g first ∧ Reuses t₀ c first n p s'
  := by
  obtain ⟨s₁, m, source, hlookUp, hm, hregistry, hreuses⟩ := h.lookUp
  have hentered : s.entered = s := by
    rw [entered, h.entered_eq]
  have hcapture : s.capture = .ok c := by
    rw [input, hentered] at hinput
    apply hinput
  have hproduce : s.produce c.snapshot c.files c.fingerprint =
      ((s₁.reuseModule m source).1, .ok (s₁.reuseModule m source).2) := by
    unfold Service.produce
    rw [hlookUp]
  have hmodule : (s₁.reuseModule m source).2.module = m := rfl
  have hrebuild : s.rebuild = s.generationOf c := by
    rw [rebuild_of_acquireLock h.entered_eq, hcapture]
  unfold generationOf at hrebuild
  simp only [hproduce, hmodule, hregistry] at hrebuild
  rw [hrebuild]
  refine ⟨_, _, rfl, ⟨h.fingerprint.symm, hm.symm, rfl⟩, ?_⟩
  have hbuilds := builds_reuseModule (s := s₁) m source
  exact hreuses.of_notes (Becomes.refl hreuses.since.sound) hbuilds.cache hbuilds.script
    hbuilds.lockHeld rfl

end Reuses

/-! ### Repeated requests -/

/-- The services that are reached from another one by a request, and then by invalidations and more
requests as time goes on, with the schema that the first request has found. -/
inductive Repeated (s : Service) : Service → Prop
  | first : Repeated s s.ensureReady.1
  | wait {s' : Service} (h : Repeated s s') (now : String) : Repeated s { s' with now := now }
  | invalidate {s' : Service} (h : Repeated s s') : Repeated s s'.invalidate
  | request {s' : Service} (h : Repeated s s') (hschema : s'.schema = s.schema) :
    Repeated s s'.ensureReady.1

/-- Whether a generation is in use that has the models of another one, and no build has failed
since. -/
structure Offers (first : Generation) (s : Service) : Prop where
  lastError : s.coordinator.lastError = none
  current : ∃ g, s.coordinator.current = some g ∧ Renews g first

/-- A build that reuses a module publishes its models again. -/
theorem Reuses.succeed (h : Reuses t₀ c first n p s) (hg : Renews g first) :
  Reuses t₀ c first n p (s.succeed g).endBuild ∧ Offers first (s.succeed g).endBuild
  := by
  have hcoordinator := coordinator_succeed s g
  constructor
  · have hnotes : Becomes (Cache.IsNote p) s.tree (s.succeed g).endBuild.tree :=
      notes_succeed h.since.sound (h.leads.mono h.since.keeps) g
    apply h.of_notes hnotes
    · simp only [endBuild, hcoordinator]
    · simp only [endBuild, hcoordinator]
    · simp only [endBuild, Service.succeed, clearOutOfDate_eq]
      rfl
    · simp only [endBuild, hcoordinator]
  · constructor
    · simp only [endBuild, hcoordinator]
    · use g
      simp only [endBuild, hcoordinator]
      exact ⟨trivial, hg⟩

/-- A request reuses the module, if it builds at all. -/
theorem Reuses.ensureReady (h : Reuses t₀ c first n p s) (hoffers : Offers first s)
    (hinput : s.input = .ok c) :
  Reuses t₀ c first n p s.ensureReady.1 ∧ Offers first s.ensureReady.1
  := by
  cases hfresh : s.coordinator.fresh? with
  | some g =>
    rw [ensureReady_of_fresh hfresh]
    exact ⟨h, hoffers⟩
  | none =>
    have hbegun : Reuses t₀ c first n p s.beginBuild :=
      h.of_notes (Becomes.refl h.since.sound) rfl rfl rfl rfl
    obtain ⟨built, g, hbuild, hg, hbuilt⟩ := hbegun.rebuild hinput
    rw [ensureReady_of_ok hfresh hbuild]
    apply hbuilt.succeed hg

theorem Reuses.invalidate (h : Reuses t₀ c first n p s) (hoffers : Offers first s) :
  Reuses t₀ c first n p s.invalidate ∧ Offers first s.invalidate
  := by
  have hnotes := notes_invalidate h.since.sound (h.leads.mono h.since.keeps)
  constructor
  · apply h.of_notes hnotes
    · rw [coordinator_invalidate]
    · rw [coordinator_invalidate]
    · apply lockHeld_invalidate
    · apply compiles_invalidate
  · obtain ⟨hlast, hcurrent⟩ := hoffers
    constructor
    · rwa [coordinator_invalidate]
    · rwa [coordinator_invalidate]

/-- Whether a module that is in use can be found again: it is not marked for removal, and is stored
apart from what is noted. -/
structure IsLasting (s : Service) (m : Module) : Prop where
  unmarked : s.marks m = false
  apart : ∀ p, s.tree.Leads s.coordinator.cache.directory p →
    ∀ a ∈ [Artifact.error, .outOfDate],
      s.tree.place m.location m.location.route ≠ .ok (p ++ [a.fileName])

/-- A module that is compiled can be found again, unless a mark for it is there before. -/
theorem isLasting_of_compiled {m : Module} (hs : s.tree.Sound) (hbuilds : s.coordinator.fresh? = none)
    (hok : s.ensureReady.1.coordinator.lastError = none)
    (hcompiled : s.ensureReady.1.coordinator.compiles ≠ s.coordinator.compiles)
    (hm : s.ensureReady.2.module = some m) (hmark : s.entered.marks m = false) :
  IsLasting s.ensureReady.1 m
  := by
  obtain ⟨built, g, c, product, p, h⟩ := exists_makes hs hbuilds hok
  obtain ⟨hcache, hcompiles⟩ := h.ensureReady_eq
  have hmodule : product.module = m := by
    rw [h.ready, h.module] at hm
    apply Option.some.inj hm
  subst hmodule
  rcases produce_cases (s := s.beginBuild.entered) h.sound h.leads
    h.isSound.isLowerHex h.isSound.fingerprint_ne_empty h.produce with ⟨s₁, source, hfound, hbuilt⟩ | hjob
  · have hloaded := compiles_lookUp s.beginBuild.entered c.fingerprint
    rw [hfound] at hloaded
    rw [hcompiles, hbuilt] at hcompiled
    exact absurd hloaded hcompiled
  · obtain ⟨hunmarked, hapart⟩ := hjob.unmarked h.leads h.isSound.isLowerHex
    constructor
    · rw [h.ready]
      apply (marks_of_notes h.notes product.module).trans (hunmarked hmark)
    · intro q hq a _
      have hleads : s.ensureReady.1.tree.Leads s.ensureReady.1.coordinator.cache.directory p := by
        rw [hcache, h.ready]
        apply h.leads_built.mono h.notes.keeps
      obtain rfl := hleads.eq hq
      rw [hcache, h.builds.cache] at hq
      apply hapart hq

/-- After a first build the module is reused, unless it cannot be found again. -/
theorem exists_reuses_ensureReady (hs : s.tree.Sound) (hlock : s.lockHeld = false)
    (hload : ∀ message, .fail message ∉ s.coordinator.script.load)
    (hbuilds : s.coordinator.fresh? = none) (hok : s.ensureReady.1.coordinator.lastError = none)
    (hlasting : ∀ m, s.ensureReady.2.module = some m → IsLasting s.ensureReady.1 m) :
  ∃ c p, s.input = .ok c ∧ s.entered.tree.Sound ∧
    Reuses s.entered.tree c s.ensureReady.2 s.ensureReady.1.coordinator.compiles p
      s.ensureReady.1 ∧ Offers s.ensureReady.2 s.ensureReady.1
  := by
  obtain ⟨built, g, c, product, p, h⟩ := exists_makes hs hbuilds hok
  obtain ⟨hcache, hcompiles⟩ := h.ensureReady_eq
  obtain ⟨-, hfiles, -⟩ := input_eq_ok_iff.mp h.input
  rw [hcompiles]
  rw [h.ready] at hcache hlasting ⊢
  obtain ⟨hunmarked, hapart⟩ := hlasting product.module h.module
  have hreuses : Reuses s.entered.tree c g built.coordinator.compiles p built := by
    constructor
    · apply h.finds.1
    · rw [h.builds.cache]
      apply h.leads
    · rw [h.builds.cache]
      apply Cache.exists_node_lock_of_acquireLock hs h.lock
    · rw [h.builds.cache]
      apply hfiles
    · apply h.fingerprint
    · refine ⟨product.module, h.module, h.registry, ?_, ?_⟩
      · apply h.finds.2
        rw [← hunmarked]
        apply (marks_of_notes h.notes product.module).symm
      · intro a ha hplace
        rw [hcache] at hapart
        apply hapart p (h.leads_built.mono h.notes.keeps) a ha
        apply (h.notes.place_eq_ok_iff fun q h => h.1 rfl).mpr hplace
    · rw [h.builds.lockHeld]
      apply hlock
    · rw [h.builds.script]
      apply hload
    · rfl
  exact ⟨c, p, h.input, h.sound, hreuses.succeed ⟨rfl, rfl, rfl⟩⟩

/-- Once a build has succeeded and its module can be found again, no request compiles anything as
long as the schema and the files of users stay as they are, and the same models stay in use. -/
theorem Repeated.compiles_nothing (hs : s.tree.Sound) (hlock : s.lockHeld = false)
    (hload : ∀ message, .fail message ∉ s.coordinator.script.load)
    (hbuilds : s.coordinator.fresh? = none) (hok : s.ensureReady.1.coordinator.lastError = none)
    (hlasting : ∀ m, s.ensureReady.2.module = some m → IsLasting s.ensureReady.1 m)
    (h : Repeated s s') :
  s'.coordinator.compiles = s.ensureReady.1.coordinator.compiles ∧ Offers s.ensureReady.2 s'
  := by
  obtain ⟨c, p, hinput, hs₀, hreuses⟩ :=
    exists_reuses_ensureReady hs hlock hload hbuilds hok hlasting
  obtain ⟨hschema, -, hc⟩ := input_eq_ok_iff.mp hinput
  have hkept : Reuses s.entered.tree c s.ensureReady.2 s.ensureReady.1.coordinator.compiles p s' ∧
      Offers s.ensureReady.2 s' := by
    induction h with
    | first => apply hreuses
    | wait h now ih =>
      obtain ⟨hreuses, hlast, hcurrent⟩ := ih
      exact ⟨hreuses.of_notes (Becomes.refl hreuses.since.sound) rfl rfl rfl rfl, hlast, hcurrent⟩
    | invalidate h ih => apply ih.1.invalidate ih.2
    | @request s' h hsame ih =>
      apply ih.1.ensureReady ih.2
      apply input_eq_ok_iff.mpr
      refine ⟨hsame.trans hschema, ?_, hc⟩
      have hentered : s'.entered.tree = s'.tree := by simp only [entered, ih.1.entered_eq]
      rw [hentered]
      apply ih.1.userFiles_eq hs₀
  exact ⟨hkept.1.compiles, hkept.2⟩

/-- A new service in a directory with what another one has left for other inputs: a module, a mark for
the removal of an older one, and a marker. -/
def resumed : Service where
  coordinator := {
    store := .memory {
      contentTypes := [
        ⟨1, "page", "Page", none, -1, false, [], [⟨"title", "Title", none, "Textbox"⟩]⟩]
      editors := [("Textbox", .named "String")] }
    policy := .pascalAlias
    options := {}
    cache := ⟨⟨"models"⟩⟩ }
  tree := ⟨[
    (["models", "Note.rs"], .file (.text "// Pages.")),
    (["models", "models.lock"], .file (.text "")),
    (["models", "models.hash"], .file (.text "0badcafe")),
    (["models", "all.module.path"], .file (.text "Compiled/generated.0badcafe.2.module")),
    (["models", "Compiled", "generated.0badcafe.1.module.delete"], .file (.text "")),
    (["models", "Compiled", "generated.0badcafe.2.module"],
      .file (.text (Manifest.print ⟨"Generated.Models", "0badcafe", 2, []⟩))),
    (["models", "Compiled"], .directory),
    (["models"], .directory)]⟩
  lockHeld := false
  now := "noon"

theorem sound_resumed :
  resumed.tree.Sound
  := by
  decide +kernel

/-- The lock is taken without a change, and the file of users is read. -/
theorem rebuild_resumed :
  let files := [("Note.rs", "// Pages.")]
  resumed.beginBuild.rebuild =
    match Snapshot.build resumed.beginBuild.tree resumed.beginBuild.coordinator.store
        resumed.beginBuild.coordinator.policy with
    | .error e => (resumed.beginBuild, .error (.schema e))
    | .ok snapshot =>
      resumed.beginBuild.generationOf ⟨snapshot, files, Fingerprint.compute files snapshot.types⟩
  := by
  intro files
  have hleads : resumed.tree.Leads ⟨"models"⟩ ["models"] := ⟨by decide +kernel, by decide +kernel⟩
  have hnode : resumed.tree.node (resumed.coordinator.cache.path .lock) = .ok (.file (.text "")) := by
    decide +kernel
  have hlock : resumed.beginBuild.coordinator.cache.acquireLock resumed.beginBuild.tree
      resumed.beginBuild.lockHeld resumed.beginBuild.coordinator.options.lockTimeout =
        (resumed.beginBuild.tree, .ok ()) :=
    Cache.acquireLock_of_node hleads hnode
  have hfiles : resumed.beginBuild.coordinator.cache.userFiles resumed.beginBuild.tree = .ok files := by
    apply Cache.userFiles_eq (t := resumed.tree) hleads (by decide) (by decide)
    decide +kernel
  simp only [rebuild_of_acquireLock hlock, capture, hfiles]
  cases Snapshot.build resumed.beginBuild.tree resumed.beginBuild.coordinator.store
    resumed.beginBuild.coordinator.policy <;> rfl

/-- The first build succeeds and compiles a module for which there is no mark. -/
theorem ensureReady_resumed :
  resumed.ensureReady.1.coordinator.lastError = none ∧
    resumed.ensureReady.1.coordinator.compiles = 1 ∧
    ∀ m ∈ resumed.ensureReady.2.module, resumed.entered.marks m = false
  := by
  have hready : resumed.ensureReady =
      (resumed.beginBuild.buildGeneration.1.endBuild, resumed.beginBuild.buildGeneration.2) := rfl
  rw [hready, buildGeneration, rebuild_resumed]
  decide +kernel

/-- The second build compiles nothing. -/
theorem resumed_compiles_nothing :
  let s := resumed.ensureReady.1.invalidate.ensureReady.1
  Repeated resumed s ∧ s.coordinator.compiles = 1 ∧ Offers resumed.ensureReady.2 s
  := by
  obtain ⟨hok, hcompiles, hmarks⟩ := ensureReady_resumed
  obtain ⟨hstore, hpolicy, -⟩ := Coordinator.renew_inj.mp
    ((renew_invalidate resumed.ensureReady.1).trans (renew_ensureReady resumed))
  have hrepeated : Repeated resumed resumed.ensureReady.1.invalidate.ensureReady.1 := by
    apply Repeated.first.invalidate.request
    rw [schema_of_memory (hstore.trans rfl), schema_of_memory rfl, hpolicy]
  have hlasting : ∀ m, resumed.ensureReady.2.module = some m → IsLasting resumed.ensureReady.1 m := by
    intro m hm
    apply isLasting_of_compiled sound_resumed rfl hok _ hm (hmarks m hm)
    rw [hcompiles]
    decide
  obtain ⟨hsame, hoffers⟩ :=
    hrepeated.compiles_nothing sound_resumed rfl (by simp [resumed]) rfl hok hlasting
  exact ⟨hrepeated, hsame.trans hcompiles, hoffers⟩

end LiveModels.Service
