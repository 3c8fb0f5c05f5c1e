import LiveModels.Proofs.Compiled.NoManifest
import LiveModels.Proofs.Files.Texts
import LiveModels.Proofs.Reload.Coherence

/-!
# Names of published modules

Coordinators work on the same models directory one after another, each with options of its own. A
stored module is taken for its fingerprint alone, in which the name of the module has no part. The
module of a generation has therefore the name that was configured where it was compiled: it is the
name of the coordinator that publishes it if its build has compiled, and otherwise that of an earlier
one, or any name if the module was put there by others. It is the configured name in any case if all
coordinators are given the same one.

What carries this is where the manifests come from that are among the files: each is that of a module
which was compiled, or was brought by others. Nothing else that a coordinator writes is a manifest.
-/

namespace LiveModels.Staged

/-! ### One coordinator after another -/

/-- Whether a text is a manifest of a kind, if it is one at all. -/
def Tells (known : Manifest → Prop) (text : String) : Prop :=
  ∀ m, Manifest.parse text = .ok m → known m

/-- Whether others bring manifests of a kind only. -/
def Brings (foreign : Manifest → Prop) (_ : Cache) (t t' : Tree) : Prop :=
  t.Writes (Tells foreign) t'

/-- The name that a coordinator gives to its modules, and what was observed of it. -/
structure Life where
  moduleName : String
  log : List Sight

/-- The life of a coordinator up to now. -/
def life (m : Staged) : Life :=
  ⟨m.service.coordinator.options.moduleName, m.log⟩

/-- The lives of the coordinators before, and the state that is reached by the present one. Each may
be cut off at any point, and be followed by a new one with other options. Others bring manifests of
one kind only. -/
inductive Lives (foreign : Manifest → Prop) : List Life → Staged → Prop
  | start {s : Service} (hnew : IsNew s) (hnow : Tells foreign s.now)
      (htree : ∀ text, s.tree.Holds text → Tells foreign text) :
    Lives foreign [] ⟨s, .idle, []⟩
  | step {past : List Life} {m m' : Staged} (h : Lives foreign past m)
      (hstep : Step (Brings foreign) m m') (hnow : Tells foreign m'.service.now) :
    Lives foreign past m'
  | restart {past : List Life} {m : Staged} {s : Service} (h : Lives foreign past m)
      (hnew : IsNew s) (hnow : Tells foreign s.now)
      (htree : Brings foreign s.coordinator.cache m.service.tree s.tree) :
    Lives foreign (past ++ [m.life]) ⟨s, .idle, []⟩

/-- Whether a manifest is that of a module that was compiled in some life, and has the name that was
configured there, or comes from others. -/
def Comes (foreign : Manifest → Prop) (lives : List Life) (manifest : Manifest) : Prop :=
  foreign manifest ∨ ∃ life ∈ lives, ∃ location,
    .compiled (manifest.toModule location) ∈ life.log ∧ manifest.name = life.moduleName

variable {foreign known known' : Manifest → Prop} {past : List Life} {m m' : Staged}
  {l : List Sight} {i j : Nat} {e : Sight} {c : Service.Capture} {origin : Origin} {g : Generation}
  {stage stage' : Stage} {s s' : Service} {module : Module} {name text : String}
  {sight : Option Sight}

/-! ### Sources of modules -/

theorem Tells.mono (h : Tells known text) (hknown : ∀ manifest, known manifest → known' manifest) :
  Tells known' text
  := fun manifest hparse => hknown manifest (h manifest hparse)

theorem tells_of_isNoManifest (h : IsNoManifest text) :
  Tells known text
  := fun manifest hparse => absurd hparse (h manifest)

/-- Whether a module was compiled by a build itself, under a name, or stands for a known manifest. -/
inductive Stems (known : Manifest → Prop) (name : String) (l : List Sight) :
    Origin → Module → Prop
  | compiled {module : Module} (hname : module.name = name) (hmem : .compiled module ∈ l) :
    Stems known name l .compiled module
  | reused {manifest : Manifest} (hknown : known manifest) (location : Path) :
    Stems known name l .reused (manifest.toModule location)

theorem Stems.mono {l' : List Sight} (h : Stems known name l origin module)
    (hknown : ∀ manifest, known manifest → known' manifest) (hl : ∀ e ∈ l, e ∈ l') :
  Stems known' name l' origin module
  := by
  cases h with
  | compiled hname hmem => exact .compiled hname (hl _ hmem)
  | reused hmanifest location => exact .reused (hknown _ hmanifest) location

/-- Whether a generation has a module that stems from somewhere known, or stands in for a build that
failed and has none. -/
def Shows (known : Manifest → Prop) (name : String) (l : List Sight) (origin : Origin)
    (g : Generation) : Prop :=
  g.isDegraded = true ∧ g.module = none ∨
    g.isDegraded = false ∧ ∃ module, g.module = some module ∧ Stems known name l origin module

theorem Shows.mono {l' : List Sight} (h : Shows known name l origin g)
    (hknown : ∀ manifest, known manifest → known' manifest) (hl : ∀ e ∈ l, e ∈ l') :
  Shows known' name l' origin g
  := by
  rcases h with hnone | ⟨hmodels, module, hmodule, hstems⟩
  · exact .inl hnone
  · exact .inr ⟨hmodels, module, hmodule, hstems.mono hknown hl⟩

/-- What a build knows of its module in a stage; what it is about to write is no manifest. -/
def Names (known : Manifest → Prop) (name : String) (l : List Sight) : Stage → Prop
  | .found _ (.module module _) | .skipped _ module _ => Stems known name l .reused module
  | .storing _ _ _ steps => ∀ step ∈ steps, IsNoManifest step.text
  | .committing _ _ _ module steps => Stems known name l .compiled module ∧
    ∀ step ∈ steps, IsNoManifest step.text
  | .produced _ origin p => Stems known name l origin p.module
  | .built origin g => Shows known name l origin g
  | .standing g => Shows known name l .standIn g
  | _ => True

theorem Names.mono {l' : List Sight} (h : Names known name l stage)
    (hknown : ∀ manifest, known manifest → known' manifest) (hl : ∀ e ∈ l, e ∈ l') :
  Names known' name l' stage
  := by
  cases stage with
  | found c lookup =>
    cases lookup with
    | module module source => exact Stems.mono h hknown hl
    | source text => trivial
    | miss => trivial
  | skipped c module source => exact Stems.mono h hknown hl
  | storing => exact h
  | committing => exact ⟨h.1.mono hknown hl, h.2⟩
  | produced => exact Stems.mono h hknown hl
  | built => exact Shows.mono h hknown hl
  | standing => exact Shows.mono h hknown hl
  | idle | begun | cleared | locked | viewed | captured | pointed | emitting | published | tidied
  | failed | noted | announcing | settled => trivial

/-! ### What a step writes -/

/-- What is known after something was observed: a module may have been compiled. -/
def Learns (known : Manifest → Prop) (name : String) (sight : Option Sight)
    (manifest : Manifest) : Prop :=
  known manifest ∨
    ∃ location, sight = some (.compiled (manifest.toModule location)) ∧ manifest.name = name

/-- A step of a build writes no manifest but that of the module that is compiled in it. -/
theorem Work.writes (h : Work stage s sight stage' s') (hnames : Names known name l stage)
    (hname : s.coordinator.options.moduleName = name) :
  s.tree.Writes (Tells (Learns known name sight)) s'.tree
  := by
  cases h with
  | store hrun | failStore hrun =>
    exact Cache.Step.writes_run hrun (tells_of_isNoManifest (hnames _ List.mem_cons_self))
  | commit hrun | failCommit hrun =>
    exact Cache.Step.writes_run hrun (tells_of_isNoManifest (hnames.2 _ List.mem_cons_self))
  | compile hcompile =>
    apply Manifest.writes_compile hcompile
    intro manifest hmanifest hmodule manifest' hparse
    cases hmodule
    rw [Manifest.parse_print, Except.ok.injEq] at hparse
    subst hparse
    obtain ⟨header, -, rfl⟩ := Manifest.ofSource_eq_ok hmanifest
    exact .inr ⟨_, rfl, hname⟩
  | reject hcompile =>
    apply Manifest.writes_compile hcompile
    intro manifest hmanifest hmodule
    cases hmodule
  | prune => exact Cache.writes_pruneEntries _ _ _ (tells_of_isNoManifest isNoManifest_empty)
  | _ => apply Tree.Writes.refl

theorem Move.writes (h : Move stage s sight stage' s') (hnames : Names known name l stage)
    (hname : s.coordinator.options.moduleName = name) :
  s.tree.Writes (Tells (Learns known name sight)) s'.tree
  := by
  cases h with
  | lock hlock | failLock hlock =>
    have hempty : Tells (Learns known name (some (.entered
        (s.tree.makeDirectories s.coordinator.cache.directory).2))) "" :=
      tells_of_isNoManifest isNoManifest_empty
    have hwrites := Cache.writes_acquireLock s.coordinator.cache s.tree s.lockHeld
      s.coordinator.options.lockTimeout hempty
    rw [hlock] at hwrites
    exact hwrites
  | work hwork => apply hwork.writes hnames hname
  | tidy => apply Cache.writes_discard
  | unflag =>
    unfold Service.clearOutOfDate
    split
    · apply Tree.Writes.refl
    · apply Cache.writes_discard
  | note e => exact Cache.writes_replace _ _ _ (tells_of_isNoManifest (isNoManifest_record _))
  | _ => apply Tree.Writes.refl

/-- An invalidation writes the time. -/
theorem writes_invalidate (h : Tells known s.now) :
  s.tree.Writes (Tells known) s.invalidate.tree
  := by
  simp only [Service.invalidate]
  split
  · apply Tree.Writes.refl
  · dsimp only
    split
    · apply Cache.writes_replace _ _ _ h
    · apply Tree.Writes.refl

/-! ### What a build learns -/

/-- A module that is found stands for a known manifest if all manifests are known. -/
theorem names_found {found : Option Module} {bundle : Option String}
    (h : ∀ module, found = some module → Stems known name l .reused module) :
  Names known name l (.found c (Cache.choose found bundle))
  := by
  cases found with
  | some module => exact h module rfl
  | none => cases bundle <;> trivial

/-- A module is loaded from a manifest among the files. -/
theorem stems_of_moduleFor? {t : Tree} {fingerprint : String} {location : Path}
    (htree : ∀ text, t.Holds text → Tells known text)
    (h : Cache.moduleFor? t fingerprint location = some module) :
  Stems known name l .reused module
  := by
  obtain ⟨text, manifest, hread, hparse, rfl, -⟩ := Cache.moduleFor?_eq_some h
  exact .reused (htree text (Tree.holds_of_readText hread) manifest hparse) location

/-- What is stored before and after the compilation is no manifest. -/
theorem isNoManifest_of_mem_stage {job : Cache.Job} {header : Header} {step : Cache.Step}
    (hgenerated : ∀ text, job.generated = some text → IsNoManifest text)
    (hheader : Bundle.header? job.source = some header) (h : step ∈ job.stage) :
  IsNoManifest step.text
  := by
  rcases List.mem_append.mp h with hmem | hmem
  · obtain ⟨text, htext, rfl⟩ := Option.map_eq_some_iff.mp (Option.mem_toList.mp hmem)
    apply hgenerated text htext
  · obtain rfl := List.mem_singleton.mp hmem
    apply isNoManifest_of_header? hheader

theorem isNoManifest_of_mem_commit {job : Cache.Job} {step : Cache.Step}
    (hfingerprint : ∀ d ∈ job.fingerprint.toList, Text.isLowerHex d = true)
    (h : step ∈ job.commit) :
  IsNoManifest step.text
  := by
  rcases List.mem_cons.mp h with rfl | hmem
  · apply isNoManifest_relativePath
  · obtain rfl := List.mem_singleton.mp hmem
    apply isNoManifest_of_isLowerHex hfingerprint

/-- What is compiled again has no emitted source. -/
theorem generated_ofSource {fingerprint : String} {job : Cache.Job}
    (h : Cache.Job.ofSource fingerprint text = .ok job) :
  job.generated = none
  := by
  unfold Cache.Job.ofSource at h
  split at h <;> cases h
  rfl

/-- A build knows of its module in the next stage what it has to. -/
theorem Work.names (h : Work stage s sight stage' s') (hnames : Names known name l stage)
    (hknows : Knows l stage) (hname : s.coordinator.options.moduleName = name)
    (htree : ∀ text, s.tree.Holds text → Tells known text) :
  Names known name (l ++ sight.toList) stage'
  := by
  have hl : ∀ e ∈ l, e ∈ l ++ sight.toList := fun e he => List.mem_append_left _ he
  cases h with
  | view | failView | read | failRead | lackMarker | failSource | reserveEmission | failEmit
  | failStore | reject | failCompile | failCommit | misshape => trivial
  | lackModule =>
    apply names_found
    simp
  | point => trivial
  | load =>
    apply names_found
    intro module
    apply stems_of_moduleFor? htree
  | failLoad =>
    apply names_found
    simp
  | skip => exact Stems.mono hnames (fun _ h => h) hl
  | reserveReuse => exact Stems.mono hnames (fun _ h => h) hl
  | reserveSource hjob =>
    intro step hstep
    apply isNoManifest_of_mem_stage _ (header?_ofSource hknows.2 hjob).2 hstep
    simp [generated_ofSource hjob]
  | emit _ c version =>
    intro step hstep
    have hheader : Bundle.header? (Cache.Job.ofBundle (bundle c version)).source = some _ :=
      header?_bundle (c := c) hknows.fingerprint version
    apply isNoManifest_of_mem_stage _ hheader hstep
    intro text htext
    cases htext
    apply isNoManifest_emit
  | store => exact fun step hstep => hnames step (List.mem_cons_of_mem _ hstep)
  | compile hcompile =>
    constructor
    · obtain ⟨manifest, hmanifest, rfl⟩ := Manifest.ofSource_of_compile hcompile
      obtain ⟨header, -, rfl⟩ := Manifest.ofSource_eq_ok hmanifest
      exact .compiled hname (List.mem_append_right _ (List.mem_singleton.mpr rfl))
    · intro step hstep
      apply isNoManifest_of_mem_commit _ hstep
      rw [hknows.2.1, hknows.1.fingerprint]
      apply Combiner.isLowerHex_of_mem_text
  | commit =>
    use hnames.1.mono (fun _ h => h) hl
    exact fun step hstep => hnames.2 step (List.mem_cons_of_mem _ hstep)
  | prune => exact hnames.1.mono (fun _ h => h) hl
  | register => exact .inr ⟨rfl, _, rfl, Stems.mono hnames (fun _ h => h) hl⟩

theorem Move.names (h : Move stage s sight stage' s') (hnames : Names known name l stage)
    (hknows : Knows l stage) (hname : s.coordinator.options.moduleName = name)
    (htree : ∀ text, s.tree.Holds text → Tells known text) :
  Names known name (l ++ sight.toList) stage'
  := by
  cases h with
  | work hwork => apply hwork.names hnames hknows hname htree
  | call =>
    rw [Option.toList_none, List.append_nil]
    apply hnames
  | degrade => exact .inl ⟨rfl, rfl⟩
  | begin | clear | lock | failLock | publish | tidy | unflag | note | keep | standIn | announce
  | finish => trivial

/-! ### The invariant -/

/-- The generation that is published, if any. -/
def published? : Sight → Option Generation
  | .published _ g => some g
  | _ => none

/-- Nothing but a publication changes the generation in use. -/
theorem Move.current_eq (h : Move stage s sight stage' s') :
  s'.coordinator.current = (sight.bind published?).or s.coordinator.current
  := by
  cases h with
  | work hwork => cases hwork <;> rfl
  | unflag =>
    rw [Service.clearOutOfDate_eq]
    rfl
  | _ => rfl

theorem Move.options_eq (h : Move stage s sight stage' s') :
  s'.coordinator.options = s.coordinator.options
  := by
  cases h with
  | work hwork => cases hwork <;> rfl
  | unflag => rw [Service.clearOutOfDate_eq]
  | _ => rfl

/-- What is kept from one coordinator to the next: all manifests among the files are those of modules
that were compiled, or come from others. So do the modules of published generations, unless the build
has compiled them. The generation in use is the one that was published last. -/
structure Traced (foreign : Manifest → Prop) (past : List Life) (m : Staged) : Prop where
  tree : ∀ text, m.service.tree.Holds text → Tells (Comes foreign (past ++ [m.life])) text
  names : Names (Comes foreign (past ++ [m.life])) m.service.coordinator.options.moduleName m.log
    m.stage
  published : ∀ i origin g, At m.log i (.published origin g) →
    Shows (Comes foreign (past ++ [m.life])) m.service.coordinator.options.moduleName m.log origin g
  current : m.service.coordinator.current = (m.log.filterMap published?).getLast?

/-- A coordinator begins with what is known of those before. -/
theorem comes_append {lives lives' : List Life} {manifest : Manifest}
    (h : Comes foreign lives manifest) :
  Comes foreign (lives ++ lives') manifest
  := by
  rcases h with hforeign | ⟨life, hlife, hmanifest⟩
  · exact .inl hforeign
  · exact .inr ⟨life, List.mem_append_left _ hlife, hmanifest⟩

/-- What is observed adds to what is known. -/
theorem comes_of_learns {manifest : Manifest} {log : List Sight}
    (h : Learns (Comes foreign (past ++ [⟨name, log⟩])) name sight manifest) :
  Comes foreign (past ++ [⟨name, log ++ sight.toList⟩]) manifest
  := by
  rcases h with (hforeign | ⟨life, hlife, location, hmem, hname⟩) | ⟨location, hsight, hname⟩
  · exact .inl hforeign
  · rcases List.mem_append.mp hlife with hpast | hnow
    · exact .inr ⟨life, List.mem_append_left _ hpast, location, hmem, hname⟩
    · obtain rfl := List.mem_singleton.mp hnow
      exact .inr ⟨_, List.mem_append_right _ (List.mem_singleton.mpr rfl), location,
        List.mem_append_left _ hmem, hname⟩
  · refine .inr ⟨_, List.mem_append_right _ (List.mem_singleton.mpr rfl), location, ?_, hname⟩
    rw [hsight]
    apply List.mem_append_right _ (List.mem_singleton.mpr rfl)

namespace Traced

/-- A new coordinator knows what those before have left. -/
theorem start (hnew : IsNew s)
    (htree : ∀ text, s.tree.Holds text → Tells (Comes foreign past) text) :
  Traced foreign past ⟨s, .idle, []⟩
  := by
  obtain ⟨store, policy, options, cache, script, hnew⟩ := hnew
  constructor
  · intro text htext
    exact (htree text htext).mono fun manifest hmanifest => comes_append hmanifest
  · trivial
  · intro i origin g hi
    cases hi
  · simp [hnew]

/-- Nothing but what is observed adds to what is known. -/
theorem observe (h : Traced foreign past ⟨s, stage, l⟩) (sight : Option Sight)
    (hoptions : s'.coordinator.options = s.coordinator.options)
    (hwrites : s.tree.Writes (Tells (Learns (Comes foreign (past ++ [life ⟨s, stage, l⟩]))
      s.coordinator.options.moduleName sight)) s'.tree)
    (hnames : Names (Comes foreign (past ++ [life ⟨s, stage, l⟩])) s.coordinator.options.moduleName
      (l ++ sight.toList) stage')
    (hcurrent : s'.coordinator.current = (sight.bind published?).or s.coordinator.current)
    (hpublished : ∀ origin g, sight = some (.published origin g) →
      Shows (Comes foreign (past ++ [life ⟨s, stage, l⟩])) s.coordinator.options.moduleName l origin
        g) :
  Traced foreign past ⟨s', stage', l ++ sight.toList⟩
  := by
  have hcomes : ∀ manifest, Learns (Comes foreign (past ++ [life ⟨s, stage, l⟩]))
      s.coordinator.options.moduleName sight manifest →
      Comes foreign (past ++ [life ⟨s', stage', l ++ sight.toList⟩]) manifest := by
    intro manifest hmanifest
    simp only [life, hoptions]
    apply comes_of_learns hmanifest
  have hkept : ∀ manifest, Comes foreign (past ++ [life ⟨s, stage, l⟩]) manifest →
      Comes foreign (past ++ [life ⟨s', stage', l ++ sight.toList⟩]) manifest :=
    fun manifest hmanifest => hcomes manifest (.inl hmanifest)
  constructor
  · intro text htext
    rcases hwrites text htext with hold | hnew
    · exact (h.tree text hold).mono hkept
    · exact hnew.mono hcomes
  · dsimp only
    rw [hoptions]
    apply hnames.mono hkept fun _ he => he
  · intro i origin g hi
    have hshows : Shows (Comes foreign (past ++ [life ⟨s, stage, l⟩]))
        s.coordinator.options.moduleName l origin g := by
      cases sight with
      | none =>
        rw [Option.toList_none, List.append_nil] at hi
        apply h.published i origin g hi
      | some e =>
        rcases at_append_iff.mp hi with hold | ⟨-, hnew⟩
        · apply h.published i origin g hold
        · apply hpublished origin g (congrArg some hnew)
    dsimp only
    rw [hoptions]
    exact hshows.mono hkept fun _ he => List.mem_append_left _ he
  · have hbefore : s.coordinator.current = (l.filterMap published?).getLast? := h.current
    rw [hcurrent, hbefore, List.filterMap_append, List.getLast?_append]
    cases sight with
    | none => rfl
    | some e => cases e <;> rfl

theorem move (h : Traced foreign past ⟨s, stage, l⟩) (hknows : Knows l stage)
    (hmove : Move stage s sight stage' s') :
  Traced foreign past ⟨s', stage', l ++ sight.toList⟩
  := by
  apply h.observe sight hmove.options_eq (hmove.writes h.names rfl)
    (hmove.names h.names hknows rfl h.tree) hmove.current_eq
  intro origin g hsight
  have hnames := h.names
  cases hmove with
  | work hwork => cases hwork <;> cases hsight
  | publish | standIn =>
    cases hsight
    exact hnames
  | _ => cases hsight

theorem step (h : Traced foreign past m) (hcoherent : Coherent m)
    (hstep : Step (Brings foreign) m m') (hnow : Tells foreign m.service.now) :
  Traced foreign past m'
  := by
  have hforeign : ∀ sight manifest, foreign manifest → Learns (Comes foreign (past ++ [m.life]))
      m.service.coordinator.options.moduleName sight manifest := fun _ _ h => .inl (.inl h)
  cases hstep with
  | move hmove => apply h.move hcoherent.knows hmove
  | invalidate =>
    have hcoordinator := Service.coordinator_invalidate m.service
    refine h.observe (some (.invalidated _ _)) ?_ ?_ ?_ ?_ (by simp)
    · rw [hcoordinator]
    · exact writes_invalidate (hnow.mono (hforeign _))
    · exact h.names.mono (fun _ h => h) fun _ he => List.mem_append_left _ he
    · rw [hcoordinator]
      rfl
  | @elsewhere store script tree lockHeld now htree =>
    have hnames := h.names
    rw [← List.append_nil m.log] at hnames
    let s' : Service := ⟨{ m.service.coordinator with store, script }, tree, lockHeld, now⟩
    have hoptions : s'.coordinator.options = m.service.coordinator.options := rfl
    have hobserved := h.observe none hoptions
      (htree.mono fun text htext => htext.mono (hforeign _)) hnames rfl (by simp)
    rw [Option.toList_none, List.append_nil] at hobserved
    exact hobserved

end Traced

namespace Lives

theorem tells_now (h : Lives foreign past m) :
  Tells foreign m.service.now
  := by
  cases h with
  | start _ hnow => exact hnow
  | step _ _ hnow => exact hnow
  | restart _ _ hnow => exact hnow

/-- The present coordinator was new at first. -/
theorem exists_reached (h : Lives foreign past m) :
  ∃ s, Reached (Brings foreign) s m
  := by
  induction h with
  | start hnew => exact ⟨_, .start hnew⟩
  | step _ hstep _ ih =>
    obtain ⟨s, hs⟩ := ih
    exact ⟨s, hs.step hstep⟩
  | restart _ hnew => exact ⟨_, .start hnew⟩

theorem traced (h : Lives foreign past m) :
  Traced foreign past m
  := by
  induction h with
  | start hnew _ htree =>
    apply Traced.start hnew
    intro text htext
    exact (htree text htext).mono fun manifest hforeign => .inl hforeign
  | step h hstep _ ih =>
    obtain ⟨s, hs⟩ := h.exists_reached
    apply ih.step hs.coherent hstep h.tells_now
  | @restart past m s h hnew _ htree ih =>
    apply Traced.start hnew
    intro text htext
    rcases htree text htext with hold | hforeign
    · apply ih.tree text hold
    · exact hforeign.mono fun manifest hforeign => .inl hforeign

end Lives

/-! ### Names -/

/-- The generation that was published last has its place in the log. -/
theorem exists_at_of_getLast? (h : (l.filterMap published?).getLast? = some g) :
  ∃ i origin, At l i (.published origin g) ∧ ∀ j origin' g', At l j (.published origin' g') → j ≤ i
  := by
  induction l using List.reverseRecOn with
  | nil => cases h
  | append_singleton l e ih =>
    rw [List.filterMap_append, List.getLast?_append] at h
    cases hpublished : published? e with
    | none =>
      have hnone : List.filterMap published? [e] = [] := by
        simp [hpublished]
      rw [hnone] at h
      obtain ⟨i, origin, hi, hlast⟩ := ih h
      use i, origin, hi.append e
      intro j origin' g' hj
      apply hlast j origin' g'
      apply hj.of_append
      rintro rfl
      cases hpublished
    | some g' =>
      have hsome : List.filterMap published? [e] = [g'] := by
        simp [hpublished]
      rw [hsome] at h
      cases h
      cases e with
      | published origin g =>
        cases hpublished
        use l.length, origin, at_length l _
        intro j origin' g' hj
        have hlt := hj.lt
        rw [List.length_append, List.length_singleton] at hlt
        omega
      | _ => cases hpublished

/-- The module of a published generation has the name that was configured where it was compiled: by
the coordinator that publishes it if its build has compiled, and else by one before, unless the module
was brought by others. So it has the configured name if all are given the same one, and this is the
name that is reported to what is compiled against the models. -/
theorem Lives.names_modules (h : Lives foreign past m) :
  (∀ i origin g, At m.log i (.published origin g) → g.isDegraded = false →
    ∃ module, g.module = some module
      ∧ (origin = .compiled ∧ .compiled module ∈ m.log
          ∧ module.name = m.service.coordinator.options.moduleName
        ∨ origin = .reused ∧ ∃ manifest location, module = manifest.toModule location
          ∧ Comes foreign (past ++ [m.life]) manifest)
      ∧ ∀ name, (∀ life ∈ past ++ [m.life], life.moduleName = name) →
          (∀ manifest, foreign manifest → manifest.name = name) → module.name = name)
  ∧ ∀ name, m.service.compileDependent = some name →
      ∃ i origin g module, At m.log i (.published origin g)
        ∧ (∀ j origin' g', At m.log j (.published origin' g') → j ≤ i)
        ∧ g.isDegraded = false ∧ g.module = some module ∧ module.name = name
  := by
  have htraced := h.traced
  constructor
  · intro i origin g hi hmodels
    rcases htraced.published i origin g hi with ⟨hdegraded, -⟩ | ⟨-, module, hmodule, hstems⟩
    · rw [hmodels] at hdegraded
      cases hdegraded
    · use module, hmodule
      cases hstems with
      | compiled hname hmem =>
        use .inl ⟨rfl, hmem, hname⟩
        intro name hsame _
        rw [hname]
        exact hsame m.life (List.mem_append_right _ (List.mem_singleton.mpr rfl))
      | @reused manifest hcomes location =>
        use .inr ⟨rfl, manifest, location, rfl, hcomes⟩
        intro name hsame hothers
        rcases hcomes with hforeign | ⟨life, hlife, -, -, hname⟩
        · exact hothers manifest hforeign
        · exact hname.trans (hsame life hlife)
  · intro name hname
    obtain ⟨module, hmodule, rfl⟩ := Option.map_eq_some_iff.mp hname
    obtain ⟨g, hg, hmodule⟩ := Option.bind_eq_some_iff.mp hmodule
    rw [htraced.current] at hg
    obtain ⟨i, origin, hi, hlast⟩ := exists_at_of_getLast? hg
    refine ⟨i, origin, g, module, hi, hlast, ?_, hmodule, rfl⟩
    -- a generation that stands in for a failed build has no module
    rcases htraced.published i origin g hi with ⟨-, hnone⟩ | ⟨hmodels, -⟩
    · rw [hnone] at hmodule
      cases hmodule
    · exact hmodels

/-! ### Two names -/

theorem Move.now_eq (h : Move stage s sight stage' s') :
  s'.now = s.now
  := by
  cases h with
  | work hwork => cases hwork <;> rfl
  | unflag => rw [Service.clearOutOfDate_eq]
  | _ => rfl

/-- What a coordinator does while others do nothing. -/
theorem Lives.of_reached (h : Lives foreign past ⟨s, .idle, []⟩)
    (hreached : Reached (fun _ _ _ => False) s m) :
  Lives foreign past m ∧ m.service.now = s.now
  := by
  induction hreached with
  | start => exact ⟨h, rfl⟩
  | step _ hstep ih =>
    obtain ⟨hlives, hnow⟩ := ih
    cases hstep with
    | move hmove =>
      have hsame := hmove.now_eq.trans hnow
      use hlives.step (.move hmove) (by rw [hsame]; exact h.tells_now), hsame
    | invalidate =>
      have hsame := (Service.now_invalidate _).trans hnow
      use hlives.step (.invalidate _) (by rw [hsame]; exact h.tells_now), hsame
    | elsewhere _ _ _ _ hothers => exact hothers.elim

/-- A new coordinator where there are no files and no types. -/
def bare : Service where
  coordinator := { store := .memory {}, policy := .pascalAlias, options := {}, cache := ⟨⟨"models"⟩⟩ }
  tree := ⟨[]⟩
  lockHeld := false
  now := "noon"

/-- A new coordinator that is given another name, on what the first build of another has left. -/
def renamed : Service where
  coordinator := {
    store := .memory {}
    policy := .pascalAlias
    options := { moduleName := "Site.Models" }
    cache := ⟨⟨"models"⟩⟩ }
  tree := ⟨[
    (["models", "models.hash"], .file (.text "00001505")),
    (["models", "all.module.path"], .file (.text "Compiled/generated.00001505.1.module")),
    (["models", "Compiled", "generated.00001505.1.module"],
      .file (.text (Manifest.print ⟨"Generated.Models", "00001505", 1, []⟩))),
    (["models", "Compiled"], .directory),
    (["models", "all.generated.rs"],
      .file (.text (Bundle.render ⟨"00001505", 1, [], Emission.emit ⟨[]⟩ []⟩))),
    (["models", "models.generated.rs"], .file (.text (Emission.emit ⟨[]⟩ []))),
    (["models", "models.lock"], .file (.text "")),
    (["models"], .directory)]⟩
  lockHeld := false
  now := "noon"

theorem tree_ensureReady_bare :
  bare.ensureReady.1.tree = renamed.tree
  := by
  have hentries : bare.ensureReady.1.tree.entries = renamed.tree.entries := by
    decide +kernel
  generalize bare.ensureReady.1.tree = tree at hentries
  obtain ⟨entries⟩ := tree
  exact congrArg Tree.mk hentries

/-- The module that is found. -/
def renamedModule : Module :=
  (Manifest.mk "Generated.Models" "00001505" 1 []).toModule
    ⟨"models/Compiled/generated.00001505.1.module"⟩

/-- The bundle that is found. -/
def renamedSource : String :=
  Bundle.render ⟨"00001505", 1, [], Emission.emit ⟨[]⟩ []⟩

/-- The generation that is made of the module. -/
def renamedGeneration : Generation :=
  generation shelvedCapture ⟨renamedModule, renamedSource, 2⟩ .empty "noon"

/-- What is observed of the first build, up to the publication. -/
def renamedLog : List Sight :=
  [.cleared, .entered (.ok ()), .read shelvedCapture, .reused renamedModule, .reserved 2,
    .published .reused renamedGeneration]

/-- The coordinator finds the module, and publishes it. -/
theorem reached_renamed {r : Cache → Tree → Tree → Prop} :
  ∃ s, Reached r renamed ⟨s, .published renamedGeneration, renamedLog⟩
    ∧ s.coordinator.options.moduleName = "Site.Models"
    ∧ s.compileDependent = some "Generated.Models"
  := by
  have hleads : renamed.tree.Leads ⟨"models"⟩ ["models"] := by
    constructor
    · decide +kernel
    · decide +kernel
  have hlock : renamed.coordinator.cache.acquireLock renamed.tree renamed.lockHeld
      renamed.coordinator.options.lockTimeout = (renamed.tree, .ok ()) := by
    have hnode : renamed.tree.node (renamed.coordinator.cache.path .lock) = .ok (.file (.text "")) := by
      decide +kernel
    exact Cache.acquireLock_of_node hleads hnode
  have hfiles : renamed.coordinator.cache.userFiles renamed.tree = .ok [] := by
    apply Cache.userFiles_eq hleads (by decide) (by decide)
    decide +kernel
  have hmodule : Cache.moduleFor? renamed.tree shelvedCapture.fingerprint renamedModule.location =
      some renamedModule := by
    have hfingerprint : shelvedCapture.fingerprint = "00001505" := by
      decide +kernel
    have hread : renamed.tree.readText renamedModule.location =
        .ok (Manifest.print ⟨"Generated.Models", "00001505", 1, []⟩) := by
      decide +kernel
    rw [hfingerprint]
    exact Cache.moduleFor?_eq_of_parse hread (Manifest.parse_print _)
  have hstart : Reached r renamed ⟨renamed, .idle, []⟩ := .start ⟨_, _, _, _, _, rfl⟩
  have hread : Reached r renamed ⟨renamed.beginBuild, .captured shelvedCapture,
      [.cleared, .entered (.ok ()), .read shelvedCapture]⟩ :=
    hstart.capture (by decide +kernel) hlock (build_memory_nil _) hfiles rfl
  have hpath : renamed.beginBuild.coordinator.cache.modulePath? renamed.beginBuild.tree =
      some renamedModule.location := by
    decide +kernel
  have hbundle : renamed.beginBuild.coordinator.cache.bundleFor? renamed.beginBuild.tree
      shelvedCapture.fingerprint = some renamedSource := by
    decide +kernel
  have hregistry : Registry.build renamedModule = .ok .empty := rfl
  have hbuilt := hread.reuse (by decide +kernel) hpath hbundle hmodule hregistry rfl
  exact ⟨_, hbuilt.move (.publish _ _ _), rfl, rfl⟩

/-- The second coordinator works after the first. -/
theorem lives_renamed :
  ∃ past m, Lives (fun _ => False) past m ∧ m.log = renamedLog
    ∧ m.service.coordinator.options.moduleName = "Site.Models"
    ∧ m.service.compileDependent = some "Generated.Models"
  := by
  have hhead : "noon".toList.head? = some 'n' := by decide
  have hnow : Tells (fun _ => False) "noon" :=
    tells_of_isNoManifest (isNoManifest_of_head?_eq hhead (by decide))
  have hbare : Lives (fun _ => False) [] ⟨bare, .idle, []⟩ := by
    apply Lives.start ⟨_, _, _, _, _, rfl⟩ hnow
    rintro text ⟨q, hq⟩
    by_cases hroot : q = [] <;> simp [Tree.get?, bare, hroot] at hq
  have hfirst : Reached (fun _ _ _ => False) bare ⟨bare, .idle, []⟩ :=
    .start ⟨_, _, _, _, _, rfl⟩
  obtain ⟨news, hbuilt⟩ := hfirst.ensureReady
  have hrenamed := (hbare.of_reached hbuilt).1.restart (s := renamed) ⟨_, _, _, _, _, rfl⟩ hnow (by
    rw [Brings, tree_ensureReady_bare]
    apply Tree.Writes.refl)
  obtain ⟨s, hs, hnames⟩ := reached_renamed (r := fun _ _ _ => False)
  exact ⟨_, _, (hrenamed.of_reached hs).1, rfl, hnames⟩

/-- What the second coordinator publishes has the name that was configured for the first. -/
theorem renamed_publishes_first_name :
  ∃ past m g module, Lives (fun _ => False) past m ∧ At m.log 5 (.published .reused g)
    ∧ g.isDegraded = false ∧ g.module = some module
    ∧ module.name ≠ m.service.coordinator.options.moduleName
    ∧ m.service.compileDependent ≠ some m.service.coordinator.options.moduleName
  := by
  obtain ⟨past, m, hlives, hlog, hoptions, hdependent⟩ := lives_renamed
  refine ⟨past, m, renamedGeneration, renamedModule, hlives, ?_, rfl, rfl, ?_, ?_⟩
  · rw [hlog]
    rfl
  · rw [hoptions]
    decide
  · rw [hoptions, hdependent]
    decide

/-- The name that is reported is that of a module which the first coordinator has compiled. -/
theorem renamed_comes_from_first :
  ∃ past m, Lives (fun _ => False) past m
    ∧ (∃ manifest location, renamedModule = manifest.toModule location
      ∧ Comes (fun _ => False) (past ++ [m.life]) manifest)
    ∧ ∃ i origin g module, At m.log i (.published origin g) ∧ g.module = some module
      ∧ module.name = "Generated.Models"
  := by
  obtain ⟨past, m, hlives, hlog, -, hdependent⟩ := lives_renamed
  refine ⟨past, m, hlives, ?_, ?_⟩
  · have hpublished : At m.log 5 (.published .reused renamedGeneration) := by
      rw [hlog]
      rfl
    obtain ⟨module, hmodule, ⟨horigin, -⟩ | ⟨-, hcomes⟩, -⟩ :=
      hlives.names_modules.1 5 .reused renamedGeneration hpublished rfl
    · cases horigin
    · cases hmodule
      exact hcomes
  · obtain ⟨i, origin, g, module, hi, -, -, hmodule, hname⟩ :=
      hlives.names_modules.2 "Generated.Models" hdependent
    exact ⟨i, origin, g, module, hi, hmodule, hname⟩

end LiveModels.Staged
